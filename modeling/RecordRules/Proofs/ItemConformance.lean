import RecordRules.Item.Catalog
import RecordRules.Item.Records
import RecordRules.Proofs.Answers
import RecordRules.Proofs.TypeSafety
import RecordRules.Regex.Library

namespace RecordRules

/-- The average damage of the weapon can be computed. -/
def Weapon.HasAverage (w : Weapon) : Prop :=
  Int64.minValue.toInt ≤ w.physicalMin.toInt + w.physicalMax.toInt ∧
    w.physicalMin.toInt + w.physicalMax.toInt ≤ Int64.maxValue.toInt

theorem Weapon.dps_of_hasAverage {w : Weapon} (h : w.HasAverage) : ∃ x, w.dps = .ok x := by
  have sum : Number.int64? (w.physicalMin.toInt + w.physicalMax.toInt) =
      some (.ofInt (w.physicalMin.toInt + w.physicalMax.toInt)) := if_pos h
  exact ⟨_, by rw [dps, sum]⟩

namespace Item

/-- What the item and its parts answer. -/
def answers (item : Item) : Answers Part :=
  fun target member args => (records.get target member args item).1

/-- Only the memo changes when the item is asked for its links. -/
theorem links_snd (item : Item) :
    item.links.2 = { item with knownLinks := some item.links.1 } := by
  cases known : item.knownLinks with
  | some count =>
    have links : item.links = (count, item) := by rw [links, known]
    rw [links, ← known]
  | none => simp only [links, known]

theorem get_of_links (item : Item) (member : MemberId) (args : List (Value Part)) :
    item.links.2.get member args = ((item.get member args).1, item.links.2) := by
  rw [links_snd]
  unfold get
  split <;> rfl

theorem get_snd (item : Item) (member : MemberId) (args : List (Value Part)) :
    (item.get member args).2 = item ∨ (item.get member args).2 = item.links.2 := by
  unfold get
  split
  case h_12 => exact .inr rfl
  all_goals exact .inl rfl

theorem records_get_of_links (item : Item) (target : Part) (member : MemberId)
    (args : List (Value Part)) :
    records.get target member args item.links.2 =
      ((records.get target member args item).1, item.links.2) := by
  cases target with
  | item => exact item.get_of_links member args
  | socket | modifier | weapon | armour => rfl

theorem records_get_snd (item : Item) (target : Part) (member : MemberId)
    (args : List (Value Part)) :
    (records.get target member args item).2 = item ∨
      (records.get target member args item).2 = item.links.2 := by
  cases target with
  | item => exact item.get_snd member args
  | socket | modifier | weapon | armour => exact .inl rfl

/-- Questions do not change later answers: the memo holds what would be computed anew. -/
theorem steady (item : Item) : records.Steady item.answers item := by
  -- nothing else is reached than the item as it is, and as it is with its memo
  refine ⟨fun s => s = item ∨ s = item.links.2, .inl rfl, ?_⟩
  rintro s (rfl | rfl) target member args
  · exact ⟨rfl, s.records_get_snd target member args⟩
  · rw [records_get_of_links]
    exact ⟨rfl, .inr rfl⟩

/-- The schemas of an item and its parts. -/
inductive Part.Obeys : Part → Schema → Prop
  | item : Obeys .item itemSchema
  | socket (s) : Obeys (.socket s) socketSchema
  | modifier (m) : Obeys (.modifier m) modifierSchema
  | weapon {w} : w.HasAverage → Obeys (.weapon w) weaponSchema
  | armour (a) : Obeys (.armour a) armourSchema

/-- The reason is that the item lacks a component. -/
def Lacks (item : Item) (reason : Stop) : Prop :=
  (reason = .fault (.absent "weapon") ∧ item.weapon = none) ∨
    (reason = .fault (.absent "armour") ∧ item.armour = none)

theorem component_meets {α : Type} {name : String} {wrap : α → Part} {found : Option α}
    {stops : Stop → Prop} {id : SchemaId} (absent : found = none → stops (.fault (.absent name)))
    (present : ∀ value ∈ found, (wrap value).Obeys (catalog.schema id)) :
    Meets stops (Value.HasType catalog Part.Obeys · (.object id)) (component name wrap found) := by
  cases found with
  | none => exact .error (absent rfl)
  | some value => exact .ok (.object (present value rfl))

theorem ofString_meets {args : List (Value Part)} {answer : String → Value Part}
    {stops : Stop → Prop} {type : Ty}
    (fits : List.Forall₂ (Value.Fits catalog Part.Obeys) [.string] args)
    (h : ∀ s, (answer s).HasType catalog Part.Obeys type) :
    Meets stops (Value.HasType catalog Part.Obeys · type) (ofString answer args) := by
  obtain ⟨v, rest, ⟨given, accepted, typed⟩, -, rfl⟩ := List.forall₂_cons_left_iff.mp fits
  have isString : given = .string := by simpa [Ty.accepts] using accepted
  subst isString
  cases typed with
  | string s => exact .ok (h s)

theorem list_hasType {α : Type} {values : List α} {wrap : α → Value Part} {type : Ty}
    (h : ∀ value, (wrap value).HasType catalog Part.Obeys type) :
    Value.HasType catalog Part.Obeys (.list (values.map wrap)) (.list type) := by
  refine .list fun v mem => ?_
  obtain ⟨value, -, rfl⟩ := List.mem_map.mp mem
  exact h value

section Members

variable {member : Member} {args : List (Value Part)} {stops : Stop → Prop}

/-- The item answers as its schema says, one member after the other. -/
theorem get_meets {item : Item} (mem : member ∈ itemSchema.members)
    (fits : List.Forall₂ (Value.Fits catalog Part.Obeys) member.params args)
    (averages : ∀ w ∈ item.weapon, w.HasAverage) :
    Meets item.Lacks (Value.HasType catalog Part.Obeys · member.type)
      (item.get member.id args).1 := by
  simp only [itemSchema, Schema.ofMembers, List.zipIdx_cons, List.zipIdx_nil, List.map_cons,
    List.map_nil, List.mem_cons, List.not_mem_nil, or_false, Nat.reduceAdd] at mem
  rcases mem with rfl | rfl | rfl | rfl | rfl | rfl | rfl | rfl | rfl | rfl | rfl | rfl | rfl |
    rfl | rfl | rfl | rfl | rfl | rfl | rfl | rfl
  · exact .ok (.string _)
  · exact .ok (.string _)
  · exact .ok (.string _)
  · exact .ok (.string _)
  · exact .ok (.int _)
  · exact .ok (.int _)
  · exact .ok (.int _)
  · exact .ok (.int _)
  · exact .ok (.int _)
  · exact .ok (.bool _)
  · exact .ok (.bool _)
  · exact .ok (Value.ofCount_hasType _)
  · exact .ok (Value.ofCount_hasType _)
  · exact .ok (list_hasType fun s => .object (.socket s))
  · exact .ok (list_hasType fun m => .object (.modifier m))
  · exact .ok (list_hasType fun tag => .string tag)
  · exact component_meets (fun absent => .inl ⟨rfl, absent⟩) fun w hw => .weapon (averages w hw)
  · exact component_meets (fun absent => .inr ⟨rfl, absent⟩) fun a _ => .armour a
  · exact ofString_meets fits fun _ => .bool _
  · exact ofString_meets fits fun _ => .int _
  · exact ofString_meets fits fun _ => .bool _

theorem socketGet_meets (s : Socket) (mem : member ∈ socketSchema.members) :
    Meets stops (Value.HasType catalog Part.Obeys · member.type) (socketGet s member.id) := by
  simp only [socketSchema, Schema.ofMembers, List.zipIdx_cons, List.zipIdx_nil, List.map_cons,
    List.map_nil, List.mem_cons, List.not_mem_nil, or_false, Nat.reduceAdd] at mem
  rcases mem with rfl | rfl
  · exact .ok (.string _)
  · exact .ok (Value.ofCount_hasType _)

theorem modifierGet_meets (m : Modifier) (mem : member ∈ modifierSchema.members) :
    Meets stops (Value.HasType catalog Part.Obeys · member.type) (modifierGet m member.id) := by
  simp only [modifierSchema, Schema.ofMembers, List.zipIdx_cons, List.zipIdx_nil, List.map_cons,
    List.map_nil, List.mem_cons, List.not_mem_nil, or_false, Nat.reduceAdd] at mem
  rcases mem with rfl | rfl | rfl
  · exact .ok (.string _)
  · exact .ok (.int _)
  · exact .ok (list_hasType fun n => .int n)

theorem weaponGet_meets {w : Weapon} (average : w.HasAverage)
    (mem : member ∈ weaponSchema.members) :
    Meets stops (Value.HasType catalog Part.Obeys · member.type) (weaponGet w member.id) := by
  simp only [weaponSchema, Schema.ofMembers, List.zipIdx_cons, List.zipIdx_nil, List.map_cons,
    List.map_nil, List.mem_cons, List.not_mem_nil, or_false, Nat.reduceAdd] at mem
  rcases mem with rfl | rfl | rfl | rfl | rfl
  · exact .ok (.int _)
  · exact .ok (.int _)
  · exact .ok (.float _)
  · exact .ok (.float _)
  · obtain ⟨x, hx⟩ := w.dps_of_hasAverage average
    have answer : weaponGet w ⟨4⟩ = .ok (.float x) := by
      change Value.float <$> w.dps = _
      rw [hx]
      rfl
    rw [answer]
    exact .ok (.float x)

theorem armourGet_meets (a : Armour) (mem : member ∈ armourSchema.members) :
    Meets stops (Value.HasType catalog Part.Obeys · member.type) (armourGet a member.id) := by
  simp only [armourSchema, Schema.ofMembers, List.zipIdx_cons, List.zipIdx_nil, List.map_cons,
    List.map_nil, List.mem_cons, List.not_mem_nil, or_false, Nat.reduceAdd] at mem
  rcases mem with rfl | rfl | rfl
  · exact .ok (.int _)
  · exact .ok (.int _)
  · exact .ok (.int _)

/-- Every declared call is answered with a value of the declared type, but for one of a component
that the item lacks. -/
theorem answers_meets {item : Item} {call : Call Part} {schema : Schema}
    (averages : ∀ w ∈ item.weapon, w.HasAverage)
    (declared : call.Declared catalog Part.Obeys schema member) :
    Meets item.Lacks (Value.HasType catalog Part.Obeys · member.type)
      (item.answers call.target call.member call.args) := by
  obtain ⟨target, id, args⟩ := call
  obtain ⟨obeys, mem, rfl, fits⟩ := declared
  cases obeys with
  | item => exact get_meets mem fits averages
  | socket s => exact socketGet_meets s mem
  | modifier m => exact modifierGet_meets m mem
  | weapon average => exact weaponGet_meets average mem
  | armour a => exact armourGet_meets a mem

end Members

theorem conform {item : Item} (averages : ∀ w ∈ item.weapon, w.HasAverage) :
    (Records.ofAnswers item.answers).Conform catalog Part.Obeys := by
  intro call state schema member declared v answer
  have meets := answers_meets averages declared
  have found : item.answers call.target call.member call.args = .ok v := answer
  rw [found] at meets
  cases meets with
  | ok typed => exact typed

/-- A rule about items has an answer on every item, unless arithmetic stops it, or it reads a
component that the item lacks. Nothing that is asked changes what the item and its parts answer, and
they answer every declared call as declared, but for such a component. -/
theorem test_stops_of_compile [Patterns] {text : String} {predicate : Predicate} {item : Item}
    (compiled : compile catalog itemSchema text = .ok predicate)
    (averages : ∀ w ∈ item.weapon, w.HasAverage) :
    (∀ reason, ((predicate.test .item).run records item).1 = .error reason →
      reason = .fault .divisionByZero ∨ reason = .fault .overflow ∨
        (reason = .fault (.absent "weapon") ∧ item.weapon = none) ∨
        (reason = .fault (.absent "armour") ∧ item.armour = none)) ∧
    records.Steady item.answers item ∧
    ∀ (call : Call Part) (schema : Schema) (member : Member),
      call.Declared catalog Part.Obeys schema member →
        Meets item.Lacks (Value.HasType catalog Part.Obeys · member.type)
          (item.answers call.target call.member call.args) := by
  refine ⟨fun reason hrun => ?_, item.steady, fun _ _ _ => answers_meets averages⟩
  have safe := predicate.test_agrees compiled Part.Obeys.item
  rw [(Reading.run_of_steady item.steady _).1] at hrun
  have result := safe.run_result (conform averages) ()
  rw [hrun] at result
  cases result with
  | error why =>
    rcases why with (zero | overflow) | ⟨exchange, mem, answer⟩
    · exact .inl zero
    · exact .inr (.inl overflow)
    · obtain ⟨schema, member, declared⟩ := safe.asks_of_mem_transcript (conform averages) () mem
      have meets := answers_meets averages declared
      rw [← Reading.answer_of_mem_transcript mem, answer] at meets
      cases meets with
      | error lacks => exact .inr (.inr lacks)

/-- A rule about the damage of a weapon, on an item without armour. -/
theorem test_stops_unarmoured :
    ∃ predicate, compile catalog itemSchema
        "weapon.dps() > 10 and (stat(\"life\") / quality > 2 or armour.evasion > 5)" =
          .ok predicate ∧
      (∀ w ∈ (build "Short Sword" [.weapon ⟨5, 9, 1.5, 0.05⟩]).weapon, w.HasAverage) ∧
      ∀ reason, ((predicate.test .item).run records
          (build "Short Sword" [.weapon ⟨5, 9, 1.5, 0.05⟩])).1 = .error reason →
        reason = .fault .divisionByZero ∨ reason = .fault .overflow ∨
          (reason = .fault (.absent "weapon") ∧
            (build "Short Sword" [.weapon ⟨5, 9, 1.5, 0.05⟩]).weapon = none) ∨
          (reason = .fault (.absent "armour") ∧
            (build "Short Sword" [.weapon ⟨5, 9, 1.5, 0.05⟩]).armour = none) := by
  have averages : ∀ w ∈ (build "Short Sword" [.weapon ⟨5, 9, 1.5, 0.05⟩]).weapon,
      w.HasAverage := by
    intro w mem
    cases mem
    exact ⟨by decide, by decide⟩
  obtain ⟨predicate, compiled⟩ : ∃ predicate, compile catalog itemSchema
      "weapon.dps() > 10 and (stat(\"life\") / quality > 2 or armour.evasion > 5)" =
        .ok predicate := exists_eq_ok (by decide +kernel)
  exact ⟨predicate, compiled, averages, (test_stops_of_compile compiled averages).1⟩

end Item

end RecordRules
