import RecordRules.Proofs.ItemHistory
import RecordRules.Proofs.RootReads
import RecordRules.Regex.Library

namespace RecordRules.Item

/-- The members whose answers the step may change. -/
def Edit.changes : Edit → List String
  | .addModifier _ => ["mods", "has_mod"]
  | .addTag _ => ["tags", "has_tag"]
  | .stat _ _ => ["stat"]
  | e => e.answers.map Prod.fst

theorem Edit.lookup_answers {e : Edit} {name : String} (unchanged : name ∉ e.changes) :
    e.answers.lookup name = none := by
  have unset : name ∉ e.answers.map Prod.fst := by
    cases e with
    | addModifier | addTag | stat => exact List.not_mem_nil
    | _ => exact unchanged
  refine List.lookup_eq_none_iff.mpr fun p mem => ?_
  exact bne_iff_ne.mpr fun same => unset (List.mem_map.mpr ⟨p, mem, same.symm⟩)

section Edits

variable {args : List (Value Part)}

theorem get_edit_of_mem {member : Member} (mem : member ∈ itemSchema.members) {e : Edit}
    (unchanged : member.name ∉ e.changes) (item : Item) :
    ((item.edit e).get member.id args).1 = (item.get member.id args).1 := by
  cases settable : startAnswers.lookup member.name with
  | some start =>
    rw [(get_settable mem settable args).2, Edit.lookup_answers unchanged, Option.getD_none]
  | none =>
    simp only [itemSchema, Schema.ofMembers, List.zipIdx_cons, List.zipIdx_nil, List.map_cons,
      List.map_nil, List.mem_cons, List.not_mem_nil, or_false, Nat.reduceAdd] at mem
    rcases mem with rfl | rfl | rfl | rfl | rfl | rfl | rfl | rfl | rfl | rfl | rfl | rfl | rfl |
      rfl | rfl | rfl | rfl | rfl | rfl | rfl | rfl
    all_goals cases settable
    -- the six members left stand for what no step sets: it is kept, or added to
    all_goals cases e <;> first
      | rfl
      | exact absurd (by simp [Edit.changes]) unchanged

/-- A step leaves the answers for all but the members it changes. -/
theorem get_edit {member : MemberId} {e : Edit}
    (unchanged : ∀ m ∈ itemSchema.members, m.id = member → m.name ∉ e.changes) (item : Item) :
    ((item.edit e).get member args).1 = (item.get member args).1 := by
  by_cases declared : ∃ m ∈ itemSchema.members, m.id = member
  · obtain ⟨m, mem, rfl⟩ := declared
    exact get_edit_of_mem mem (unchanged m mem rfl) item
  · have undeclared : ∀ m ∈ itemSchema.members, m.id ≠ member :=
      fun m mem same => declared ⟨m, mem, same⟩
    rw [get_of_undeclared _ undeclared, get_of_undeclared _ undeclared]

theorem get_foldl_edit {member : MemberId} {edits : List Edit}
    (unchanged : ∀ m ∈ itemSchema.members, m.id = member → ∀ e ∈ edits, m.name ∉ e.changes)
    (item : Item) : ((edits.foldl edit item).get member args).1 = (item.get member args).1 := by
  induction edits generalizing item with
  | nil => rfl
  | cons e rest ih =>
    rw [List.foldl_cons, ih fun m mem same later hl =>
      unchanged m mem same later (List.mem_cons_of_mem _ hl)]
    exact get_edit (fun m mem same => unchanged m mem same e List.mem_cons_self) item

end Edits

/-- The records in the answer, if it is a value, are parts of the item. -/
abbrev OfParts (answer : Answer) : Prop :=
  Answered (· ≠ Part.item) answer

theorem component_ofParts {α : Type} {name : String} {wrap : α → Part}
    (part : ∀ value, wrap value ≠ .item) (found : Option α) :
    OfParts (component name wrap found) := by
  cases found with
  | none => exact .error trivial
  | some value => exact .ok (.object (part value))

theorem ofString_ofParts {answer : String → Value Part}
    (h : ∀ s, (answer s).Within (· ≠ Part.item)) (args : List (Value Part)) :
    OfParts (ofString answer args) := by
  unfold ofString
  split
  next s _ => exact .ok (h s)
  all_goals exact .error trivial

theorem list_within {α : Type} {values : List α} {wrap : α → Value Part}
    (h : ∀ value, (wrap value).Within (· ≠ Part.item)) :
    (Value.list (values.map wrap)).Within (· ≠ Part.item) := by
  refine .list fun v mem => ?_
  obtain ⟨value, -, rfl⟩ := List.mem_map.mp mem
  exact h value

theorem get_ofParts (item : Item) (member : MemberId) (args : List (Value Part)) :
    OfParts (item.get member args).1 := by
  unfold get
  split
  · exact .ok (.string _)
  · exact .ok (.string _)
  · exact .ok (.string _)
  · exact .ok (.string _)
  · exact .ok (.int _)
  · exact .ok (.int _)
  · exact .ok (.int _)
  · exact .ok (.int _)
  · exact .ok (.int _)
  · exact .ok (.bool _)
  · exact .ok (.bool _)
  · exact .ok (.int _)
  · exact .ok (.int _)
  · exact .ok (list_within fun s => .object Part.noConfusion)
  · exact .ok (list_within fun m => .object Part.noConfusion)
  · exact .ok (list_within fun tag => .string tag)
  · exact component_ofParts (fun w => Part.noConfusion) item.weapon
  · exact component_ofParts (fun a => Part.noConfusion) item.armour
  · exact ofString_ofParts (fun s => .bool _) args
  · exact ofString_ofParts (fun s => .int _) args
  · exact ofString_ofParts (fun s => .bool _) args
  · exact .error trivial

/-- No answer leads back to the item. -/
theorem answers_ofParts (item : Item) (target : Part) (member : MemberId)
    (args : List (Value Part)) : OfParts (item.answers target member args) := by
  cases target with
  | item => exact item.get_ofParts member args
  | socket s =>
    change OfParts (socketGet s member)
    unfold socketGet
    split
    · exact .ok (.string _)
    · exact .ok (.int _)
    · exact .error trivial
  | modifier m =>
    change OfParts (modifierGet m member)
    unfold modifierGet
    split
    · exact .ok (.string _)
    · exact .ok (.int _)
    · exact .ok (list_within fun n => .int n)
    · exact .error trivial
  | weapon w =>
    change OfParts (weaponGet w member)
    unfold weaponGet
    split
    · exact .ok (.int _)
    · exact .ok (.int _)
    · exact .ok (.float _)
    · exact .ok (.float _)
    · cases w.dps with
      | ok x => exact .ok (.float x)
      | error => exact .error trivial
    · exact .error trivial
  | armour a =>
    change OfParts (armourGet a member)
    unfold armourGet
    split
    · exact .ok (.int _)
    · exact .ok (.int _)
    · exact .ok (.int _)
    · exact .error trivial

/-- What parts answer does not depend on the item that they are asked of. -/
theorem answers_part (item item' : Item) {target : Part} (part : target ≠ .item) :
    item.answers target = item'.answers target := by
  cases target with
  | item => exact absurd rfl part
  | socket | modifier | weapon | armour => rfl

section Rules

variable [Patterns] {schemas : Catalog} {root : Schema} {text : String} {predicate : Predicate}

/-- A rule comes to the same on two items that answer alike for the members it names. -/
theorem test_of_get (compiled : compile schemas root text = .ok predicate) {item item' : Item}
    (agree : ∀ member ∈ predicate.bound.rootMembers, ∀ args,
      (item.get member args).1 = (item'.get member args).1) :
    ((predicate.test .item).run records item).1 = ((predicate.test .item).run records item').1 := by
  have agree : RootsAgree predicate.bound.rootMembers (· ≠ Part.item) (fun _ _ => True)
      (.ofAnswers item.answers) (.ofAnswers item'.answers) .item .item :=
    ⟨fun _ _ _ member mem args => ⟨agree member mem args, item.get_ofParts member args, trivial⟩,
      fun _ _ _ target part member args =>
        ⟨congrFun (congrFun (item.answers_part item' part) member) args,
          item.answers_ofParts target member args, trivial⟩⟩
  rw [(Reading.run_of_steady item.steady _).1, (Reading.run_of_steady item'.steady _).1]
  exact test_of_rootsAgree compiled agree trivial

/-- A rule depends on the members of the root record that it names, and on no other ones: it comes
to the same on two records that answer alike for them. So steps that do not change any of them make
no difference to a rule about an item. -/
theorem test_of_rootMembers (compiled : compile schemas root text = .ok predicate) :
    (∀ {ο σ σ' : Type} {answers : Answers ο} {objects : Records ο σ} {objects' : Records ο σ'}
        {object object' : ο} {s : σ} {s' : σ'},
      objects.Steady answers s → objects'.Steady answers s' →
      (∀ member ∈ predicate.bound.rootMembers, ∀ args,
        answers object member args = answers object' member args) →
      ((predicate.test object).run objects s).1 = ((predicate.test object').run objects' s').1) ∧
    (∀ {item item' : Item},
      (∀ member ∈ predicate.bound.rootMembers, ∀ args,
        (item.get member args).1 = (item'.get member args).1) →
      ((predicate.test .item).run records item).1 =
        ((predicate.test .item).run records item').1) ∧
    ∀ (item : Item) (edits : List Edit),
      (∀ member ∈ itemSchema.members, member.id ∈ predicate.bound.rootMembers →
        ∀ e ∈ edits, member.name ∉ e.changes) →
      ((predicate.test .item).run records (edits.foldl edit item)).1 =
        ((predicate.test .item).run records item).1 := by
  refine ⟨fun steady steady' agree => test_of_answers compiled agree steady steady',
    test_of_get compiled, fun item edits unchanged => test_of_get compiled ?_⟩
  intro member named args
  refine get_foldl_edit (fun m mem same => unchanged m mem ?_) item
  rwa [same]

end Rules

/-- Sockets, a tag and the rarity make no difference to a rule about modifiers, the level and the
life. -/
theorem test_of_rootMembers_modifiers : ∃ predicate,
    compile catalog itemSchema "mods.any(m => m.tier <= item_level) and stat(\"life\") > 3" =
      .ok predicate ∧
    predicate.bound.rootMembers = [⟨14⟩, ⟨4⟩, ⟨19⟩] ∧
    ((predicate.test .item).run records
      (build "Short Sword" [.addModifier ⟨"Sturdy", 2, []⟩, .itemLevel 7, .stat "life" 5,
        .sockets [⟨'R', 0⟩, ⟨'G', 0⟩], .addTag "blade", .rarity .rare])).1 =
    ((predicate.test .item).run records
      (build "Short Sword" [.addModifier ⟨"Sturdy", 2, []⟩, .itemLevel 7, .stat "life" 5])).1 := by
  have named : (compile catalog itemSchema
      "mods.any(m => m.tier <= item_level) and stat(\"life\") > 3").toOption.map
        (·.bound.rootMembers) = some [⟨14⟩, ⟨4⟩, ⟨19⟩] := by
    decide +kernel
  cases compiled : compile catalog itemSchema
      "mods.any(m => m.tier <= item_level) and stat(\"life\") > 3" with
  | error => rw [compiled] at named; cases named
  | ok predicate =>
    rw [compiled] at named
    have members : predicate.bound.rootMembers = [⟨14⟩, ⟨4⟩, ⟨19⟩] := Option.some.inj named
    refine ⟨predicate, rfl, members, (test_of_rootMembers compiled).2.2 _
      [.sockets [⟨'R', 0⟩, ⟨'G', 0⟩], .addTag "blade", .rarity .rare] ?_⟩
    rw [members]
    decide

end RecordRules.Item
