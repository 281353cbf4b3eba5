import Mathlib.Data.Finset.Lattice.Fold
import Mathlib.Data.List.Forall2
import Mathlib.Order.Lattice.Nat
import RecordRules.Proofs.ItemConformance

namespace RecordRules.Item

/-- The largest number of sockets of one group. -/
def largestGroup (sockets : List Socket) : Nat :=
  let groups := sockets.map Socket.group
  groups.toFinset.sup groups.count

/-- The members that the step sets, with what the item answers from then on. -/
def Edit.answers : Edit → List (String × Answer)
  | .name value => [("name", .ok (.string value))]
  | .itemClass value => [("class", .ok (.string value))]
  | .rarity value => [("rarity", .ok (.string value.name))]
  | .itemLevel value => [("item_level", .ok (.int value))]
  | .quality value => [("quality", .ok (.int value))]
  | .stackSize value => [("stack_size", .ok (.int value))]
  | .size width height => [("width", .ok (.int width)), ("height", .ok (.int height))]
  | .identified value => [("identified", .ok (.bool value))]
  | .corrupted value => [("corrupted", .ok (.bool value))]
  | .sockets values => [
      ("sockets", .ok (.list (values.map fun s => .object (.socket s)))),
      ("socket_count", .ok (.ofCount values.length)),
      ("links", .ok (.ofCount (largestGroup values)))]
  | .weapon value => [("weapon", .ok (.object (.weapon value)))]
  | .armour value => [("armour", .ok (.object (.armour value)))]
  | .addModifier _ | .addTag _ | .stat _ _ => []

/-- What an item answers as long as nothing is set. -/
def startAnswers : List (String × Answer) := [
  ("name", .ok (.string "")),
  ("class", .ok (.string "")),
  ("rarity", .ok (.string "Normal")),
  ("item_level", .ok (.int 1)),
  ("quality", .ok (.int 0)),
  ("stack_size", .ok (.int 1)),
  ("width", .ok (.int 1)),
  ("height", .ok (.int 1)),
  ("identified", .ok (.bool true)),
  ("corrupted", .ok (.bool false)),
  ("sockets", .ok (.list [])),
  ("socket_count", .ok (.int 0)),
  ("links", .ok (.int 0)),
  ("weapon", .error (.fault (.absent "weapon"))),
  ("armour", .error (.fault (.absent "armour")))]

/-- How an item is made: from which base, and in which steps. -/
structure Made where
  baseName : String
  edits : List Edit

namespace Made

variable {α : Type}

/-- The item that comes of these steps if nothing is asked in between. -/
def item (made : Made) : Item :=
  build made.baseName made.edits

/-- The value that is set last. -/
def last? (made : Made) (sets : Edit → Option α) : Option α :=
  (made.edits.filterMap sets).getLast?

def modifiers (made : Made) : List Modifier :=
  made.edits.filterMap fun
    | .addModifier value => some value
    | _ => none

def tags (made : Made) : List String :=
  made.edits.filterMap fun
    | .addTag value => some value
    | _ => none

def stat (made : Made) (name : String) : Int64 :=
  (made.last? fun
    | .stat set value => if set = name then some value else none
    | _ => none).getD 0

/-- What the item answers for the member of that name. A member that steps set is as the last one of
them has set it. -/
def answer (made : Made) (name : String) (args : List (Value Part)) : Option Answer :=
  match startAnswers.lookup name, name with
  | some start, _ => some ((made.last? (·.answers.lookup name)).getD start)
  | none, "base_name" => some (.ok (.string made.baseName))
  | none, "mods" => some (.ok (.list (made.modifiers.map fun m => .object (.modifier m))))
  | none, "tags" => some (.ok (.list (made.tags.map .string)))
  | none, "has_mod" =>
    some (ofString (fun s => .bool (decide (∃ m ∈ made.modifiers, m.name = s))) args)
  | none, "has_tag" => some (ofString (fun s => .bool (decide (s ∈ made.tags))) args)
  | none, "stat" => some (ofString (fun s => .int (made.stat s)) args)
  | none, _ => none

/-- What the item answers to the question. -/
def answerTo (made : Made) (member : MemberId) (args : List (Value Part)) : Answer :=
  ((itemSchema.members.find? (·.id = member)).bind fun found => made.answer found.name args).getD
    (noMember "Item" member)

end Made

section Steps

variable {α : Type}

/-- What only some of the steps set is as the last one of those has set it. -/
theorem foldl_edit_last {f : Item → α} {sets : Edit → Option α}
    (each : ∀ item e, f (item.edit e) = (sets e).getD (f item)) (edits : List Edit) (item : Item) :
    f (edits.foldl edit item) = (edits.filterMap sets).getLast?.getD (f item) := by
  induction edits generalizing item with
  | nil => rfl
  | cons e rest ih =>
    rw [List.foldl_cons, ih, each]
    cases set : sets e with
    | none => rw [List.filterMap_cons_none set, Option.getD_none]
    | some value =>
      rw [List.filterMap_cons_some set, List.getLast?_cons, Option.getD_some, Option.getD_some]

/-- What steps only add to is all that they add, in their order. -/
theorem foldl_edit_added {f : Item → List α} {added : Edit → Option α}
    (each : ∀ item e, f (item.edit e) = f item ++ (added e).toList) (edits : List Edit)
    (item : Item) : f (edits.foldl edit item) = f item ++ edits.filterMap added := by
  induction edits generalizing item with
  | nil => exact (List.append_nil _).symm
  | cons e rest ih =>
    rw [List.foldl_cons, ih, each, List.append_assoc]
    cases new : added e with
    | none =>
      rw [List.filterMap_cons_none new]
      rfl
    | some value =>
      rw [List.filterMap_cons_some new]
      rfl

end Steps

theorem foldl_max_le_iff {xs : List Nat} {start n : Nat} :
    xs.foldl max start ≤ n ↔ start ≤ n ∧ ∀ x ∈ xs, x ≤ n := by
  induction xs generalizing start with
  | nil => simp
  | cons x rest ih =>
    rw [List.foldl_cons, ih, List.forall_mem_cons, Nat.max_le, and_assoc]

/-- The links are what is kept, or else the largest of the groups that the sockets are in. -/
theorem links_fst (item : Item) :
    item.links.1 = item.knownLinks.getD (largestGroup item.sockets) := by
  cases known : item.knownLinks with
  | some count => rw [links, known, Option.getD_some]
  | none =>
    refine eq_of_forall_ge_iff fun n => ?_
    have size (s : Socket) : (item.sockets.map Socket.group).count s.group =
        item.sockets.countP (·.group == s.group) := by
      rw [List.count, List.countP_map]
      rfl
    rw [links, known, foldl_max_le_iff, Option.getD_none, largestGroup, Finset.sup_le_iff]
    simp only [List.mem_map, List.mem_toFinset, forall_exists_index, and_imp,
      forall_apply_eq_imp_iff₂, size, Nat.zero_le, true_and]

theorem links_edit (item : Item) (e : Edit) : Except.ok (.ofCount (item.edit e).links.1) =
    (e.answers.lookup "links").getD (.ok (.ofCount item.links.1)) := by
  rw [links_fst, links_fst]
  cases e <;> rfl

/-- A member that steps set is answered with its start until a step sets it, and then as the step
says. -/
theorem get_settable {member : Member} {start : Answer} (mem : member ∈ itemSchema.members)
    (settable : startAnswers.lookup member.name = some start) (args : List (Value Part)) :
    (∀ baseName, ((ofBase baseName).get member.id args).1 = start) ∧
      ∀ item e, ((edit item e).get member.id args).1 =
        (e.answers.lookup member.name).getD (item.get member.id args).1 := by
  simp only [itemSchema, Schema.ofMembers, List.zipIdx_cons, List.zipIdx_nil, List.map_cons,
    List.map_nil, List.mem_cons, List.not_mem_nil, or_false, Nat.reduceAdd] at mem
  rcases mem with rfl | rfl | rfl | rfl | rfl | rfl | rfl | rfl | rfl | rfl | rfl | rfl | rfl |
    rfl | rfl | rfl | rfl | rfl | rfl | rfl | rfl
  all_goals cases settable <;> refine ⟨fun _ => rfl, fun item e => ?_⟩
  all_goals first
    | exact item.links_edit e
    | cases e <;> rfl

theorem get_of_undeclared (item : Item) {member : MemberId}
    (undeclared : ∀ m ∈ itemSchema.members, m.id ≠ member) (args : List (Value Part)) :
    (item.get member args).1 = noMember "Item" member := by
  have declared : ∀ index < 21, ∃ m ∈ itemSchema.members, m.id = ⟨index⟩ := by decide
  have beyond : 21 ≤ member.index := by
    by_contra inside
    obtain ⟨m, mem, same⟩ := declared member.index (by omega)
    exact undeclared m mem same
  unfold get
  split
  case h_22 => rfl
  all_goals omega

namespace Made

variable (made : Made)

theorem baseName_item : made.item.baseName = made.baseName :=
  List.foldlRecOn (motive := (Item.baseName · = made.baseName)) made.edits edit rfl
    fun item same e _ => by cases e <;> exact same

theorem knownLinks_item : made.item.knownLinks = none :=
  List.foldlRecOn (motive := (Item.knownLinks · = none)) made.edits edit rfl fun item none e _ => by
    cases e with
    | sockets values => rfl
    | _ => exact none

theorem modifiers_item : made.item.modifiers = made.modifiers :=
  foldl_edit_added (fun item e => by cases e <;> simp [edit]) made.edits (ofBase made.baseName)

theorem tags_item : made.item.tags = made.tags :=
  foldl_edit_added (fun item e => by cases e <;> simp [edit]) made.edits (ofBase made.baseName)

theorem stat_item (name : String) : made.item.stat name = made.stat name := by
  refine foldl_edit_last (f := (Item.stat · name)) (fun item e => ?_) made.edits
    (ofBase made.baseName)
  cases e with
  | stat set value =>
    change (((set, value) :: item.stats).lookup name).getD 0 =
      (if set = name then some value else none).getD (item.stat name)
    by_cases same : set = name
    · rw [same, List.lookup_cons_self, if_pos rfl]
      rfl
    · have other : (name == set) = false := beq_false_of_ne (Ne.symm same)
      rw [List.lookup_cons, other, if_neg same]
      rfl
  | _ => rfl

theorem hasTag_item (tag : String) : made.item.hasTag tag = decide (tag ∈ made.tags) := by
  rw [hasTag, tags_item, List.contains_eq_mem]

theorem hasModifier_item (name : String) :
    made.item.hasModifier name = decide (∃ m ∈ made.modifiers, m.name = name) := by
  rw [hasModifier, modifiers_item, Bool.eq_iff_iff]
  simp

/-- An item that is made without questions answers for its members as it is made. -/
theorem answer_eq {member : Member} (mem : member ∈ itemSchema.members) (args : List (Value Part)) :
    made.answer member.name args = some (made.item.get member.id args).1 := by
  cases settable : startAnswers.lookup member.name with
  | some start =>
    obtain ⟨first, later⟩ := get_settable mem settable args
    have last := foldl_edit_last (f := fun item => (item.get member.id args).1) later made.edits
      (ofBase made.baseName)
    rw [first] at last
    unfold answer
    rw [settable]
    exact congrArg some last.symm
  | none =>
    simp only [itemSchema, Schema.ofMembers, List.zipIdx_cons, List.zipIdx_nil, List.map_cons,
      List.map_nil, List.mem_cons, List.not_mem_nil, or_false, Nat.reduceAdd] at mem
    rcases mem with rfl | rfl | rfl | rfl | rfl | rfl | rfl | rfl | rfl | rfl | rfl | rfl | rfl |
      rfl | rfl | rfl | rfl | rfl | rfl | rfl | rfl
    all_goals cases settable
    · exact congrArg (fun s => some (Except.ok (Value.string s) : Answer)) made.baseName_item.symm
    · exact congrArg (fun ms : List Modifier => some
        (Except.ok (Value.list (ms.map fun m => .object (.modifier m))) : Answer))
        made.modifiers_item.symm
    · exact congrArg (fun tags : List String => some
        (Except.ok (Value.list (tags.map .string)) : Answer)) made.tags_item.symm
    · have same (s : String) := made.hasTag_item s
      exact congrArg (fun f => some (ofString f args)) (funext fun s => by rw [same])
    · have same (s : String) := made.stat_item s
      exact congrArg (fun f => some (ofString f args)) (funext fun s => by rw [same])
    · have same (s : String) := made.hasModifier_item s
      exact congrArg (fun f => some (ofString f args)) (funext fun s => by rw [same])

/-- An item that is made without questions answers to them as it is made. -/
theorem get_item (member : MemberId) (args : List (Value Part)) :
    (made.item.get member args).1 = made.answerTo member args := by
  unfold answerTo
  cases found : itemSchema.members.find? (·.id = member) with
  | some m =>
    have same : m.id = member := by simpa using List.find?_some found
    rw [Option.bind_some, made.answer_eq (List.mem_of_find?_eq_some found) args, same]
    rfl
  | none =>
    exact get_of_undeclared _
      (fun m mem same => List.find?_eq_none.mp found m mem (decide_eq_true same)) args

end Made

/-- The questions that an item answers by itself, not as a record. -/
inductive Query where
  | links
  | stat (name : String)
  | hasTag (tag : String)
  | hasModifier (name : String)

/-- The item after it was asked. -/
def asked (item : Item) : Query → Item
  | .links => item.links.2
  | .stat _ | .hasTag _ | .hasModifier _ => item

/-- What is done with items, which are numbered in the order in which they come to be. A rule, or a
set of rules, is evaluated by a computation that asks the item. -/
inductive Deed : Type 1 where
  | make (baseName : String)
  | edit (index : Nat) (edit : Edit)
  | clone (index : Nat)
  | query (index : Nat) (query : Query)
  | evaluate (index : Nat) {α : Type} (rule : Reading Part α)

/-- The deed makes an item, or goes on with it; it is no question. -/
def Deed.makes : Deed → Bool
  | make _ | edit _ _ | clone _ => true
  | query _ _ | evaluate _ _ => false

def perform (items : List Item) : Deed → List Item
  | .make baseName => items ++ [ofBase baseName]
  | .edit index e => items.modify index (·.edit e)
  | .clone index => items ++ items[index]?.toList
  | .query index query => items.modify index (·.asked query)
  | .evaluate index rule => items.modify index fun item => (rule.run records item).2

/-- The items after these deeds. -/
def itemsAfter (history : List Deed) : List Item :=
  history.foldl perform []

namespace Made

def step (made : Made) (e : Edit) : Made :=
  { made with edits := made.edits ++ [e] }

/-- How the items are made, with that deed beside what is known. -/
def note (made : List Made) : Deed → List Made
  | .make baseName => made ++ [⟨baseName, []⟩]
  | .edit index e => made.modify index (·.step e)
  | .clone index => made ++ made[index]?.toList
  | .query _ _ | .evaluate _ _ => made

end Made

/-- How the items are made that there are after these deeds. -/
def madeIn (history : List Deed) : List Made :=
  history.foldl Made.note []

theorem links_links (item : Item) : item.links.2.links.2 = item.links.2 := by
  rw [links_snd item]
  rfl

/-- A step keeps the memo, or empties it. -/
theorem edit_links (item : Item) (e : Edit) :
    item.links.2.edit e = item.edit e ∨ item.links.2.edit e = (item.edit e).links.2 := by
  rw [links_snd, links_snd, links_fst, links_fst]
  cases e with
  | sockets values => exact .inl rfl
  | _ => exact .inr rfl

/-- Whatever an item is asked, nothing but its memo changes. -/
theorem run_snd {α : Type} (rule : Reading Part α) (item : Item) :
    (rule.run records item).2 = item ∨ (rule.run records item).2 = item.links.2 := by
  induction rule generalizing item with
  | done | stop => exact .inl rfl
  | read target member args next ih =>
    have run : ((Reading.read target member args next).run records item).2 =
        ((next (records.get target member args item).1).run records
          (records.get target member args item).2).2 := rfl
    have later := ih (records.get target member args item).1 (records.get target member args item).2
    rw [← run] at later
    rcases item.records_get_snd target member args with same | same
    · rwa [same] at later
    · rw [same, links_links, or_self] at later
      exact .inr later

/-- The item is the one that is made like this, but for its memo, which holds what would be computed
anew. -/
def Made.Shows (made : Made) (item : Item) : Prop :=
  item = made.item ∨ item = made.item.links.2

namespace Made.Shows

variable {made : Made} {item : Item} (h : made.Shows item)
include h

theorem of_links : made.Shows item.links.2 := by
  rcases h with rfl | rfl
  · exact .inr rfl
  · exact .inr (links_links _)

theorem edit (e : Edit) : (made.step e).Shows (item.edit e) := by
  have stepped : (made.step e).item = made.item.edit e := List.foldl_concat ..
  rw [Shows, stepped]
  rcases h with rfl | rfl
  · exact .inl rfl
  · exact made.item.edit_links e

theorem query (query : Query) : made.Shows (item.asked query) := by
  cases query with
  | links => exact h.of_links
  | stat | hasTag | hasModifier => exact h

theorem evaluate {α : Type} (rule : Reading Part α) : made.Shows (rule.run records item).2 := by
  rcases item.run_snd rule with same | same
  · rwa [same]
  · rw [same]
    exact h.of_links

theorem answers (member : MemberId) (args : List (Value Part)) :
    (item.get member args).1 = made.answerTo member args := by
  rcases h with rfl | rfl
  · exact made.get_item member args
  · rw [get_of_links]
    exact made.get_item member args

theorem memo : ∀ count ∈ item.knownLinks, count = largestGroup item.sockets := by
  intro count kept
  have unknown := made.knownLinks_item
  rcases h with rfl | rfl
  · rw [unknown] at kept
    cases kept
  · rw [links_snd, links_fst, unknown] at kept ⊢
    cases kept
    rfl

end Made.Shows

section Forall₂

variable {α β γ : Type} {R : α → β → Prop} {as : List α} {bs : List β}

theorem forall₂_modify {f : α → α} {g : β → β} (h : List.Forall₂ R as bs)
    (each : ∀ a b, R a b → R (f a) (g b)) (index : Nat) :
    List.Forall₂ R (as.modify index f) (bs.modify index g) := by
  induction h generalizing index with
  | nil =>
    rw [List.modify_nil, List.modify_nil]
    exact .nil
  | cons first others ih =>
    cases index with
    | zero => exact .cons (each _ _ first) others
    | succ index => exact .cons first (ih index)

theorem forall₂_getElem? (h : List.Forall₂ R as bs) (index : Nat) :
    List.Forall₂ R as[index]?.toList bs[index]?.toList := by
  induction h generalizing index with
  | nil => exact .nil
  | cons first others ih =>
    cases index with
    | zero => exact .cons first .nil
    | succ index => exact ih index

theorem forall₂_of_common {S : α → γ → Prop} {T : β → γ → Prop} {cs : List γ}
    (h : List.Forall₂ R as bs) (h' : List.Forall₂ S as cs)
    (each : ∀ a b c, R a b → S a c → T b c) : List.Forall₂ T bs cs := by
  induction h generalizing cs with
  | nil =>
    cases h'
    exact .nil
  | cons first others ih =>
    cases h' with
    | cons first' others' => exact .cons (each _ _ _ first first') (ih others')

end Forall₂

/-- Each deed is noted, as far as it makes a difference to what items answer. -/
theorem perform_shows {made : List Made} {items : List Item}
    (h : List.Forall₂ Made.Shows made items) (deed : Deed) :
    List.Forall₂ Made.Shows (Made.note made deed) (perform items deed) := by
  cases deed with
  | make baseName => exact List.rel_append h (.cons (.inl rfl) .nil)
  | edit index e => exact forall₂_modify h (fun _ _ shows => shows.edit e) index
  | clone index => exact List.rel_append h (forall₂_getElem? h index)
  | query index query =>
    have kept := forall₂_modify (f := id) h (fun _ _ shows => shows.query query) index
    rwa [List.modify_id] at kept
  | evaluate index rule =>
    have kept := forall₂_modify (f := id) h (fun _ _ shows => shows.evaluate rule) index
    rwa [List.modify_id] at kept

theorem itemsAfter_shows (history : List Deed) :
    List.Forall₂ Made.Shows (madeIn history) (itemsAfter history) := by
  have run {made : List Made} {items : List Item} (h : List.Forall₂ Made.Shows made items) :
      List.Forall₂ Made.Shows (history.foldl Made.note made) (history.foldl perform items) := by
    induction history generalizing made items with
    | nil => exact h
    | cons deed rest ih => exact ih (perform_shows h deed)
  exact run .nil

/-- Questions are no part of how an item is made. -/
theorem madeIn_filter (history : List Deed) :
    madeIn (history.filter Deed.makes) = madeIn history := by
  have skipped (made : List Made) (deed : Deed) :
      (if deed.makes then Made.note made deed else made) = Made.note made deed := by
    cases deed <;> rfl
  rw [madeIn, madeIn, List.foldl_filter]
  simp only [skipped]

/-- Every item answers as it was made: by what was set last, or added, in its own steps and in those
of the items that it was cloned from. Its memo is never stale, and it would answer the same if
nothing had been asked before. -/
theorem itemsAfter_answer (history : List Deed) :
    List.Forall₂ (fun made item =>
        (∀ member args, (item.get member args).1 = made.answerTo member args) ∧
          ∀ count ∈ item.knownLinks, count = largestGroup item.sockets)
      (madeIn history) (itemsAfter history) ∧
    List.Forall₂ (fun unasked item =>
        ∀ member args, (item.get member args).1 = (unasked.get member args).1)
      (itemsAfter (history.filter Deed.makes)) (itemsAfter history) := by
  have all := itemsAfter_shows history
  have made := itemsAfter_shows (history.filter Deed.makes)
  rw [madeIn_filter] at made
  refine ⟨all.imp fun _ _ shows => ⟨shows.answers, shows.memo⟩, ?_⟩
  refine forall₂_of_common made all fun _ _ _ unasked shows member args => ?_
  rw [unasked.answers, shows.answers]

/-- An item is asked for its links and cloned; then the sockets of the first one are set anew. -/
def relinked : List Deed := [
  .make "Astral Plate",
  .edit 0 (.sockets [⟨'R', 0⟩]),
  .query 0 .links,
  .clone 0,
  .edit 0 (.sockets [⟨'R', 0⟩, ⟨'B', 0⟩, ⟨'G', 1⟩]),
  .evaluate 1 ((Predicate.mk (.compare .ge (.get .root ⟨11⟩ []) (.const (.int 5)))).test .item)]

theorem itemsAfter_answer_relinked : ∃ plate clone, itemsAfter relinked = [plate, clone] ∧
    (plate.get ⟨11⟩ []).1 = .ok (.int 2) ∧ (clone.get ⟨11⟩ []).1 = .ok (.int 1) := by
  obtain ⟨answers, -⟩ := itemsAfter_answer relinked
  have made : madeIn relinked =
      [⟨"Astral Plate", [.sockets [⟨'R', 0⟩], .sockets [⟨'R', 0⟩, ⟨'B', 0⟩, ⟨'G', 1⟩]]⟩,
        ⟨"Astral Plate", [.sockets [⟨'R', 0⟩]]⟩] := rfl
  rw [made] at answers
  obtain ⟨plate, rest, ⟨first, -⟩, others, items⟩ := List.forall₂_cons_left_iff.mp answers
  obtain ⟨clone, rest, ⟨second, -⟩, none, rfl⟩ := List.forall₂_cons_left_iff.mp others
  cases none
  refine ⟨plate, clone, items, ?_, ?_⟩
  · rw [first]
    rfl
  · rw [second]
    rfl

end RecordRules.Item
