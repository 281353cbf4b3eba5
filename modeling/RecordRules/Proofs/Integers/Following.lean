import RecordRules.Proofs.Integers.Simulation
import RecordRules.Proofs.Integers.Values

namespace RecordRules

variable {ο σ α β γ δ : Type} {records : Records ο σ} {catalog : Catalog}
  {obeys : ο → Schema → Prop} {s t : Ty} {v v' : Value ο} {w w' : Exact ο}

namespace Follows

theorem map {x : Reading ο α} {y : Exactly σ β} {R : α → β → Prop} {f : α → γ} {g : β → δ}
    {Q : γ → δ → Prop} (h : Follows records x y R) (hf : ∀ a b, R a b → Q (f a) (g b)) :
    Follows records (f <$> x) (do return g (← y)) Q := by
  rw [map_eq_pure_bind]
  exact h.bind fun a b related => pure (hf a b related)

theorem map_right {x : Reading ο α} {y : Exactly σ β} {R : α → β → Prop} {g : β → δ}
    {Q : α → δ → Prop} (h : Follows records x y R) (hg : ∀ a b, R a b → Q a (g b)) :
    Follows records x (do return g (← y)) Q := by
  have mapped : Follows records (id <$> x) (do return g (← y)) Q := h.map hg
  rwa [id_map] at mapped

theorem toBool {x : Reading ο Bool} {y : Exactly σ Bool} (h : Follows records x y Eq) :
    Follows records (.bool <$> x) (do return .bool (← y)) (Stands catalog obeys .bool) :=
  h.map fun b _ same => same ▸ .bool b

theorem performed {operation : Operation} {outcome : Except Stop (Value ο)}
    (carries : InMemory [operation] → Value.Carries operation outcome) :
    Follows records (.ofExcept outcome) (.perform operation) (Stands catalog obeys .int) := by
  refine (perform carries).imp fun v w related => ?_
  obtain ⟨n, rfl, rfl⟩ := related
  exact .int n

theorem asBool (h : Stands catalog obeys .bool v w) :
    Follows records (.ofExcept v.asBool) w.asBool Eq := by
  obtain ⟨b, rfl, rfl⟩ := h.bool_inv
  exact .pure rfl

theorem asString (h : Stands catalog obeys .string v w) :
    Follows records (.ofExcept v.asString) w.asString Eq := by
  obtain ⟨s, rfl, rfl⟩ := h.string_inv
  exact .pure rfl

theorem asList (h : Stands catalog obeys (.list t) v w) :
    Follows records (.ofExcept v.asList) w.asList fun vs vs' => vs' = vs ∧
      vs.length ≤ Int64.maxValue.toInt ∧ ∀ v ∈ vs, Stands catalog obeys t v (.ofValue v) := by
  obtain ⟨vs, rfl, rfl, short, each⟩ := h.list_inv
  exact .pure ⟨rfl, short, each⟩

theorem negate (h : Stands catalog obeys t v w) (numeric : t.isNumeric) :
    Follows records (.ofExcept v.negate) w.negate (Stands catalog obeys t) := by
  obtain ⟨n, rfl, rfl, rfl⟩ | ⟨x, rfl, rfl, rfl⟩ := h.numeric_inv numeric
  · exact performed fun _ => Value.negate_carries n
  · exact .pure (.float _)

theorem absolute (h : Stands catalog obeys t v w) (numeric : t.isNumeric) :
    Follows records (.ofExcept v.abs) w.absolute (Stands catalog obeys t) := by
  obtain ⟨n, rfl, rfl, rfl⟩ | ⟨x, rfl, rfl, rfl⟩ := h.numeric_inv numeric
  · exact performed fun _ => Value.abs_carries n
  · exact .pure (.float _)

theorem numbers {outcome : Value ο → Value ο → Except Stop (Value ο)}
    {operation : Int → Int → Operation} {f : Float → Float → Float}
    (ints : ∀ a b : Int64,
      Value.Carries (operation a.toInt b.toInt) (outcome (.int a) (.int b)))
    (left : ∀ (a : Int64) y, outcome (.int a) (.float y) = .ok (.float (f (Number.float64 a) y)))
    (right : ∀ x (b : Int64), outcome (.float x) (.int b) = .ok (.float (f x (Number.float64 b))))
    (both : ∀ x y, outcome (.float x) (.float y) = .ok (.float (f x y)))
    (hv : Stands catalog obeys s v w) (hs : s.isNumeric)
    (hv' : Stands catalog obeys t v' w') (ht : t.isNumeric) :
    Follows records (.ofExcept (outcome v v')) (w.numbers operation f w')
      (Stands catalog obeys (s.numericJoin t)) := by
  obtain ⟨a, rfl, rfl, rfl⟩ | ⟨x, rfl, rfl, rfl⟩ := hv.numeric_inv hs
  · obtain ⟨b, rfl, rfl, rfl⟩ | ⟨y, rfl, rfl, rfl⟩ := hv'.numeric_inv ht
    · exact performed fun _ => ints a b
    · exact ofExcept_ok (left a y) (.float _)
  · obtain ⟨b, rfl, rfl, rfl⟩ | ⟨y, rfl, rfl, rfl⟩ := hv'.numeric_inv ht
    · exact ofExcept_ok (right x b) (.float _)
    · exact ofExcept_ok (both x y) (.float _)

theorem arith (op : ArithOp) (hv : Stands catalog obeys s v w) (hs : s.isNumeric)
    (hv' : Stands catalog obeys t v' w') (ht : t.isNumeric) :
    Follows records (.ofExcept (v.arith op v')) (w.numbers (.arith op) (Value.arithFloat op) w')
      (Stands catalog obeys (s.numericJoin t)) :=
  numbers (Value.arithInt_carries op) (fun _ _ => rfl) (fun _ _ => rfl) (fun _ _ => rfl) hv hs
    hv' ht

theorem chosen {ints : Int → Int → Int} {operation : Int → Int → Operation}
    (carries : ∀ a b : Int64, Value.Carries (operation a.toInt b.toInt)
      (Value.ofInt (ints a.toInt b.toInt) : Except Stop (Value ο)))
    (floats : Float → Float → Float) (hv : Stands catalog obeys s v w) (hs : s.isNumeric)
    (hv' : Stands catalog obeys t v' w') (ht : t.isNumeric) :
    Follows records (.ofExcept (v.choose ints floats v')) (w.numbers operation floats w')
      (Stands catalog obeys (s.numericJoin t)) :=
  numbers carries (fun _ _ => rfl) (fun _ _ => rfl) (fun _ _ => rfl) hv hs hv' ht

theorem choice {name : String} {function : Builtin} (mem : (name, function) ∈ choices)
    (hv : Stands catalog obeys s v w) (hs : s.isNumeric)
    (hv' : Stands catalog obeys t v' w') (ht : t.isNumeric) :
    Follows records (.ofExcept (function.apply [v, v'])) (Exact.apply function [w, w'])
      (Stands catalog obeys (s.numericJoin t)) := by
  simp only [choices, List.mem_cons, Prod.mk.injEq, List.not_mem_nil, or_false] at mem
  rcases mem with ⟨-, rfl⟩ | ⟨-, rfl⟩
  · exact chosen Value.least_carries Number.least hv hs hv' ht
  · exact chosen Value.greatest_carries Number.greatest hv hs hv' ht

theorem stringProperty {name : String} {function : Builtin} {returns : Ty}
    (mem : (name, function, returns) ∈ stringProperties) (h : Stands catalog obeys .string v w) :
    Follows records (.ofExcept (function.apply [v])) (Exact.apply function [w])
      (Stands catalog obeys returns) := by
  obtain ⟨s, rfl, rfl⟩ := h.string_inv
  simp only [stringProperties, List.mem_cons, Prod.mk.injEq, List.not_mem_nil, or_false] at mem
  rcases mem with ⟨-, rfl, rfl⟩ | ⟨-, rfl, rfl⟩ | ⟨-, rfl, rfl⟩
  · have reached : Reached [.length s] (.length s) :=
      ⟨[], [], rfl, fun o mem => absurd mem List.not_mem_nil⟩
    exact performed fun memory => Value.length_carries (memory s reached)
  · exact .pure (.string _)
  · exact .pure (.string _)

theorem stringTest {name : String} {function : Builtin} (mem : (name, function) ∈ stringTests)
    (h : Stands catalog obeys .string v w) (h' : Stands catalog obeys .string v' w') :
    Follows records (.ofExcept (function.apply [v, v'])) (Exact.apply function [w, w'])
      (Stands catalog obeys .bool) := by
  obtain ⟨s, rfl, rfl⟩ := h.string_inv
  obtain ⟨s', rfl, rfl⟩ := h'.string_inv
  simp only [stringTests, List.mem_cons, Prod.mk.injEq, List.not_mem_nil, or_false] at mem
  rcases mem with ⟨-, rfl⟩ | ⟨-, rfl⟩ | ⟨-, rfl⟩ <;> exact .pure (.bool _)

/-- A list is as long as its length says. -/
theorem listLength (h : Stands catalog obeys (.list t) v w) :
    Follows records (.ofExcept (Builtin.len.apply [v])) (Exact.apply .len [w])
      (Stands catalog obeys .int) := by
  obtain ⟨vs, rfl, rfl, short, -⟩ := h.list_inv
  exact .pure (.ofCount short)

theorem listContains (h : Stands catalog obeys (.list s) v w) (h' : Stands catalog obeys t v' w')
    (comparable : s.comparableWith t) :
    Follows records (.ofExcept (Builtin.contains.apply [v, v'])) (Exact.apply .contains [w, w'])
      (Stands catalog obeys .bool) := by
  obtain ⟨vs, rfl, rfl, -, each⟩ := h.list_inv
  refine ofExcept_ok ?_ (.bool _)
  have found := Value.member_eq_any each h' comparable
  have unfolded : Builtin.contains.apply [.list vs, v'] =
      (do return .bool (← Value.member v' vs) : Except Stop (Value ο)) := rfl
  rw [unfolded, found]
  rfl

section Quantifiers

variable {ask : Value ο → Reading ο Bool} {ask' : Value ο → Exactly σ Bool} {vs : List (Value ο)}
  (h : ∀ v ∈ vs, Follows records (ask v) (ask' v) Eq)
include h

theorem anyOf : Follows records (Quantifier.anyOf ask vs) (Quantifier.anyOf ask' vs) Eq := by
  induction vs with
  | nil => exact .pure rfl
  | cons v rest ih =>
    obtain ⟨hv, hrest⟩ := List.forall_mem_cons.mp h
    refine hv.bind fun b _ same => ?_
    subst same
    cases b with
    | true => exact .pure rfl
    | false => exact ih hrest

theorem allOf : Follows records (Quantifier.allOf ask vs) (Quantifier.allOf ask' vs) Eq := by
  induction vs with
  | nil => exact .pure rfl
  | cons v rest ih =>
    obtain ⟨hv, hrest⟩ := List.forall_mem_cons.mp h
    refine hv.bind fun b _ same => ?_
    subst same
    cases b with
    | true => exact ih hrest
    | false => exact .pure rfl

/-- No more is counted than there are elements. -/
theorem countOf (counted : Nat) :
    Follows records (Quantifier.countOf ask counted vs) (Quantifier.countOf ask' counted vs)
      fun n n' => n' = n ∧ n ≤ counted + vs.length := by
  induction vs generalizing counted with
  | nil => exact .pure ⟨rfl, Nat.le_refl _⟩
  | cons v rest ih =>
    obtain ⟨hv, hrest⟩ := List.forall_mem_cons.mp h
    refine hv.bind fun b _ same => ?_
    subst same
    refine (ih hrest _).imp fun n n' related => ⟨related.1, ?_⟩
    have le := related.2
    rw [List.length_cons]
    split at le <;> omega

theorem across {name : String} {quantifier : Quantifier} {returns : Ty}
    (mem : (name, quantifier, returns) ∈ quantifiers) (short : vs.length ≤ Int64.maxValue.toInt) :
    Follows records (quantifier.across ask vs) (Exact.across quantifier ask' vs)
      (Stands catalog obeys returns) := by
  simp only [quantifiers, List.mem_cons, Prod.mk.injEq, List.not_mem_nil, or_false] at mem
  rcases mem with ⟨-, rfl, rfl⟩ | ⟨-, rfl, rfl⟩ | ⟨-, rfl, rfl⟩
  · exact (anyOf h).toBool
  · exact (allOf h).toBool
  · refine (countOf h 0).map fun n n' related => ?_
    obtain ⟨rfl, le⟩ := related
    exact .ofCount (by omega)

end Quantifiers

theorem condition {x : Reading ο (Value ο)} {y : Exactly σ (Exact ο)}
    (h : Follows records x y (Stands catalog obeys .bool)) :
    Follows records x.condition y.condition Eq :=
  h.bind fun _ _ stands => asBool stands

section Conditions

variable {xs : List (Reading ο Bool)} {ys : List (Exactly σ Bool)}
  (h : List.Forall₂ (fun x y => Follows records x y Eq) xs ys)
include h

theorem conjunction : Follows records (.conjunction xs) (.conjunction ys) Eq := by
  induction h with
  | nil => exact .pure rfl
  | cons first _ ih =>
    rw [Reading.conjunction_cons, Reading.both]
    refine first.bind fun b _ same => ?_
    subst same
    cases b with
    | true => exact ih
    | false => exact .pure rfl

theorem disjunction : Follows records (.disjunction xs) (.disjunction ys) Eq := by
  induction h with
  | nil => exact .pure rfl
  | cons first _ ih =>
    rw [Reading.disjunction_cons, Reading.either]
    refine first.bind fun b _ same => ?_
    subst same
    cases b with
    | true => exact .pure rfl
    | false => exact ih

end Conditions

end Follows

/-- Each of the expressions that are resolved to these goes as the exact computation. -/
inductive FollowEach (records : Records ο σ) (catalog : Catalog) (obeys : ο → Schema → Prop) :
    List Typed → List (Reading ο (Value ο)) → List (Exactly σ (Exact ο)) → Prop
  | nil : FollowEach records catalog obeys [] [] []
  | cons {x rest reading readings exact exacts} :
    Follows records reading exact (Stands catalog obeys x.type) →
    FollowEach records catalog obeys rest readings exacts →
    FollowEach records catalog obeys (x :: rest) (reading :: readings) (exact :: exacts)

namespace FollowEach

variable {xs : List Typed} {readings : List (Reading ο (Value ο))}
  {exacts : List (Exactly σ (Exact ο))}

theorem inOrder (h : FollowEach records catalog obeys xs readings exacts) :
    Follows records (.inOrder readings) (.inOrder exacts) fun vs ws =>
      List.Forall₂ (fun x v => v.HasType catalog obeys x.type) xs vs ∧
        ws = vs.map Exact.ofValue := by
  induction h with
  | nil => exact .pure ⟨.nil, rfl⟩
  | cons first _ ih =>
    refine first.bind fun v w stands => ih.bind fun vs ws related => ?_
    obtain ⟨types, rfl⟩ := related
    exact .pure ⟨.cons stands.hasType types, by rw [stands.same, List.map_cons]⟩

theorem conditions (h : FollowEach records catalog obeys xs readings exacts)
    (bools : ∀ x ∈ xs, x.type = .bool) :
    List.Forall₂ (fun x y => Follows records x y Eq) (readings.map .condition)
      (exacts.map .condition) := by
  induction h with
  | nil => exact .nil
  | cons first _ ih =>
    obtain ⟨isBool, bools⟩ := List.forall_mem_cons.mp bools
    rw [isBool] at first
    exact .cons first.condition (ih bools)

theorem tests (h : FollowEach records catalog obeys xs readings exacts) {t : Ty} {v : Value ο}
    {w : Exact ο} (needle : Stands catalog obeys t v w)
    (comparable : ∀ x ∈ xs, t.comparableWith x.type) :
    List.Forall₂ (fun x y => Follows records x y Eq)
      (readings.map fun x => do .ofExcept (v.test .eq (← x)))
      (exacts.map fun x => do return w.holds .eq (← x)) := by
  induction h with
  | nil => exact .nil
  | cons first _ ih =>
    obtain ⟨applies, comparable⟩ := List.forall_mem_cons.mp comparable
    have applies : CompareOp.eq.applies t _ := applies
    refine .cons (first.bind fun v' w' stands => ?_) (ih comparable)
    exact .ofExcept_ok (Value.test_eq_holds needle stands applies) rfl

/-- A member that is declared for the types of the arguments. -/
theorem member (h : FollowEach records catalog obeys xs readings exacts)
    (conform : records.Conform catalog obeys) (short : records.Short catalog obeys)
    {target : Reading ο (Value ο)} {exactTarget : Exactly σ (Exact ο)} {schema : Schema}
    {member : Member}
    (htarget : Follows records target exactTarget fun v w =>
      ∃ o, v = .object o ∧ w = .other (.object o) ∧ obeys o schema)
    (hm : member ∈ schema.members)
    (accepted : List.Forall₂ (fun param x => param.accepts x.type) member.params xs) :
    Follows records (.member target readings (some member))
      (.member records exactTarget exacts (some member)) (Stands catalog obeys member.type) := by
  refine htarget.bind fun v w object => ?_
  obtain ⟨o, rfl, rfl, ho⟩ := object
  refine h.inOrder.bind fun vs ws related => ?_
  obtain ⟨types, rfl⟩ := related
  have declared : Call.Declared catalog obeys ⟨o, member.id, vs⟩ schema member := by
    exact ⟨ho, hm, rfl, fits_of_accepts accepted types⟩
  rw [Exact.mapM_value?]
  refine (Follows.ask o member.id vs).map_right fun v w answered => ?_
  obtain ⟨rfl, state, answered⟩ := answered
  have hasType := conform ⟨o, member.id, vs⟩ state schema member declared w answered
  exact ⟨hasType, short ⟨o, member.id, vs⟩ state schema member declared w answered, rfl⟩

end FollowEach

namespace Follows

variable {x x' : Reading ο (Value ο)} {y y' : Exactly σ (Exact ο)} {function : Builtin}
  {R R' Q : Value ο → Exact ο → Prop}

theorem inOrder_one (h : Follows records x y R) :
    Follows records (.inOrder [x]) (.inOrder [y]) fun vs ws =>
      ∃ v w, vs = [v] ∧ ws = [w] ∧ R v w :=
  h.bind fun v w related => .pure ⟨v, w, rfl, rfl, related⟩

theorem plain_one (h : Follows records x y R)
    (apply : ∀ v w, R v w →
      Follows records (.ofExcept (function.apply [v])) (Exact.apply function [w]) Q) :
    Follows records (.plain function [x]) (.plain function [y]) Q := by
  refine h.inOrder_one.bind fun vs ws single => ?_
  obtain ⟨v, w, rfl, rfl, related⟩ := single
  exact apply v w related

theorem plain_two (h : Follows records x y R) (h' : Follows records x' y' R')
    (apply : ∀ v w v' w', R v w → R' v' w' →
      Follows records (.ofExcept (function.apply [v, v'])) (Exact.apply function [w, w']) Q) :
    Follows records (.plain function [x, x']) (.plain function [y, y']) Q := by
  have args : Follows records (.inOrder [x, x']) (.inOrder [y, y'])
      fun vs ws => ∃ v w v' w', vs = [v, v'] ∧ ws = [w, w'] ∧ R v w ∧ R' v' w' := by
    refine h.bind fun v w related => h'.inOrder_one.bind fun vs ws single => ?_
    obtain ⟨v', w', rfl, rfl, related'⟩ := single
    exact .pure ⟨v, w, v', w', rfl, rfl, related, related'⟩
  refine args.bind fun vs ws pair => ?_
  obtain ⟨v, w, v', w', rfl, rfl, related, related'⟩ := pair
  exact apply v w v' w' related related'

end Follows

end RecordRules
