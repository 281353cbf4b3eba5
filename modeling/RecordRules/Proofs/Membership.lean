import RecordRules.Proofs.MarkIndependence
import RecordRules.Proofs.Outcomes
import RecordRules.Proofs.Typing
import RecordRules.Regex.Library

namespace RecordRules

variable {ο σ : Type}

/-- The question whether the needle is equal to a member of the set: compared with each, or
directly with the only one. -/
def Expr.anyEqual (mark : Mark) (needle : Expr) : List Expr → Expr
  | [e] => .compare mark .eq needle e
  | set => .or mark (set.map (.compare mark .eq needle))

def Bound.anyEqual (needle : Bound) : List Bound → Bound
  | [e] => .compare .eq needle e
  | set => .or (set.map (.compare .eq needle))

theorem Expr.anyEqual_of_length_ne {mark : Mark} {needle : Expr} {set : List Expr}
    (several : set.length ≠ 1) :
    anyEqual mark needle set = .or mark (set.map (.compare mark .eq needle)) := by
  unfold anyEqual
  split
  next => exact absurd rfl several
  next => rfl

theorem Bound.anyEqual_of_length_ne {needle : Bound} {set : List Bound} (several : set.length ≠ 1) :
    anyEqual needle set = .or (set.map (.compare .eq needle)) := by
  unfold anyEqual
  split
  next => exact absurd rfl several
  next => rfl

section Types

variable [Patterns] {scope : Scope} {mark : Mark} {needle : Expr} {set : List Expr}

theorem Resolves.unique {e : Expr} {x y : Typed} (hx : Resolves scope e x)
    (hy : Resolves scope e y) : x = y :=
  Except.ok.inj ((bind_of_resolves hx).symm.trans (bind_of_resolves hy))

theorem WellTyped.unique {e : Expr} {s t : Ty} (hs : WellTyped scope e s)
    (ht : WellTyped scope e t) : s = t := by
  obtain ⟨b, hb⟩ := hs.resolves
  obtain ⟨c, hc⟩ := ht.resolves
  exact congrArg Typed.type (hb.unique hc)

theorem WellTyped.equality_inv {lhs rhs : Expr} {type : Ty}
    (h : WellTyped scope (.compare mark .eq lhs rhs) type) :
    ∃ s t, WellTyped scope lhs s ∧ WellTyped scope rhs t ∧ s.Comparable t := by
  cases h with
  | order order => exact absurd rfl order
  | equality _ hs ht comparable => exact ⟨_, _, hs, ht, comparable⟩

theorem WellTyped.anyEqual_inv {type : Ty} (h : WellTyped scope (.anyEqual mark needle set) type) :
    ∀ e ∈ set, ∃ s t, WellTyped scope needle s ∧ WellTyped scope e t ∧ s.Comparable t := by
  intro e mem
  unfold Expr.anyEqual at h
  split at h
  next only =>
    obtain rfl := List.mem_singleton.mp mem
    exact h.equality_inv
  next =>
    cases h with
    | or all => exact (all _ (List.mem_map_of_mem mem)).equality_inv

omit [Patterns] in
/-- Parts that have types of some kind have them one by one. -/
theorem exists_types {P : Expr → Ty → Prop} (h : ∀ e ∈ set, ∃ t, P e t) :
    ∃ types : List Ty, set.length = types.length ∧ ∀ p ∈ set.zip types, P p.1 p.2 := by
  induction set with
  | nil => exact ⟨[], rfl, fun p mem => absurd mem List.not_mem_nil⟩
  | cons e rest ih =>
    obtain ⟨⟨t, first⟩, others⟩ := List.forall_mem_cons.mp h
    obtain ⟨types, hlen, all⟩ := ih others
    exact ⟨t :: types, congrArg (· + 1) hlen, List.forall_mem_cons.mpr ⟨first, all⟩⟩

/-- Members that can each be compared with the needle make a set. -/
theorem WellTyped.within_of_anyEqual {type : Ty} (nonempty : set ≠ [])
    (h : WellTyped scope (.anyEqual mark needle set) type) :
    WellTyped scope (.within mark needle set) .bool := by
  have compared := h.anyEqual_inv
  obtain ⟨first, mem⟩ := List.exists_mem_of_ne_nil set nonempty
  obtain ⟨s, t, hs, -, comparable⟩ := compared first mem
  have each : ∀ e ∈ set, ∃ t, WellTyped scope e t ∧ s.Comparable t := by
    intro e mem
    obtain ⟨s', t, hs', ht, comparable⟩ := compared e mem
    obtain rfl := hs.unique hs'
    exact ⟨t, ht, comparable⟩
  obtain ⟨types, hlen, all⟩ := exists_types each
  refine .within hs comparable.scalar hlen (fun p mem => (all p mem).1) fun t mem => ?_
  have last : (set.zip types).map Prod.snd = types := List.map_snd_zip (by omega)
  rw [← last] at mem
  obtain ⟨p, hp, rfl⟩ := List.mem_map.mp mem
  exact (all p hp).2

/-- A set is resolved to its needle and its members, and so are the comparisons with them. -/
theorem Resolves.anyEqual {x : Typed} (h : Resolves scope (.within mark needle set) x) :
    ∃ n bounds, x = ⟨.within n bounds, .bool⟩ ∧ set.length = bounds.length ∧
      Resolves scope (.anyEqual mark needle set) ⟨.anyEqual n bounds, .bool⟩ := by
  cases h with
  | @within _ _ _ _ n xs hn scalar hlen each comparable =>
    have lengths : set.length = (xs.map Typed.bound).length := by rw [hlen, List.length_map]
    refine ⟨n.bound, xs.map Typed.bound, rfl, lengths, ?_⟩
    let compared (y : Typed) : Typed := ⟨.compare .eq n.bound y.bound, .bool⟩
    have pairs : ∀ p ∈ set.zip xs,
        Resolves scope (.compare mark .eq needle p.1) (compared p.2) := by
      intro p mem
      exact .compare hn (each p mem) (comparable p.2 (List.of_mem_zip mem).2)
    by_cases single : set.length = 1
    · obtain ⟨e, rfl⟩ := List.length_eq_one_iff.mp single
      obtain ⟨y, rfl⟩ := List.length_eq_one_iff.mp hlen.symm
      exact pairs (e, y) List.mem_cons_self
    · have bounds : (xs.map Typed.bound).map (.compare .eq n.bound) =
          (xs.map compared).map Typed.bound := by rw [List.map_map, List.map_map]; rfl
      rw [Expr.anyEqual_of_length_ne single, Bound.anyEqual_of_length_ne (lengths ▸ single), bounds]
      refine .or (by rw [List.length_map, List.length_map, hlen]) (fun p mem => ?_) fun x mem => ?_
      · rw [List.zip_map] at mem
        obtain ⟨q, hq, rfl⟩ := List.mem_map.mp mem
        exact pairs q hq
      · obtain ⟨y, -, rfl⟩ := List.mem_map.mp mem
        rfl

end Types

section Evaluation

variable {answers : Answers ο} {record : ο} {params : List (Value ο)} {needle : Bound}
  {set : List Bound}

theorem Bound.eval_compare (op : CompareOp) (lhs rhs : Bound) :
    (compare op lhs rhs).eval record params = .bool <$> (do
      let a ← lhs.eval record params
      .ofExcept (a.test op (← rhs.eval record params))) := by
  rw [eval, map_bind]
  refine congrArg _ (funext fun a => ?_)
  rw [map_bind]
  refine congrArg _ (funext fun b => ?_)
  rw [map_eq_pure_bind]

theorem Bound.truth_compare (op : CompareOp) (lhs rhs : Bound) :
    (compare op lhs rhs).truth record params = (do
      let a ← lhs.eval record params
      .ofExcept (a.test op (← rhs.eval record params))) := by
  rw [truth, eval_compare, condition_bool]

theorem Connective.result_chain (c : Connective) {α : Type} {xs : List α}
    {f g : α → Reading ο Bool} (same : ∀ x ∈ xs, (f x).result answers = (g x).result answers) :
    (c.chain (xs.map f)).result answers = (c.chain (xs.map g)).result answers := by
  induction xs with
  | nil => rfl
  | cons x rest ih =>
    obtain ⟨first, others⟩ := List.forall_mem_cons.mp same
    rw [List.map_cons, List.map_cons, chain, chain, Reading.result_bind, Reading.result_bind, first]
    refine congrArg _ (funext fun holds => ?_)
    by_cases go : holds = c.neutral
    · rw [if_pos go, if_pos go, ih others]
    · rw [if_neg go, if_neg go]

theorem evalWithin_eq (v : Value ο) :
    evalWithin record v set params = Connective.or.chain (set.map fun e => do
      .ofExcept (v.test .eq (← e.eval record params))) := by
  induction set with
  | nil => rfl
  | cons e rest ih =>
    rw [evalWithin, List.map_cons, Connective.chain, bind_assoc, ih]
    refine congrArg _ (funext fun w => congrArg _ (funext fun holds => ?_))
    cases holds <;> rfl

/-- It makes no difference whether the needle is evaluated once or for each of the members. -/
theorem result_within (nonempty : set ≠ []) :
    ((Bound.within needle set).eval record params).result answers =
      ((Bound.or (set.map (.compare .eq needle))).eval record params).result answers := by
  have joined := Bound.eval_join record params .or (set.map (.compare .eq needle))
  rw [Connective.join, List.map_map] at joined
  rw [joined, Bound.eval]
  have compared (e : Bound) : (Bound.compare .eq needle e).truth record params = _ :=
    Bound.truth_compare .eq needle e
  cases value : (needle.eval record params).result answers with
  | error reason =>
    rw [Reading.result_bind_of_error value, Reading.result_map]
    obtain ⟨first, rest, rfl⟩ := List.exists_cons_of_ne_nil nonempty
    rw [List.map_cons, Connective.chain, Function.comp_apply, compared, bind_assoc,
      Reading.result_bind_of_error value]
    rfl
  | ok v =>
    rw [Reading.result_bind_of_ok value, Reading.result_map, Reading.result_map, evalWithin_eq]
    refine congrArg _ (Connective.or.result_chain fun e _ => ?_)
    rw [Function.comp_apply, compared, Reading.result_bind_of_ok value]

theorem result_anyEqual (nonempty : set ≠ []) :
    ((Bound.within needle set).eval record params).result answers =
      ((Bound.anyEqual needle set).eval record params).result answers := by
  rw [result_within nonempty]
  by_cases single : set.length = 1
  · obtain ⟨e, rfl⟩ := List.length_eq_one_iff.mp single
    have joined := Bound.eval_join record params .or [.compare .eq needle e]
    rw [List.map_singleton, Connective.chain_singleton, Bound.truth_compare,
      ← Bound.eval_compare] at joined
    exact congrArg _ joined
  · rw [Bound.anyEqual_of_length_ne single]

end Evaluation

/-- Membership is a disjunction of equalities: the two are resolved under the same conditions, and
then come to the same on all records whose answers depend on the question alone, whatever values the
parameters around have. -/
theorem within_agrees [Patterns] {scope : Scope} {mark : Mark} {needle : Expr} {set : List Expr}
    {e e' : Expr} (nonempty : set ≠ []) (he : e.unmarked = (Expr.within mark needle set).unmarked)
    (he' : e'.unmarked = (Expr.anyEqual mark needle set).unmarked) :
    ((∃ x, e.bind scope = .ok x) ↔ ∃ x, e'.bind scope = .ok x) ∧
      ∀ x x', e.bind scope = .ok x → e'.bind scope = .ok x' → x.type = .bool ∧ x'.type = .bool ∧
        ∀ {records : Records ο σ} {answers : Answers ο} {state : σ},
          records.Steady answers state → ∀ (record : ο) (stack : Array (Value ο)),
            x.bound.outcome records state record stack =
              x'.bound.outcome records state record stack := by
  simp only [bind_eq_ok_of_unmarked he, bind_eq_ok_of_unmarked he']
  refine ⟨⟨?_, ?_⟩, fun x x' bound bound' => ?_⟩
  · rintro ⟨x, bound⟩
    obtain ⟨n, bounds, -, -, resolved⟩ := (resolves_of_bind bound).anyEqual
    exact ⟨_, bind_of_resolves resolved⟩
  · rintro ⟨x, bound⟩
    have typed := WellTyped.within_of_anyEqual nonempty (resolves_of_bind bound).wellTyped
    obtain ⟨bound, resolved⟩ := typed.resolves
    exact ⟨_, bind_of_resolves resolved⟩
  · obtain ⟨n, bounds, rfl, hlen, resolved⟩ := (resolves_of_bind bound).anyEqual
    obtain rfl := resolved.unique (resolves_of_bind bound')
    refine ⟨rfl, rfl, fun steady record stack => ?_⟩
    have some : bounds ≠ [] := by
      rw [← List.length_pos_iff, ← hlen]
      exact List.length_pos_iff.mpr nonempty
    rw [Bound.outcome_of_steady steady, Bound.outcome_of_steady steady, result_anyEqual some]

namespace Box

/-- The number of weights. -/
def size : Expr :=
  .method .none (.ident .none "weights") "len" []

/-- The number 2, and the number of weights of the inner box, which is a fault if there is none. -/
def sizes : List Expr :=
  [.literal .none (.int 2), .method .none (.member .none (.ident .none "inner") "weights") "len" []]

theorem within_agrees_size :
    ∃ x x', (Expr.within .none size sizes).bind ⟨catalog, schema, []⟩ = .ok x ∧
      (Expr.anyEqual .none size sizes).bind ⟨catalog, schema, []⟩ = .ok x' ∧
      ∀ box, x.bound.outcome (.ofAnswers answer) () box #[] =
        x'.bound.outcome (.ofAnswers answer) () box #[] := by
  obtain ⟨x, bound⟩ : ∃ x, (Expr.within .none size sizes).bind ⟨catalog, schema, []⟩ = .ok x :=
    exists_eq_ok (by decide +kernel)
  have he : (Expr.within .none size sizes).unmarked = (Expr.within .none size sizes).unmarked := rfl
  obtain ⟨compiles, agrees⟩ := within_agrees (ο := Box) (σ := Unit) (List.cons_ne_nil _ _) he rfl
  obtain ⟨x', bound'⟩ := compiles.mp ⟨x, bound⟩
  obtain ⟨-, -, same⟩ := agrees x x' bound bound'
  exact ⟨x, x', bound, bound', fun box => same (Records.steady_ofAnswers answer) box #[]⟩

end Box

end RecordRules
