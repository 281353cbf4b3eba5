import RecordRules.Proofs.Parsing.Marks
import RecordRules.Proofs.ResolutionCompleteness

namespace RecordRules

theorem Expr.ReadsMember.of_unmarked {e e' : Expr} (h : e.ReadsMember)
    (same : e'.unmarked = e.unmarked) : e'.ReadsMember := by
  have unchanged (e : Expr) : e.unmarked.ReadsMember = e.ReadsMember := by
    cases e <;> rfl
  rwa [← unchanged, same, unchanged]

/-- What holds of expressions in pairs with others holds of them with other marks. -/
theorem forall_zip_of_unmarkedEach {es es' : List Expr} {xs : List Typed} {P : Expr → Typed → Prop}
    (same : unmarkedEach es' = unmarkedEach es) (hlen : es.length = xs.length)
    (h : ∀ p ∈ es.zip xs, ∀ e', e'.unmarked = p.1.unmarked → P e' p.2) :
    es'.length = xs.length ∧ ∀ p ∈ es'.zip xs, P p.1 p.2 := by
  have lengths : es'.length = es.length := by
    rw [← length_unmarkedEach es', same, length_unmarkedEach]
  refine ⟨lengths.trans hlen, ?_⟩
  intro p mem
  -- the pair stands at the same place as one of the other list
  obtain ⟨i, hi, rfl⟩ := List.mem_iff_getElem.mp mem
  rw [List.length_zip] at hi
  have here : i < (es.zip xs).length := by
    rw [List.length_zip]
    omega
  rw [unmarkedEach_eq_map, unmarkedEach_eq_map] at same
  have unmarked : es'[i].unmarked = es[i].unmarked := by
    have at' := List.getElem_of_eq same (i := i) (by rw [List.length_map]; omega)
    rwa [List.getElem_map, List.getElem_map] at at'
  have found := h _ (List.getElem_mem here) es'[i]
  rw [List.getElem_zip] at found ⊢
  exact found unmarked

variable [Patterns]

/-- What an expression is resolved to does not depend on its marks. -/
theorem Resolves.of_unmarked {scope : Scope} {e e' : Expr} {x : Typed} (h : Resolves scope e x)
    (same : e'.unmarked = e.unmarked) : Resolves scope e' x := by
  induction h generalizing e' with
  | literal =>
    obtain ⟨_, rfl⟩ := Expr.eq_literal_of_unmarked same
    exact .literal
  | param found =>
    obtain ⟨_, rfl⟩ := Expr.eq_ident_of_unmarked same
    exact .param found
  | rootField free found kind =>
    obtain ⟨_, rfl⟩ := Expr.eq_ident_of_unmarked same
    exact .rootField free found kind
  | field _ found kind ih =>
    obtain ⟨_, target, rfl, eq⟩ := Expr.eq_member_of_unmarked same
    exact .field (ih eq) found kind
  | rootCall found kind hlen _ accepted ih =>
    obtain ⟨_, args, rfl, eqs⟩ := Expr.eq_call_of_unmarked same
    obtain ⟨hlen, each⟩ := forall_zip_of_unmarkedEach eqs hlen fun p mem _ eq => ih p mem eq
    exact .rootCall found kind hlen each accepted
  | has absent reads _ ih =>
    obtain ⟨_, args, rfl, eqs⟩ := Expr.eq_call_of_unmarked same
    obtain ⟨arg, rfl, eq⟩ := eq_singleton_of_unmarkedEach eqs
    exact .has absent (reads.of_unmarked eq) (ih eq)
  | abs absent _ numeric ih =>
    obtain ⟨_, args, rfl, eqs⟩ := Expr.eq_call_of_unmarked same
    obtain ⟨arg, rfl, eq⟩ := eq_singleton_of_unmarkedEach eqs
    exact .abs absent (ih eq) numeric
  | choice absent mem _ numx _ numy ihx ihy =>
    obtain ⟨_, args, rfl, eqs⟩ := Expr.eq_call_of_unmarked same
    obtain ⟨first, second, rfl, eqx, eqy⟩ := eq_pair_of_unmarkedEach eqs
    exact .choice absent mem (ihx eqx) numx (ihy eqy) numy
  | methodCall _ found kind hlen _ accepted iht ih =>
    obtain ⟨_, target, args, rfl, eq, eqs⟩ := Expr.eq_method_of_unmarked same
    obtain ⟨hlen, each⟩ := forall_zip_of_unmarkedEach eqs hlen fun p mem _ eq => ih p mem eq
    exact .methodCall (iht eq) found kind hlen each accepted
  | stringProperty _ mem ih =>
    obtain ⟨_, target, args, rfl, eq, eqs⟩ := Expr.eq_method_of_unmarked same
    obtain rfl := eq_nil_of_unmarkedEach eqs
    exact .stringProperty (ih eq) mem
  | stringTest _ mem _ ih iha =>
    obtain ⟨_, target, args, rfl, eq, eqs⟩ := Expr.eq_method_of_unmarked same
    obtain ⟨arg, rfl, eqa⟩ := eq_singleton_of_unmarkedEach eqs
    exact .stringTest (ih eq) mem (iha eqa)
  | matching _ accepted ih =>
    obtain ⟨_, target, args, rfl, eq, eqs⟩ := Expr.eq_method_of_unmarked same
    obtain ⟨arg, rfl, eqa⟩ := eq_singleton_of_unmarkedEach eqs
    obtain ⟨_, rfl⟩ := Expr.eq_literal_of_unmarked eqa
    exact .matching (ih eq) accepted
  | listLength _ ih =>
    obtain ⟨_, target, args, rfl, eq, eqs⟩ := Expr.eq_method_of_unmarked same
    obtain rfl := eq_nil_of_unmarkedEach eqs
    exact .listLength (ih eq)
  | listContains _ _ scalar comparable ih iha =>
    obtain ⟨_, target, args, rfl, eq, eqs⟩ := Expr.eq_method_of_unmarked same
    obtain ⟨arg, rfl, eqa⟩ := eq_singleton_of_unmarkedEach eqs
    exact .listContains (ih eq) (iha eqa) scalar comparable
  | quantified _ mem _ ih ihb =>
    obtain ⟨_, target, args, rfl, eq, eqs⟩ := Expr.eq_method_of_unmarked same
    obtain ⟨_, body, rfl, eqb⟩ := eq_lambda_of_unmarkedEach eqs
    exact .quantified (ih eq) mem (ihb eqb)
  | not _ ih =>
    obtain ⟨_, operand, rfl, eq⟩ := Expr.eq_not_of_unmarked same
    exact .not (ih eq)
  | neg _ numeric ih =>
    obtain ⟨_, operand, rfl, eq⟩ := Expr.eq_neg_of_unmarked same
    exact .neg (ih eq) numeric
  | and hlen _ bools ih =>
    obtain ⟨_, operands, rfl, eqs⟩ := Expr.eq_and_of_unmarked same
    obtain ⟨hlen, each⟩ := forall_zip_of_unmarkedEach eqs hlen fun p mem _ eq => ih p mem eq
    exact .and hlen each bools
  | or hlen _ bools ih =>
    obtain ⟨_, operands, rfl, eqs⟩ := Expr.eq_or_of_unmarked same
    obtain ⟨hlen, each⟩ := forall_zip_of_unmarkedEach eqs hlen fun p mem _ eq => ih p mem eq
    exact .or hlen each bools
  | compare _ _ applies ihx ihy =>
    obtain ⟨_, lhs, rhs, rfl, eqx, eqy⟩ := Expr.eq_compare_of_unmarked same
    exact .compare (ihx eqx) (ihy eqy) applies
  | arith _ numx _ numy ihx ihy =>
    obtain ⟨_, lhs, rhs, rfl, eqx, eqy⟩ := Expr.eq_arith_of_unmarked same
    exact .arith (ihx eqx) numx (ihy eqy) numy
  | within _ scalar hlen _ comparable ihx ih =>
    obtain ⟨_, needle, set, rfl, eqx, eqs⟩ := Expr.eq_within_of_unmarked same
    obtain ⟨hlen, each⟩ := forall_zip_of_unmarkedEach eqs hlen fun p mem _ eq => ih p mem eq
    exact .within (ihx eqx) scalar hlen each comparable

theorem bind_eq_ok_of_unmarked {scope : Scope} {e e' : Expr} {x : Typed}
    (same : e'.unmarked = e.unmarked) : e'.bind scope = .ok x ↔ e.bind scope = .ok x := by
  rw [bind_eq_ok_iff, bind_eq_ok_iff]
  exact ⟨fun h => h.of_unmarked same.symm, fun h => h.of_unmarked same⟩

end RecordRules
