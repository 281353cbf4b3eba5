import RecordRules.Proofs.Quantifiers
import RecordRules.Proofs.ValueOrder
import RecordRules.Regex.Library

namespace RecordRules

variable {ο σ : Type}

namespace Ty

theorem comparableWith_comm (s t : Ty) : s.comparableWith t = t.comparableWith s := by
  cases s <;> cases t <;> rfl

end Ty

namespace CompareOp

variable {op : CompareOp} {s t : Ty}

/-- The converse operator relates the types the other way round. -/
theorem applies_converse (op : CompareOp) (s t : Ty) :
    op.converse.applies t s = op.applies s t := by
  cases op with
  | eq | ne => exact t.comparableWith_comm s
  | _ =>
    unfold applies
    rw [if_neg (by decide), if_neg (by decide), Bool.and_comm, Bool.and_comm (t == .string)]

/-- Values that have an order are equal or not. -/
theorem equality_applies (applies : op.applies s t) : CompareOp.eq.applies s t := by
  rcases cases_of_applies applies with ⟨hs, ht⟩ | ⟨rfl, rfl⟩ | ⟨-, rfl, rfl⟩
  · cases s <;> cases hs <;> cases t <;> cases ht <;> rfl
  · rfl
  · rfl

end CompareOp

namespace Value

variable {catalog : Catalog} {obeys : ο → Schema → Prop} {v w : Value ο} {s t : Ty}
  {op : CompareOp}

/-- Values of types that an operator applies to are scalars, and related by an order or both truth
values. -/
theorem compared_of_applies (hv : v.HasType catalog obeys s) (hw : w.HasType catalog obeys t)
    (applies : op.applies s t) : v.isComposite = false ∧ w.isComposite = false ∧
      ((∀ op' : CompareOp, v.compare? op' w = op'.holds (v.order? w)) ∨
        op.isEquality ∧ ∃ x y, v = .bool x ∧ w = .bool y) := by
  rcases CompareOp.cases_of_applies applies with ⟨hs, ht⟩ | ⟨rfl, rfl⟩ | ⟨equality, rfl, rfl⟩
  · obtain ⟨m, rfl, -⟩ | ⟨x, rfl, -⟩ := hv.numeric hs
    · obtain ⟨n, rfl, -⟩ | ⟨y, rfl, -⟩ := hw.numeric ht
      · exact ⟨rfl, rfl, .inl fun _ => rfl⟩
      · exact ⟨rfl, rfl, .inl fun _ => rfl⟩
    · obtain ⟨n, rfl, -⟩ | ⟨y, rfl, -⟩ := hw.numeric ht
      · exact ⟨rfl, rfl, .inl fun _ => rfl⟩
      · exact ⟨rfl, rfl, .inl fun _ => rfl⟩
  · cases hv
    cases hw
    exact ⟨rfl, rfl, .inl fun _ => rfl⟩
  · cases hv
    cases hw
    exact ⟨rfl, rfl, .inr ⟨equality, _, _, rfl, rfl⟩⟩

theorem test_of_scalars (hv : v.isComposite = false) (hw : w.isComposite = false) :
    test op v w = .ok ((v.compare? op w).getD false) := by
  rw [test, hv, hw]
  rfl

theorem test_converse (hv : v.HasType catalog obeys s) (hw : w.HasType catalog obeys t)
    (applies : op.applies s t) : test op v w = test op.converse w v := by
  obtain ⟨scalar, scalar', -⟩ := compared_of_applies hv hw applies
  rw [test_of_scalars scalar scalar', test_of_scalars scalar' scalar, compare?_converse]

theorem test_ne (hv : v.HasType catalog obeys s) (hw : w.HasType catalog obeys t)
    (applies : CompareOp.ne.applies s t) : test .ne v w = (!·) <$> test .eq v w := by
  obtain ⟨scalar, scalar', compared⟩ := compared_of_applies hv hw applies
  have defined : (v.compare? .eq w).isSome := by
    rcases compared with order | ⟨-, x, y, rfl, rfl⟩
    · rw [order]
      rfl
    · rfl
  obtain ⟨equal, found⟩ := Option.isSome_iff_exists.mp defined
  rw [test_of_scalars scalar scalar', test_of_scalars scalar scalar', compare?_ne, found]
  rfl

/-- The operators of an order, each with the one that also holds of equal values. -/
def orderings : List (CompareOp × CompareOp) :=
  [(.lt, .le), (.gt, .ge)]

/-- Where a number is not ordered with another one, they are not equal either. -/
theorem test_loose {strict loose : CompareOp} (mem : (strict, loose) ∈ orderings)
    (hv : v.HasType catalog obeys s) (hw : w.HasType catalog obeys t)
    (applies : loose.applies s t) :
    test loose v w = (do if ← test strict v w then return true else test .eq v w) := by
  obtain ⟨scalar, scalar', compared⟩ := compared_of_applies hv hw applies
  simp only [test_of_scalars scalar scalar']
  rcases List.mem_pair.mp mem with same | same
  · cases same
    rcases compared with order | ⟨equality, -⟩
    · rw [order, order, order]
      rcases v.order? w with _ | _ | _ | _ <;> rfl
    · cases equality
  · cases same
    rcases compared with order | ⟨equality, -⟩
    · rw [order, order, order]
      rcases v.order? w with _ | _ | _ | _ <;> rfl
    · cases equality

end Value

section Evaluation

variable {answers : Answers ο} {record : ο} {params : List (Value ο)} {lhs rhs : Bound}

theorem Bound.result_truth_compare (op : CompareOp) :
    ((compare op lhs rhs).truth record params).result answers = (do
      let v ← (lhs.eval record params).result answers
      v.test op (← (rhs.eval record params).result answers)) := by
  rw [truth_compare, Reading.result_bind]
  refine congrArg _ (funext fun v => ?_)
  rw [Reading.result_bind]
  exact congrArg _ (funext fun w => Reading.result_ofExcept _)

theorem Bound.result_compare (op : CompareOp) :
    ((compare op lhs rhs).eval record params).result answers = .bool <$> (do
      let v ← (lhs.eval record params).result answers
      v.test op (← (rhs.eval record params).result answers)) := by
  rw [eval_compare, ← truth_compare, Reading.result_map, result_truth_compare]

theorem Bound.result_not (operand : Bound) :
    ((not operand).eval record params).result answers =
      .bool <$> (!·) <$> (operand.truth record params).result answers := by
  rw [eval_not, Reading.result_map, Reading.result_map]

theorem Bound.result_either (first second : Bound) :
    ((or [first, second]).eval record params).result answers = .bool <$> (do
      if ← (first.truth record params).result answers then return true
      else (second.truth record params).result answers) := by
  have joined := eval_join record params .or [first, second]
  rw [Connective.join] at joined
  rw [joined, Reading.result_map, List.map_cons, Connective.chain, List.map_singleton,
    Connective.chain_singleton, Reading.result_bind]
  refine congrArg _ (congrArg _ (funext fun holds => ?_))
  cases holds <;> rfl

end Evaluation

/-- The records answer as they declare, the record is of the schema, and every parameter around has
a value of its type. -/
structure Setting.Conforms (records : Records ο σ) (obeys : ο → Schema → Prop)
    (setting : Setting ο) : Prop where
  answers : records.Conform setting.catalog obeys
  record : obeys setting.record setting.schema
  params : ∀ param ∈ setting.params, param.value.HasType setting.catalog obeys param.type

theorem Setting.Conforms.admits {setting : Setting ο} {records : Records ο σ}
    {obeys : ο → Schema → Prop} (h : setting.Conforms records obeys) :
    setting.scope.Admits obeys setting.values := by
  have types : setting.scope.params.map Prod.snd = setting.params.map Parameter.type :=
    List.map_map
  rw [Scope.Admits, types, Setting.values, List.forall₂_map_left_iff, List.forall₂_map_right_iff,
    List.forall₂_same]
  exact h.params

section Rules

variable [Patterns]

/-- On conforming records an expression comes to a value of its type, if it comes to one. -/
theorem Resolves.hasType_of_result {setting : Setting ο} {records : Records ο σ}
    {answers : Answers ο} {state : σ} {obeys : ο → Schema → Prop} {e : Expr} {x : Typed}
    {v : Value ο} (h : Resolves setting.scope e x) (conforms : setting.Conforms records obeys)
    (steady : records.Steady answers state)
    (value : (x.bound.eval setting.record setting.values).result answers = .ok v) :
    v.HasType setting.catalog obeys x.type := by
  have alike : ComparesAlike (Value.test (ο := ο)) := fun _ _ _ _ => rfl
  have safe := h.safe alike conforms.record setting.values conforms.admits
  have result := safe.run_result conforms.answers state
  rw [Bound.evalBy_test, (Reading.run_of_steady steady _).1] at result
  rw [Reading.result] at value
  rw [value] at result
  cases result with
  | ok hasType => exact hasType

theorem Setting.Conforms.operand_values {setting : Setting ο} {records : Records ο σ}
    {answers : Answers ο} {state : σ} {obeys : ο → Schema → Prop} {lhs rhs : Expr} {y z : Typed}
    (conforms : setting.Conforms records obeys) (steady : records.Steady answers state)
    (hy : Resolves setting.scope lhs y) (hz : Resolves setting.scope rhs z)
    (values : ∀ operand ∈ [lhs, rhs], ∃ x v, Resolves setting.scope operand x ∧
      (x.bound.eval setting.record setting.values).result answers = .ok v) :
    ∃ v w, (y.bound.eval setting.record setting.values).result answers = .ok v ∧
      (z.bound.eval setting.record setting.values).result answers = .ok w ∧
      v.HasType setting.catalog obeys y.type ∧ w.HasType setting.catalog obeys z.type := by
  obtain ⟨y', v, hy', left⟩ := values lhs List.mem_cons_self
  obtain ⟨z', w, hz', right⟩ := values rhs (List.mem_cons_of_mem _ List.mem_cons_self)
  obtain rfl := hy.unique hy'
  obtain rfl := hz.unique hz'
  exact ⟨v, w, left, right, hy.hasType_of_result conforms steady left,
    hz.hasType_of_result conforms steady right⟩

/-- The two expressions are resolved under the same conditions, to truth values, and come to the
same on conforming records whose answers depend on the question alone, wherever the operands come to
values. -/
def Setting.AgreeBeside (σ : Type) (setting : Setting ο) (operands : List Expr)
    (e e' : Expr) : Prop :=
  ((∃ x, e.bind setting.scope = .ok x) ↔ ∃ x, e'.bind setting.scope = .ok x) ∧
    ∀ x x', e.bind setting.scope = .ok x → e'.bind setting.scope = .ok x' →
      x.type = .bool ∧ x'.type = .bool ∧
        ∀ {records : Records ο σ} {answers : Answers ο} {state : σ} {obeys : ο → Schema → Prop},
          setting.Conforms records obeys → records.Steady answers state →
          (∀ operand ∈ operands, ∃ y v, operand.bind setting.scope = .ok y ∧
            y.bound.outcome records state setting.record setting.stack = .ok v) →
          x.bound.outcome records state setting.record setting.stack =
            x'.bound.outcome records state setting.record setting.stack

section

variable {setting : Setting ο} {operands : List Expr} {e e' d d' : Expr}

theorem Setting.AgreeBeside.of_unmarked (same : e.unmarked = d.unmarked)
    (same' : e'.unmarked = d'.unmarked) (h : setting.AgreeBeside σ operands d d') :
    setting.AgreeBeside σ operands e e' := by
  unfold AgreeBeside
  simp only [bind_eq_ok_of_unmarked same, bind_eq_ok_of_unmarked same']
  exact h

/-- What the two are resolved to suffices, with what that comes to where the operands come to
values. -/
theorem Setting.agreeBeside_of_resolves
    (resolves : ∀ x, Resolves setting.scope e x → ∃ x', Resolves setting.scope e' x')
    (resolves' : ∀ x', Resolves setting.scope e' x' → ∃ x, Resolves setting.scope e x)
    (agree : ∀ x x', Resolves setting.scope e x → Resolves setting.scope e' x' →
      x.type = .bool ∧ x'.type = .bool ∧
        ∀ {records : Records ο σ} {answers : Answers ο} {state : σ} {obeys : ο → Schema → Prop},
          setting.Conforms records obeys → records.Steady answers state →
          (∀ operand ∈ operands, ∃ y v, Resolves setting.scope operand y ∧
            (y.bound.eval setting.record setting.values).result answers = .ok v) →
          (x.bound.eval setting.record setting.values).result answers =
            (x'.bound.eval setting.record setting.values).result answers) :
    setting.AgreeBeside σ operands e e' := by
  unfold AgreeBeside
  simp only [bind_eq_ok_iff]
  refine ⟨⟨?_, ?_⟩, fun x x' h h' => ?_⟩
  · rintro ⟨x, h⟩
    exact resolves x h
  · rintro ⟨x', h'⟩
    exact resolves' x' h'
  · obtain ⟨isBool, isBool', same⟩ := agree x x' h h'
    refine ⟨isBool, isBool', fun conforms steady values => ?_⟩
    simp only [setting.outcome_eq steady] at values ⊢
    exact same conforms steady values

end

section

variable {scope : Scope} {mark : Mark} {op : CompareOp} {lhs rhs first second : Expr} {x : Typed}

theorem Resolves.compare_inv (h : Resolves scope (.compare mark op lhs rhs) x) :
    ∃ y z, Resolves scope lhs y ∧ Resolves scope rhs z ∧ op.applies y.type z.type ∧
      x = ⟨.compare op y.bound z.bound, .bool⟩ := by
  cases h with
  | compare hy hz applies => exact ⟨_, _, hy, hz, applies, rfl⟩

theorem Resolves.not_inv (h : Resolves scope (.not mark first) x) :
    ∃ y, Resolves scope first ⟨y, .bool⟩ ∧ x = ⟨.not y, .bool⟩ := by
  cases h with
  | not hy => exact ⟨_, hy, rfl⟩

theorem Resolves.either_inv (h : Resolves scope (.or mark [first, second]) x) :
    ∃ y z, Resolves scope first ⟨y, .bool⟩ ∧ Resolves scope second ⟨z, .bool⟩ ∧
      x = ⟨.or [y, z], .bool⟩ := by
  cases h with
  | @or _ _ _ xs hlen each bools =>
    obtain ⟨y, z, rfl⟩ := List.length_eq_two.mp hlen.symm
    have hy := each (first, y) List.mem_cons_self
    have hz := each (second, z) (List.mem_cons_of_mem _ List.mem_cons_self)
    obtain ⟨y, type⟩ := y
    obtain rfl : type = .bool := bools _ List.mem_cons_self
    obtain ⟨z, type⟩ := z
    obtain rfl : type = .bool := bools _ (List.mem_cons_of_mem _ List.mem_cons_self)
    exact ⟨y, z, hy, hz, rfl⟩

theorem Resolves.either {y z : Bound} (hy : Resolves scope first ⟨y, .bool⟩)
    (hz : Resolves scope second ⟨z, .bool⟩) :
    Resolves scope (.or mark [first, second]) ⟨.or [y, z], .bool⟩ := by
  have each : ∀ p ∈ [first, second].zip [Typed.mk y .bool, ⟨z, .bool⟩],
      Resolves scope p.1 p.2 := by
    intro p mem
    rcases List.mem_pair.mp mem with rfl | rfl
    · exact hy
    · exact hz
  have bools : ∀ x ∈ [Typed.mk y .bool, ⟨z, .bool⟩], x.type = .bool := by
    intro x mem
    rcases List.mem_pair.mp mem with rfl | rfl
    · rfl
    · rfl
  exact .or rfl each bools

end

section Laws

variable (setting : Setting ο) (mark mark' mark₁ mark₂ : Mark) (lhs rhs : Expr)

theorem Setting.agree_ne : setting.AgreeBeside σ [] (.compare mark .ne lhs rhs)
    (.not mark' (.compare mark₁ .eq lhs rhs)) := by
  refine setting.agreeBeside_of_resolves (fun x h => ?_) (fun x' h' => ?_) fun x x' h h' => ?_
  · obtain ⟨y, z, hy, hz, applies, -⟩ := h.compare_inv
    exact ⟨_, .not (.compare hy hz applies)⟩
  · obtain ⟨b, hb, -⟩ := h'.not_inv
    obtain ⟨y, z, hy, hz, applies, -⟩ := hb.compare_inv
    exact ⟨_, .compare hy hz applies⟩
  · obtain ⟨y, z, hy, hz, applies, rfl⟩ := h.compare_inv
    obtain rfl := h'.unique (.not (.compare hy hz applies))
    refine ⟨rfl, rfl, fun conforms steady _ => ?_⟩
    rw [Bound.result_compare, Bound.result_not, Bound.result_truth_compare]
    cases left : (y.bound.eval setting.record setting.values).result _ with
    | error => rfl
    | ok v => cases right : (z.bound.eval setting.record setting.values).result _ with
      | error => rfl
      | ok w =>
        have types := hy.hasType_of_result conforms steady left
        have types' := hz.hasType_of_result conforms steady right
        exact congrArg (Value.bool <$> ·) (Value.test_ne types types' applies)

theorem Setting.agree_converse (op : CompareOp) : setting.AgreeBeside σ [lhs, rhs]
    (.compare mark op lhs rhs) (.compare mark' op.converse rhs lhs) := by
  refine setting.agreeBeside_of_resolves (fun x h => ?_) (fun x' h' => ?_) fun x x' h h' => ?_
  · obtain ⟨y, z, hy, hz, applies, -⟩ := h.compare_inv
    exact ⟨_, .compare hz hy (op.applies_converse _ _ ▸ applies)⟩
  · obtain ⟨z, y, hz, hy, applies, -⟩ := h'.compare_inv
    exact ⟨_, .compare hy hz (op.applies_converse _ _ ▸ applies)⟩
  · obtain ⟨y, z, hy, hz, applies, rfl⟩ := h.compare_inv
    obtain rfl := h'.unique (.compare hz hy (op.applies_converse _ _ ▸ applies))
    refine ⟨rfl, rfl, fun conforms steady values => ?_⟩
    obtain ⟨v, w, left, right, types, types'⟩ := conforms.operand_values steady hy hz values
    rw [Bound.result_compare, Bound.result_compare, left, right]
    exact congrArg (Value.bool <$> ·) (Value.test_converse types types' applies)

theorem Setting.agree_loose {strict loose : CompareOp}
    (mem : (strict, loose) ∈ Value.orderings) : setting.AgreeBeside σ [lhs, rhs]
    (.compare mark loose lhs rhs)
    (.or mark' [.compare mark₁ strict lhs rhs, .compare mark₂ .eq lhs rhs]) := by
  have alike (s t : Ty) : strict.applies s t = loose.applies s t := by
    rcases List.mem_pair.mp mem with same | same <;> cases same <;> rfl
  refine setting.agreeBeside_of_resolves (fun x h => ?_) (fun x' h' => ?_) fun x x' h h' => ?_
  · obtain ⟨y, z, hy, hz, applies, -⟩ := h.compare_inv
    exact ⟨_, .either (.compare hy hz (alike _ _ ▸ applies))
      (.compare hy hz (CompareOp.equality_applies applies))⟩
  · obtain ⟨b, c, hb, -, -⟩ := h'.either_inv
    obtain ⟨y, z, hy, hz, applies, -⟩ := hb.compare_inv
    exact ⟨_, .compare hy hz (alike _ _ ▸ applies)⟩
  · obtain ⟨y, z, hy, hz, applies, rfl⟩ := h.compare_inv
    obtain rfl := h'.unique (.either (.compare hy hz (alike _ _ ▸ applies))
      (.compare hy hz (CompareOp.equality_applies applies)))
    refine ⟨rfl, rfl, fun conforms steady values => ?_⟩
    obtain ⟨v, w, left, right, types, types'⟩ := conforms.operand_values steady hy hz values
    rw [Bound.result_compare, Bound.result_either, Bound.result_truth_compare,
      Bound.result_truth_compare, left, right]
    exact congrArg (Value.bool <$> ·) (Value.test_loose mem types types' applies)

end Laws

/-- The six operators are coherent on values of all kinds, integers and strings are in one order
each, and rules keep the laws that follow. The law of inequality holds for errors too; the other
ones are about operands that come to values, for they are exchanged or evaluated twice. -/
theorem comparison_laws {setting : Setting ο} :
    (∀ a b : Value ο, a.Coherent b) ∧
    Value.TotallyOrdered (.int (ο := ο)) (fun m n => m.toInt < n.toInt) ∧
    Value.TotallyOrdered (.string (ο := ο))
      (fun s t => Value.codePoints s < Value.codePoints t) ∧
    (∀ lhs rhs e e' : Expr, e.unmarked = (Expr.compare .none .ne lhs rhs).unmarked →
      e'.unmarked = (Expr.not .none (.compare .none .eq lhs rhs)).unmarked →
      setting.AgreeBeside σ [] e e') ∧
    (∀ (op : CompareOp) (lhs rhs e e' : Expr),
      e.unmarked = (Expr.compare .none op lhs rhs).unmarked →
      e'.unmarked = (Expr.compare .none op.converse rhs lhs).unmarked →
      setting.AgreeBeside σ [lhs, rhs] e e') ∧
    (∀ (strict loose : CompareOp) (lhs rhs e e' : Expr), (strict, loose) ∈ Value.orderings →
      e.unmarked = (Expr.compare .none loose lhs rhs).unmarked →
      e'.unmarked = (Expr.or .none
        [.compare .none strict lhs rhs, .compare .none .eq lhs rhs]).unmarked →
      setting.AgreeBeside σ [lhs, rhs] e e') :=
  ⟨Value.coherent, Value.ints_ordered, Value.strings_ordered,
    fun lhs rhs _ _ same same' =>
      .of_unmarked same same' (setting.agree_ne .none .none .none lhs rhs),
    fun op lhs rhs _ _ same same' =>
      .of_unmarked same same' (setting.agree_converse .none .none lhs rhs op),
    fun _ _ lhs rhs _ _ mem same same' =>
      .of_unmarked same same' (setting.agree_loose .none .none .none .none lhs rhs mem)⟩

end Rules

namespace Box

theorem limited_conforms :
    limited.Conforms (.ofAnswers answer) fun box s => s = schema ∧ box = pair where
  answers := limited_sound.conform
  record := limited_sound.record
  params param mem := (limited_sound.params param mem).hasType

/-- The parameter around. -/
def limit : Expr :=
  .ident .none "n"

/-- The limit, which is 4, and the number of the two light weights, in the three laws. -/
theorem comparison_laws_limit :
    (∃ x x', (Expr.compare .none .ne limit lightOnes).bind limited.scope = .ok x ∧
      (Expr.not .none (.compare .none .eq limit lightOnes)).bind limited.scope = .ok x' ∧
      x.bound.outcome (.ofAnswers answer) () pair limited.stack =
        x'.bound.outcome (.ofAnswers answer) () pair limited.stack) ∧
    (∃ x', (Expr.compare .none .lt lightOnes limit).bind limited.scope = .ok x' ∧
      x'.bound.outcome (.ofAnswers answer) () pair limited.stack = .ok (.bool true)) ∧
    ∃ x', (Expr.or .none
        [.compare .none .gt limit lightOnes, .compare .none .eq limit lightOnes]).bind
          limited.scope = .ok x' ∧
      x'.bound.outcome (.ofAnswers answer) () pair limited.stack = .ok (.bool true) := by
  have steady := Records.steady_ofAnswers answer
  have values : ∀ operand ∈ [limit, lightOnes], ∃ y v, operand.bind limited.scope = .ok y ∧
      y.bound.outcome (.ofAnswers answer) () limited.record limited.stack = .ok v := by
    intro operand mem
    rcases List.mem_pair.mp mem with rfl | rfl
    · exact ⟨⟨.param 0, .int⟩, .int 4, rfl, rfl⟩
    · exact ⟨⟨.quantify .count (.get .root ⟨0⟩ []) (.compare .lt (.param 1) (.param 0)), .int⟩,
        .int 2, rfl, rfl⟩
  have compared (op : CompareOp) (applies : op.applies .int .int) :
      (Expr.compare .none op limit lightOnes).bind limited.scope =
        .ok ⟨.compare op (.param 0) (.quantify .count (.get .root ⟨0⟩ [])
          (.compare .lt (.param 1) (.param 0))), .bool⟩ := by
    cases op <;> rfl
  obtain ⟨-, -, -, negation, converse, loose⟩ := @comparison_laws Box Unit Regex.library limited
  refine ⟨?_, ?_, ?_⟩
  · obtain ⟨compiles, same⟩ := negation limit lightOnes _ _ rfl rfl
    obtain ⟨x', bound⟩ := compiles.mp ⟨_, compared .ne rfl⟩
    obtain ⟨-, -, same⟩ := same _ _ (compared .ne rfl) bound
    exact ⟨_, x', compared .ne rfl, bound, same limited_conforms steady (List.forall_mem_nil _)⟩
  · obtain ⟨compiles, same⟩ := converse .gt limit lightOnes _ _ rfl rfl
    obtain ⟨x', bound⟩ := compiles.mp ⟨_, compared .gt rfl⟩
    obtain ⟨-, -, same⟩ := same _ _ (compared .gt rfl) bound
    exact ⟨x', bound, (same limited_conforms steady values).symm⟩
  · obtain ⟨compiles, same⟩ := loose .gt .ge limit lightOnes _ _ (by decide) rfl rfl
    obtain ⟨x', bound⟩ := compiles.mp ⟨_, compared .ge rfl⟩
    obtain ⟨-, -, same⟩ := same _ _ (compared .ge rfl) bound
    exact ⟨x', bound, (same limited_conforms steady values).symm⟩

end Box

end RecordRules
