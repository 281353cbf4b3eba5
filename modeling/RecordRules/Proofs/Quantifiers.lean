import RecordRules.Proofs.FreeNames
import RecordRules.Proofs.Membership
import RecordRules.Regex.Library

namespace RecordRules

variable {ο σ : Type}

/-- The question that the lambda puts to the elements of the list, by the name of the quantifier. -/
def Expr.quantified (list : Expr) (name : String) (param : String) (body : Expr) : Expr :=
  .method .none list name [.lambda .none param body]

/-- The quantifier that joins the answers for the elements. -/
def Connective.quantifier : Connective → Quantifier
  | and => .all
  | or => .any

theorem any_mem_quantifiers : ("any", Quantifier.any, Ty.bool) ∈ quantifiers := by
  decide

theorem all_mem_quantifiers : ("all", Quantifier.all, Ty.bool) ∈ quantifiers := by
  decide

theorem count_mem_quantifiers : ("count", Quantifier.count, Ty.int) ∈ quantifiers := by
  decide

section Resolution

variable [Patterns] {scope : Scope} {mark lambdaMark : Mark} {list body arg : Expr}
  {name param : String} {x : Typed}

theorem Resolves.not_lambda : ¬ Resolves scope (.lambda mark param body) x :=
  fun h => by cases h

/-- A quantifier is resolved to its list and to the body of its lambda, for the elements of that
list. -/
theorem Resolves.quantified_inv {quantifier : Quantifier} {returns : Ty}
    (mem : (name, quantifier, returns) ∈ quantifiers)
    (h : Resolves scope (.method mark list name [.lambda lambdaMark param body]) x) :
    ∃ l element b, Resolves scope list ⟨l, .list element⟩ ∧
      Resolves (scope.push param element) body ⟨b, .bool⟩ ∧
      x = ⟨.quantify quantifier l b, returns⟩ := by
  cases h with
  | @methodCall _ _ _ _ _ _ _ _ _ _ xs ht hm hk hlen each =>
    obtain ⟨y, rfl⟩ := List.length_eq_one_iff.mp hlen.symm
    exact absurd (each (_, y) List.mem_cons_self) not_lambda
  | stringTest _ _ ha => exact absurd ha not_lambda
  | listContains _ ha => exact absurd ha not_lambda
  | @quantified _ _ _ l element _ q r _ _ _ b ht mem' hb =>
    have single : ∀ p ∈ quantifiers, ∀ q ∈ quantifiers, p.1 = q.1 → p = q := by decide
    cases single _ mem _ mem' rfl
    exact ⟨l, element, b, ht, hb, rfl⟩

/-- Whether there is one can be asked exactly if it can be asked whether it is not all for the
opposite. -/
theorem Resolves.any_iff : (∃ x, Resolves scope (list.quantified "any" param body) x) ↔
    ∃ x, Resolves scope
      (.not mark (list.quantified "all" param (.not lambdaMark body))) x := by
  constructor
  · rintro ⟨x, h⟩
    obtain ⟨l, element, b, hl, hb, -⟩ := h.quantified_inv any_mem_quantifiers
    exact ⟨_, .not (.quantified hl all_mem_quantifiers (.not hb))⟩
  · rintro ⟨x, h⟩
    cases h with
    | not h =>
      obtain ⟨l, element, b, hl, hb, -⟩ := h.quantified_inv all_mem_quantifiers
      cases hb with
      | not hb => exact ⟨_, .quantified hl any_mem_quantifiers hb⟩

theorem Resolves.contains_inv {l : Bound} {element : Ty}
    (ht : Resolves scope list ⟨l, .list element⟩)
    (h : Resolves scope (.method mark list "contains" [arg]) x) :
    ∃ y, Resolves scope arg y ∧ element.Comparable y.type ∧
      x = ⟨.builtin .contains [l, y.bound], .bool⟩ := by
  generalize named : "contains" = name at h
  cases h with
  | methodCall other => cases ht.unique other
  | stringTest other => cases ht.unique other
  | matching other => cases ht.unique other
  | @listContains _ _ _ _ _ _ y other ha scalar comparable =>
    cases ht.unique other
    exact ⟨y, ha, Ty.comparable_iff.mpr comparable, rfl⟩
  | quantified _ mem =>
    have others : ∀ q ∈ quantifiers, "contains" ≠ q.1 := by decide
    exact absurd named (others _ mem)

theorem Resolves.innermost {element : Ty} : Resolves (scope.push param element)
    (.ident mark param) ⟨.param scope.params.length, element⟩ :=
  .param (by rw [Scope.push, lookupParam, if_pos rfl])

/-- The body compares each element with what the expression is resolved to beside it. -/
theorem Resolves.anyEqual_inv {l : Bound} {element : Ty}
    (ht : Resolves scope list ⟨l, .list element⟩)
    (h : Resolves scope
      (list.quantified "any" param (.compare .none .eq (.ident .none param) arg)) x) :
    ∃ y, Resolves (scope.push param element) arg y ∧ element.Comparable y.type ∧
      x = ⟨.quantify .any l (.compare .eq (.param scope.params.length) y.bound), .bool⟩ := by
  obtain ⟨l', element', b, hl, hb, rfl⟩ := h.quantified_inv any_mem_quantifiers
  cases ht.unique hl
  cases hb with
  | @compare _ _ _ _ _ p y hp hy applies =>
    obtain rfl := hp.unique .innermost
    exact ⟨y, hy, applies_iff.mp applies, rfl⟩

/-- Whether a list has an element can be asked in the one way exactly if it can in the other. -/
theorem Resolves.contains_iff {l : Bound} {element : Ty} (fresh : param ∉ arg.freeNames)
    (ht : Resolves scope list ⟨l, .list element⟩) :
    (∃ x, Resolves scope (.method mark list "contains" [arg]) x) ↔
      ∃ x, Resolves scope
        (list.quantified "any" param (.compare .none .eq (.ident .none param) arg)) x := by
  have agree : scope.AgreeOn arg.freeNames (scope.push param element) := .of_fresh fresh element
  constructor
  · rintro ⟨x, h⟩
    obtain ⟨y, hy, comparable, -⟩ := ht.contains_inv h
    obtain ⟨b, hb⟩ := (hy.wellTyped.of_agree agree).resolves
    exact ⟨_, .quantified ht any_mem_quantifiers
      (.compare .innermost hb (applies_iff.mpr comparable))⟩
  · rintro ⟨x, h⟩
    obtain ⟨y, hy, comparable, -⟩ := ht.anyEqual_inv h
    obtain ⟨b, hb⟩ := (hy.wellTyped.of_agree agree.symm).resolves
    exact ⟨_, .listContains ht hb (Ty.scalar_iff.mp comparable.scalar)
      (Ty.comparable_iff.mp comparable)⟩

end Resolution

section Evaluation

variable {answers : Answers ο} {record : ο} {params : List (Value ο)} {source body : Bound}
  {ask : Value ο → Reading ο Bool} {values : List (Value ο)} {truths : List Bool}

namespace Quantifier

theorem anyOf_eq (ask : Value ο → Reading ο Bool) (values : List (Value ο)) :
    anyOf ask values = Connective.or.chain (values.map ask) := by
  induction values with
  | nil => rfl
  | cons v rest ih =>
    rw [anyOf, List.map_cons, Connective.chain, ih]
    refine congrArg _ (funext fun holds => ?_)
    cases holds <;> rfl

theorem allOf_eq (ask : Value ο → Reading ο Bool) (values : List (Value ο)) :
    allOf ask values = Connective.and.chain (values.map ask) := by
  induction values with
  | nil => rfl
  | cons v rest ih =>
    rw [allOf, List.map_cons, Connective.chain, ih]
    refine congrArg _ (funext fun holds => ?_)
    cases holds <;> rfl

theorem across_quantifier (c : Connective) (ask : Value ο → Reading ο Bool)
    (values : List (Value ο)) :
    c.quantifier.across ask values = .bool <$> c.chain (values.map ask) := by
  cases c with
  | and => rw [Connective.quantifier, across, allOf_eq]
  | or => rw [Connective.quantifier, across, anyOf_eq]

/-- The question has these answers for the values. -/
def Answered (answers : Answers ο) (ask : Value ο → Reading ο Bool) :
    List (Value ο) → List Bool → Prop :=
  List.Forall₂ fun v holds => (ask v).result answers = .ok holds

/-- A count is there only if all of the values are asked about and answered. -/
theorem exists_answered {counted n : Nat}
    (h : (countOf ask counted values).result answers = .ok n) :
    ∃ truths, Answered answers ask values truths ∧ n = counted + truths.count true := by
  induction values generalizing counted with
  | nil =>
    cases h
    exact ⟨[], .nil, rfl⟩
  | cons v rest ih =>
    rw [countOf, Reading.result_bind] at h
    obtain ⟨holds, answer, h⟩ := bind_eq_ok.mp h
    obtain ⟨truths, others, rfl⟩ := ih h
    refine ⟨holds :: truths, .cons answer others, ?_⟩
    cases holds with
    | true =>
      rw [if_pos rfl, List.count_cons_self]
      omega
    | false => rw [if_neg Bool.false_ne_true, List.count_cons_of_ne Bool.false_ne_true]

theorem Answered.anyOf (h : Answered answers ask values truths) :
    (anyOf ask values).result answers = .ok (decide (0 < truths.count true)) := by
  induction h with
  | nil => rfl
  | @cons v holds rest truths answer _ ih =>
    rw [Quantifier.anyOf, Reading.result_bind_of_ok answer]
    cases holds with
    | true =>
      rw [List.count_cons_self, decide_eq_true (Nat.succ_pos _)]
      rfl
    | false =>
      rw [List.count_cons_of_ne Bool.false_ne_true]
      exact ih

theorem Answered.allOf (h : Answered answers ask values truths) :
    (allOf ask values).result answers = .ok (decide (truths.count true = values.length)) := by
  induction h with
  | nil => rfl
  | @cons v holds rest truths answer others ih =>
    rw [Quantifier.allOf, Reading.result_bind_of_ok answer]
    cases holds with
    | true =>
      rw [List.count_cons_self, List.length_cons, decide_eq_decide.mpr Nat.succ_inj]
      exact ih
    | false =>
      have fewer : (false :: truths).count true ≠ (v :: rest).length := by
        have lengths := others.length_eq
        have most := List.count_le_length (a := true) (l := truths)
        rw [List.count_cons_of_ne Bool.false_ne_true, List.length_cons]
        omega
      rw [decide_eq_false fewer]
      rfl

/-- One of the values is equal to the needle exactly if the question for that has a yes. -/
theorem result_anyOf_eq {needle : Value ο}
    (asks : ∀ v, (ask v).result answers = v.test .eq needle) :
    (anyOf ask values).result answers = Value.member needle values := by
  induction values with
  | nil => rfl
  | cons v rest ih =>
    rw [anyOf, Reading.result_bind, asks, Value.member]
    refine congrArg _ (funext fun holds => ?_)
    cases holds with
    | true => rfl
    | false => exact ih

end Quantifier

theorem Bound.eval_quantify (q : Quantifier) :
    (quantify q source body).eval record params = (do
      let values ← .ofExcept (← source.eval record params).asList
      q.across (fun v => body.truth record (v :: params)) values) := by
  rw [eval]
  rfl

theorem Bound.eval_quantify_chain (c : Connective) :
    (quantify c.quantifier source body).eval record params = .bool <$> (do
      let values ← .ofExcept (← source.eval record params).asList
      c.chain (values.map fun v => body.truth record (v :: params))) := by
  rw [eval_quantify, map_bind]
  refine congrArg _ (funext fun v => ?_)
  rw [map_bind]
  exact congrArg _ (funext fun values => Quantifier.across_quantifier c _ values)

/-- A quantifier is the other one of the opposite question, negated. -/
theorem Bound.eval_quantify_dual (c : Connective) :
    (quantify c.dual.quantifier source body).eval record params =
      (not (quantify c.quantifier source (not body))).eval record params := by
  have negated (values : List (Value ο)) :
      values.map (fun v => body.truth record (v :: params)) =
        (values.map fun v => (not body).truth record (v :: params)).map ((!·) <$> ·) := by
    rw [List.map_map]
    refine List.map_congr_left fun v _ => ?_
    rw [Function.comp_apply, ← truth_not, truth_not_not]
  rw [eval_not, truth, eval_quantify_chain, eval_quantify_chain, condition_bool]
  refine congrArg (Value.bool <$> ·) ?_
  rw [map_bind]
  refine congrArg _ (funext fun v => ?_)
  rw [map_bind]
  refine congrArg _ (funext fun values => ?_)
  rw [negated, Connective.chain_dual]

theorem Value.asList_eq_ok {v : Value ο} {values : List (Value ο)} (h : v.asList = .ok values) :
    v = .list values := by
  cases v with
  | list vs =>
    cases h
    rfl
  | _ => cases h

theorem Bound.result_quantify (q : Quantifier)
    (list : (source.eval record params).result answers = .ok (.list values)) :
    ((quantify q source body).eval record params).result answers =
      (q.across (fun v => body.truth record (v :: params)) values).result answers := by
  rw [eval_quantify, Reading.result_bind_of_ok list]
  rfl

/-- Only a list has something that comes of a quantifier on it. -/
theorem Bound.exists_list_of_quantify {q : Quantifier} {w : Value ο}
    (h : ((quantify q source body).eval record params).result answers = .ok w) :
    ∃ values, (source.eval record params).result answers = .ok (.list values) := by
  rw [eval_quantify, Reading.result_bind] at h
  obtain ⟨v, value, h⟩ := bind_eq_ok.mp h
  rw [Reading.result_bind, Reading.result_ofExcept] at h
  obtain ⟨values, isList, -⟩ := bind_eq_ok.mp h
  exact ⟨values, Value.asList_eq_ok isList ▸ value⟩

theorem Bound.result_len (list : (source.eval record params).result answers = .ok (.list values)) :
    ((builtin .len [source]).eval record params).result answers =
      .ok (.ofCount values.length) := by
  rw [eval, evalEach, Reading.result_bind, Reading.result_bind_of_ok list]
  rfl

/-- Where there is a count, the other two quantifiers are known from it. -/
theorem Bound.result_of_count {w : Value ο}
    (h : ((quantify .count source body).eval record params).result answers = .ok w) :
    ∃ values n, (source.eval record params).result answers = .ok (.list values) ∧
      n ≤ values.length ∧ w = .ofCount n ∧
      ((quantify .any source body).eval record params).result answers =
        .ok (.bool (decide (0 < n))) ∧
      ((quantify .all source body).eval record params).result answers =
        .ok (.bool (decide (n = values.length))) := by
  obtain ⟨values, list⟩ := exists_list_of_quantify h
  rw [result_quantify .count list, Quantifier.across, Reading.result_map, map_eq_pure_bind] at h
  obtain ⟨n, counted, h⟩ := bind_eq_ok.mp h
  cases h
  obtain ⟨truths, answered, rfl⟩ := Quantifier.exists_answered counted
  rw [Nat.zero_add]
  refine ⟨values, truths.count true, list, ?_, rfl, ?_, ?_⟩
  · rw [answered.length_eq]
    exact List.count_le_length
  · rw [result_quantify .any list, Quantifier.across, Reading.result_map, answered.anyOf]
    rfl
  · rw [result_quantify .all list, Quantifier.across, Reading.result_map, answered.allOf]
    rfl

theorem Bound.result_contains {needle : Bound} {w : Value ο}
    (list : (source.eval record params).result answers = .ok (.list values))
    (value : (needle.eval record params).result answers = .ok w) :
    ((builtin .contains [source, needle]).eval record params).result answers =
      .bool <$> Value.member w values := by
  rw [eval, evalEach, evalEach, evalEach, bind_assoc, Reading.result_bind_of_ok list, bind_assoc,
    bind_assoc, Reading.result_bind_of_ok value, map_eq_pure_bind]
  exact Reading.result_ofExcept _

/-- Each element is asked about while the needle, which does not depend on it, stays the same. -/
theorem Bound.result_any_equal {needle : Bound} {w : Value ο}
    (list : (source.eval record params).result answers = .ok (.list values))
    (value : ∀ v, (needle.eval record (v :: params)).result answers = .ok w) :
    ((quantify .any source (.compare .eq (.param params.length) needle)).eval record params).result
      answers = .bool <$> Value.member w values := by
  have asks (v : Value ο) : ((Bound.compare .eq (.param params.length) needle).truth record
      (v :: params)).result answers = v.test .eq w := by
    rw [truth_compare, eval, paramValue, if_pos rfl, pure_bind, Reading.result_bind_of_ok (value v),
      Reading.result_ofExcept]
  rw [result_quantify .any list, Quantifier.across, Reading.result_map,
    Quantifier.result_anyOf_eq asks]

end Evaluation

/-- A count as an integer. -/
theorem Value.exists_ofCount (n : Nat) : ∃ m : Int64, (ofCount n : Value ο) = .int m ∧
    m.toInt = min (n : Int) Int64.maxValue.toInt := by
  by_cases fits : n ≤ Int64.maxValue.toInt
  · obtain ⟨m, found, same⟩ := exists_int64? (int64Range_natCast fits)
    refine ⟨m, ?_, by omega⟩
    rw [ofCount, found, Option.getD_some]
  · have none : Number.int64? n = Option.none := int64?_eq_none fun range => fits range.2
    refine ⟨Int64.maxValue, ?_, by omega⟩
    rw [ofCount, none, Option.getD_none]

/-- The values of the parameters around, the outermost one first. -/
def Setting.stack (setting : Setting ο) : Array (Value ο) :=
  setting.values.reverse.toArray

theorem Setting.outcome_eq (setting : Setting ο) {records : Records ο σ} {answers : Answers ο}
    {state : σ} (steady : records.Steady answers state) (e : Bound) :
    e.outcome records state setting.record setting.stack =
      (e.eval setting.record setting.values).result answers := by
  rw [Bound.outcome_of_steady steady, stack, List.reverse_reverse]

section Outcomes

variable {records : Records ο σ} {answers : Answers ο} {state : σ}

/-- As integers, a count and the length of the list decide the other two quantifiers. -/
theorem Bound.outcome_of_count (steady : records.Steady answers state) {source body : Bound}
    {record : ο} {stack : Array (Value ο)} {v : Value ο}
    (h : (quantify .count source body).outcome records state record stack = .ok v) :
    ∃ (n m : Int64) (values : List (Value ο)), v = .int n ∧
      source.outcome records state record stack = .ok (.list values) ∧
      (builtin .len [source]).outcome records state record stack = .ok (.int m) ∧
      (quantify .any source body).outcome records state record stack =
        .ok (.bool (decide (0 < n))) ∧
      (values.length ≤ Int64.maxValue.toInt →
        (quantify .all source body).outcome records state record stack =
          .ok (.bool (decide (n = m)))) := by
  simp only [outcome_of_steady steady] at h ⊢
  obtain ⟨values, n, list, le, rfl, any, all⟩ := result_of_count h
  obtain ⟨counted, hn, intn⟩ := Value.exists_ofCount (ο := ο) n
  obtain ⟨size, hm, intm⟩ := Value.exists_ofCount (ο := ο) values.length
  refine ⟨counted, size, values, hn, list, by rw [result_len list, hm], ?_, fun fits => ?_⟩
  · have positive : 0 < counted ↔ 0 < n := by
      have bound : 0 < Int64.maxValue.toInt := by decide
      rw [Int64.lt_iff_toInt_lt, intn, Int64.toInt_zero]
      omega
    rw [any, decide_eq_decide.mpr positive]
  · have full : counted = size ↔ n = values.length := by
      rw [← Int64.toInt_inj, intn, intm]
      omega
    rw [all, decide_eq_decide.mpr full]

theorem Resolves.outcome_contains [Patterns] (steady : records.Steady answers state)
    {setting : Setting ο} {l : Bound} {arg : Expr} {param : String} {element : Ty} {y y' : Typed}
    {values : List (Value ο)} {w : Value ο} (hy : Resolves setting.scope arg y)
    (hy' : Resolves (setting.scope.push param element) arg y') (fresh : param ∉ arg.freeNames)
    (list : l.outcome records state setting.record setting.stack = .ok (.list values))
    (value : y.bound.outcome records state setting.record setting.stack = .ok w) :
    (Bound.builtin .contains [l, y.bound]).outcome records state setting.record setting.stack =
      (Bound.quantify .any l
        (.compare .eq (.param setting.scope.params.length) y'.bound)).outcome records state
          setting.record setting.stack := by
  simp only [setting.outcome_eq steady] at list value ⊢
  have slot : setting.scope.params.length = setting.values.length := by
    rw [Setting.scope, Setting.values, List.length_map, List.length_map]
  have beside (v : Value ο) :
      (y'.bound.eval setting.record (v :: setting.values)).result answers = .ok w := by
    rw [hy.eval_of_fresh ⟨param, element, v⟩ hy' fresh, value]
  rw [Bound.result_contains list value, slot, Bound.result_any_equal list beside]

end Outcomes

/-- The laws of quantifiers, in any setting of parameters and with any list. The first one is about
the whole computation, so that it holds for all records; the other two are about records whose
answers depend on the question alone. A list is compared with its length where that is an integer,
as it is for every list in memory. -/
theorem quantifier_laws [Patterns] {setting : Setting ο} {list : Expr} {param : String} :
    (∀ body e e' : Expr, e.unmarked = (list.quantified "any" param body).unmarked →
      e'.unmarked = (Expr.not .none (list.quantified "all" param (.not .none body))).unmarked →
      ((∃ x, e.bind setting.scope = .ok x) ↔ ∃ x, e'.bind setting.scope = .ok x) ∧
        ∀ x x', e.bind setting.scope = .ok x → e'.bind setting.scope = .ok x' →
          x.type = .bool ∧ x'.type = .bool ∧
            x.bound.evaluate setting.record setting.stack =
              x'.bound.evaluate setting.record setting.stack) ∧
    (∀ (body count any all len : Expr) (x : Typed),
      count.unmarked = (list.quantified "count" param body).unmarked →
      any.unmarked = (list.quantified "any" param body).unmarked →
      all.unmarked = (list.quantified "all" param body).unmarked →
      len.unmarked = (Expr.method .none list "len" []).unmarked →
      count.bind setting.scope = .ok x →
      ∃ l element a b c, list.bind setting.scope = .ok ⟨l, .list element⟩ ∧
        any.bind setting.scope = .ok ⟨a, .bool⟩ ∧ all.bind setting.scope = .ok ⟨b, .bool⟩ ∧
        len.bind setting.scope = .ok ⟨c, .int⟩ ∧
        ∀ {records : Records ο σ} {answers : Answers ο} {state : σ}, records.Steady answers state →
          ∀ v, x.bound.outcome records state setting.record setting.stack = .ok v →
            ∃ (n m : Int64) (values : List (Value ο)), v = .int n ∧
              l.outcome records state setting.record setting.stack = .ok (.list values) ∧
              c.outcome records state setting.record setting.stack = .ok (.int m) ∧
              a.outcome records state setting.record setting.stack =
                .ok (.bool (decide (0 < n))) ∧
              (values.length ≤ Int64.maxValue.toInt →
                b.outcome records state setting.record setting.stack =
                  .ok (.bool (decide (n = m))))) ∧
    (∀ (arg contains any : Expr) (l : Bound) (element : Ty),
      contains.unmarked = (Expr.method .none list "contains" [arg]).unmarked →
      any.unmarked =
        (list.quantified "any" param (.compare .none .eq (.ident .none param) arg)).unmarked →
      param ∉ arg.freeNames → list.bind setting.scope = .ok ⟨l, .list element⟩ →
      ((∃ x, contains.bind setting.scope = .ok x) ↔ ∃ x, any.bind setting.scope = .ok x) ∧
        ∀ x x' y, contains.bind setting.scope = .ok x → any.bind setting.scope = .ok x' →
          arg.bind setting.scope = .ok y → x.type = .bool ∧ x'.type = .bool ∧
            ∀ {records : Records ο σ} {answers : Answers ο} {state : σ},
              records.Steady answers state → ∀ values w,
                l.outcome records state setting.record setting.stack = .ok (.list values) →
                y.bound.outcome records state setting.record setting.stack = .ok w →
                x.bound.outcome records state setting.record setting.stack =
                  x'.bound.outcome records state setting.record setting.stack) := by
  refine ⟨fun body e e' he he' => ?_,
    fun body count any all len x hcount hany hall hlen bound => ?_,
    fun arg contains any l element hcontains hany fresh isList => ?_⟩
  · simp only [bind_eq_ok_of_unmarked he, bind_eq_ok_of_unmarked he', bind_eq_ok_iff]
    refine ⟨Resolves.any_iff, fun x x' h h' => ?_⟩
    obtain ⟨l, element, b, hl, hb, rfl⟩ := h.quantified_inv any_mem_quantifiers
    obtain rfl := h'.unique (.not (.quantified hl all_mem_quantifiers (.not hb)))
    refine ⟨rfl, rfl, ?_⟩
    rw [Bound.evaluate_eq, Bound.evaluate_eq]
    exact Bound.eval_quantify_dual .and
  · simp only [bind_eq_ok_of_unmarked hcount, bind_eq_ok_of_unmarked hany,
      bind_eq_ok_of_unmarked hall, bind_eq_ok_of_unmarked hlen, bind_eq_ok_iff] at bound ⊢
    obtain ⟨l, element, b, hl, hb, rfl⟩ := bound.quantified_inv count_mem_quantifiers
    exact ⟨l, element, _, _, _, hl, .quantified hl any_mem_quantifiers hb,
      .quantified hl all_mem_quantifiers hb, .listLength hl,
      fun steady v h => Bound.outcome_of_count steady h⟩
  · simp only [bind_eq_ok_of_unmarked hcontains, bind_eq_ok_of_unmarked hany, bind_eq_ok_iff]
      at isList ⊢
    refine ⟨isList.contains_iff fresh, fun x x' y h h' hy => ?_⟩
    obtain ⟨z, hz, -, rfl⟩ := isList.contains_inv h
    obtain ⟨y', hy', -, rfl⟩ := isList.anyEqual_inv h'
    obtain rfl := hz.unique hy
    exact ⟨rfl, rfl, fun steady values w list value =>
      hy.outcome_contains steady hy' fresh list value⟩

namespace Box

def weights : Expr :=
  .ident .none "weights"

/-- The weight is less than the parameter around. -/
def light : Expr :=
  .compare .none .lt (.ident .none "w") (.ident .none "n")

/-- The number of the weights that are light. -/
def lightOnes : Expr :=
  weights.quantified "count" "w" light

/-- All weights of the pair are light. Their number is looked for in the list with a parameter of
the name that it has inside. -/
theorem quantifier_laws_light :
    (∃ x x', (weights.quantified "any" "w" light).bind limited.scope = .ok x ∧
      (Expr.not .none (weights.quantified "all" "w" (.not .none light))).bind limited.scope =
        .ok x' ∧
      x.bound.evaluate pair limited.stack = x'.bound.evaluate pair limited.stack) ∧
    (∃ all, (weights.quantified "all" "w" light).bind limited.scope = .ok ⟨all, .bool⟩ ∧
      all.outcome (.ofAnswers answer) () pair limited.stack = .ok (.bool true)) ∧
    ∃ x x', (Expr.method .none weights "contains" [lightOnes]).bind limited.scope = .ok x ∧
      (weights.quantified "any" "w"
        (.compare .none .eq (.ident .none "w") lightOnes)).bind limited.scope = .ok x' ∧
      x.bound.outcome (.ofAnswers answer) () pair limited.stack =
        x'.bound.outcome (.ofAnswers answer) () pair limited.stack := by
  have steady := Records.steady_ofAnswers answer
  have isList : weights.bind limited.scope = .ok ⟨.get .root ⟨0⟩ [], .list .int⟩ := rfl
  have counted : lightOnes.bind limited.scope =
      .ok ⟨.quantify .count (.get .root ⟨0⟩ []) (.compare .lt (.param 1) (.param 0)), .int⟩ := rfl
  obtain ⟨dual, counts, contains⟩ := @quantifier_laws Box Unit Regex.library limited weights "w"
  refine ⟨?_, ?_, ?_⟩
  · obtain ⟨x, bound⟩ : ∃ x, (weights.quantified "any" "w" light).bind limited.scope = .ok x :=
      exists_eq_ok (by decide +kernel)
    obtain ⟨compiles, same⟩ := dual light _ _ rfl rfl
    obtain ⟨x', bound'⟩ := compiles.mp ⟨x, bound⟩
    exact ⟨x, x', bound, bound', (same x x' bound bound').2.2⟩
  · obtain ⟨l, element, a, b, c, hl, -, hb, hc, known⟩ :=
      counts light _ _ _ _ _ rfl rfl rfl rfl counted
    obtain ⟨n, m, values, hn, list, hm, -, full⟩ := known steady (.int 2) rfl
    obtain ⟨rfl, rfl⟩ : l = .get .root ⟨0⟩ [] ∧ element = .int := by
      cases Except.ok.inj (isList.symm.trans hl)
      exact ⟨rfl, rfl⟩
    have two : Except.ok (ε := Stop) (Value.int (ο := Box) 2) = .ok (.int m) := by
      have size : Except.ok (ε := BindError) (Typed.mk (.builtin .len [.get .root ⟨0⟩ []]) .int) =
          .ok ⟨c, .int⟩ := hc
      cases size
      exact hm
    have found : Except.ok (ε := Stop) (Value.list (ο := Box) [.int 3, .int (-5)]) =
        .ok (.list values) := list
    cases hn
    cases two
    cases found
    exact ⟨b, hb, full (by decide)⟩
  · obtain ⟨x, bound⟩ : ∃ x, (Expr.method .none weights "contains" [lightOnes]).bind
        limited.scope = .ok x := exists_eq_ok (by decide +kernel)
    obtain ⟨compiles, same⟩ := contains lightOnes _ _ _ _ rfl rfl (by decide) isList
    obtain ⟨x', bound'⟩ := compiles.mp ⟨x, bound⟩
    obtain ⟨-, -, same⟩ := same x x' _ bound bound' counted
    exact ⟨x, x', bound, bound', same steady [.int 3, .int (-5)] (.int 2) rfl rfl⟩

end Box

end RecordRules
