import RecordRules.Proofs.ByName
import RecordRules.Proofs.Comparing
import RecordRules.Proofs.Resolution
import RecordRules.Regex.Library

namespace RecordRules

theorem find?_of_lookupParam {name : String} {params : List (String × Ty)} {slot : Nat} {type : Ty}
    (h : lookupParam name params = some (slot, type)) :
    params.find? (·.1 = name) = some (name, type) := by
  induction params with
  | nil => cases h
  | cons p outer ih =>
    obtain ⟨param, paramType⟩ := p
    unfold lookupParam at h
    split at h
    next same =>
      cases h
      rw [List.find?_cons_of_pos (by simpa using same), same]
    next other => rw [List.find?_cons_of_neg (by simpa using other), ih h]

theorem find?_of_lookupParam_eq_none {name : String} {params : List (String × Ty)}
    (h : lookupParam name params = none) : params.find? (·.1 = name) = none := by
  induction params with
  | nil => rfl
  | cons p outer ih =>
    unfold lookupParam at h
    split at h
    next => cases h
    next other => rw [List.find?_cons_of_neg (by simpa using other), ih h]

section Tables

variable {name : String} {function : Builtin} {quantifier : Quantifier} {returns : Ty}

theorem lookup_of_choice (mem : (name, function) ∈ choices) :
    numberFunctions.lookup name = some function ∧ name ≠ "has" := by
  have all : ∀ p ∈ choices, numberFunctions.lookup p.1 = some p.2 ∧ p.1 ≠ "has" := by decide
  exact all _ mem

theorem lookup_of_stringProperty (mem : (name, function, returns) ∈ stringProperties) :
    plainMethods.lookup name = some function ∧ Ty.ofStringMethod name = returns := by
  have all : ∀ p ∈ stringProperties,
      plainMethods.lookup p.1 = some p.2.1 ∧ Ty.ofStringMethod p.1 = p.2.2 := by decide
  exact all _ mem

theorem lookup_of_stringTest (mem : (name, function) ∈ stringTests) :
    plainMethods.lookup name = some function ∧ Ty.ofStringMethod name = .bool := by
  have all : ∀ p ∈ stringTests,
      plainMethods.lookup p.1 = some p.2 ∧ Ty.ofStringMethod p.1 = .bool := by decide
  exact all _ mem

theorem lookup_of_quantifier (mem : (name, quantifier, returns) ∈ quantifiers) :
    plainMethods.lookup name = none ∧ lambdaMethods.lookup name = some quantifier ∧
      Ty.ofListMethod name = returns := by
  have all : ∀ p ∈ quantifiers, plainMethods.lookup p.1 = none ∧
      lambdaMethods.lookup p.1 = some p.2.1 ∧ Ty.ofListMethod p.1 = p.2.2 := by decide
  exact all _ mem

end Tables

/-- The type that is found without checking is the one that an expression is resolved with. -/
theorem Resolves.staticType [Patterns] {scope : Scope} {e : Expr} {x : Typed}
    (h : Resolves scope e x) : e.staticType scope = some x.type := by
  induction h with
  | literal => rfl
  | param found => rw [Expr.staticType, find?_of_lookupParam found]
  | rootField free hm hk =>
    rw [Expr.staticType, find?_of_lookupParam_eq_none free, hm, Option.map_some,
      Member.type_of_field hk]
  | field ht hm hk ih => simp [Expr.staticType, ih, hm, Member.type_of_field hk]
  | rootCall hm hk hlen hall accepted ih =>
    rw [Expr.staticType, hm]
    exact congrArg some (Member.type_of_method hk)
  | methodCall ht hm hk hlen hall accepted iht ih =>
    simp [Expr.staticType, iht, hm, Member.type_of_method hk]
  | has absent reads ha ih => simp [Expr.staticType, absent]
  | abs absent ha numeric ih => simp [Expr.staticType, staticTypes, absent, ih, Ty.join?]
  | choice absent mem hx numx hy numy ihx ihy =>
    obtain ⟨-, other⟩ := lookup_of_choice mem
    simp [Expr.staticType, staticTypes, absent, other, ihx, ihy, Ty.join?]
  | stringProperty ht mem ih =>
    obtain ⟨-, returns⟩ := lookup_of_stringProperty mem
    simp [Expr.staticType, ih, returns]
  | stringTest ht mem ha ih iha =>
    obtain ⟨-, returns⟩ := lookup_of_stringTest mem
    simp [Expr.staticType, ih, returns]
  | matching ht hp ih => simp [Expr.staticType, ih, Ty.ofStringMethod]
  | listLength ht ih => simp [Expr.staticType, ih, Ty.ofListMethod]
  | listContains ht ha scalar comparable ih iha => simp [Expr.staticType, ih, Ty.ofListMethod]
  | quantified ht mem hb ih ihb =>
    obtain ⟨-, -, returns⟩ := lookup_of_quantifier mem
    simp [Expr.staticType, ih, returns]
  | neg ho numeric ih => exact ih
  | arith hx numx hy numy ihx ihy =>
    rw [Expr.staticType, ihx, ihy]
    rfl
  | not | and | or | compare | within => rfl

namespace Reading

variable {ο : Type} (x y z : Reading ο Bool)

theorem both_assoc : both (both x y) z = both x (both y z) := by
  simp only [both, bind_assoc]
  refine congrArg _ (funext fun b => ?_)
  cases b <;> rfl

theorem either_assoc : either (either x y) z = either x (either y z) := by
  simp only [either, bind_assoc]
  refine congrArg _ (funext fun b => ?_)
  cases b <;> rfl

theorem both_true : both x (pure true) = x := by
  have same : ∀ b, (if b = true then pure true else pure false : Reading ο Bool) = pure b := by
    intro b
    cases b <;> rfl
  simp only [both, same, bind_pure]

theorem either_false : either x (pure false) = x := by
  have same : ∀ b, (if b = true then pure true else pure false : Reading ο Bool) = pure b := by
    intro b
    cases b <;> rfl
  simp only [either, same, bind_pure]

theorem foldl_both (rest : List (Reading ο Bool)) :
    rest.foldl both (both x y) = both x (rest.foldl both y) := by
  induction rest generalizing y with
  | nil => rfl
  | cons z rest ih => rw [List.foldl_cons, List.foldl_cons, both_assoc, ih]

theorem foldl_either (rest : List (Reading ο Bool)) :
    rest.foldl either (either x y) = either x (rest.foldl either y) := by
  induction rest generalizing y with
  | nil => rfl
  | cons z rest ih => rw [List.foldl_cons, List.foldl_cons, either_assoc, ih]

/-- It makes no difference from which end a chain of conjunctions is nested. -/
theorem conjunction_cons (rest : List (Reading ο Bool)) :
    conjunction (x :: rest) = both x (conjunction rest) := by
  cases rest with
  | nil => exact (both_true x).symm
  | cons y rest => exact foldl_both x y rest

theorem disjunction_cons (rest : List (Reading ο Bool)) :
    disjunction (x :: rest) = either x (disjunction rest) := by
  cases rest with
  | nil => exact (either_false x).symm
  | cons y rest => exact foldl_either x y rest

end Reading

variable {ο : Type}

theorem map_eq_map_of_zip {α β γ : Type} {f : α → γ} {g : β → γ} {as : List α} {bs : List β}
    (hlen : as.length = bs.length) (h : ∀ p ∈ as.zip bs, f p.1 = g p.2) :
    as.map f = bs.map g := by
  induction as generalizing bs with
  | nil =>
    rw [List.length_nil] at hlen
    rw [List.eq_nil_of_length_eq_zero hlen.symm, List.map_nil, List.map_nil]
  | cons a rest ih =>
    cases bs with
    | nil => cases hlen
    | cons b others =>
      obtain ⟨first, hrest⟩ := List.forall_mem_cons.mp h
      rw [List.map_cons, List.map_cons, ih (Nat.succ.inj hlen) hrest, first]

section Lists

variable (record : ο) (values : List (Value ο)) (bounds : List Bound)

theorem inOrder_eval :
    Reading.inOrder (bounds.map (·.eval record values)) = evalEach record bounds values := by
  induction bounds with
  | nil => rfl
  | cons e rest ih => rw [List.map_cons, Reading.inOrder, evalEach, ih]

theorem member_eval (target : Bound) (member : Member) :
    Reading.member (target.eval record values) (bounds.map (·.eval record values)) (some member) =
      (Bound.get target member.id bounds).eval record values := by
  rw [Reading.member, inOrder_eval, Bound.eval]

theorem plain_eval (function : Builtin) :
    Reading.plain function (bounds.map (·.eval record values)) =
      (Bound.builtin function bounds).eval record values := by
  rw [Reading.plain, inOrder_eval, Bound.eval]

theorem conjunction_eval :
    Reading.conjunction (bounds.map fun e => (e.eval record values).condition) =
      evalAnd record bounds values := by
  induction bounds with
  | nil => rfl
  | cons e rest ih =>
    rw [List.map_cons, Reading.conjunction_cons, ih, evalAnd, Reading.both, Reading.condition,
      bind_assoc]

theorem disjunction_eval :
    Reading.disjunction (bounds.map fun e => (e.eval record values).condition) =
      evalOr record bounds values := by
  induction bounds with
  | nil => rfl
  | cons e rest ih =>
    rw [List.map_cons, Reading.disjunction_cons, ih, evalOr, Reading.either, Reading.condition,
      bind_assoc]

theorem disjunction_test (v : Value ο) :
    Reading.disjunction (bounds.map fun e => do
        .ofExcept (v.test .eq (← e.eval record values))) =
      evalWithin record v bounds values := by
  induction bounds with
  | nil => rfl
  | cons e rest ih =>
    rw [List.map_cons, Reading.disjunction_cons, ih, evalWithin, Reading.either, bind_assoc]

end Lists

namespace Setting

/-- The slot of a parameter holds the value of the innermost parameter of that name. -/
theorem param?_of_lookupParam {setting : Setting ο} {name : String} {slot : Nat} {type : Ty}
    (h : lookupParam name setting.scope.params = some (slot, type)) :
    ∃ param, setting.param? name = some param ∧
      paramValue slot setting.values = pure param.value := by
  obtain ⟨catalog, schema, record, params⟩ := setting
  induction params with
  | nil => cases h
  | cons p outer ih =>
    have hlen : (outer.map Parameter.value).length =
        (outer.map fun param => (param.name, param.type)).length := by simp
    simp only [scope, List.map_cons, lookupParam] at h
    split at h
    next same =>
      cases h
      refine ⟨p, List.find?_cons_of_pos (by simpa using same), ?_⟩
      rw [values, List.map_cons, paramValue, if_pos hlen.symm]
    next other =>
      obtain ⟨param, found, value⟩ := ih h
      have lt := lookupParam_lt h
      refine ⟨param, ?_, ?_⟩
      · rw [param?, List.find?_cons_of_neg (by simpa using other)]
        exact found
      · rw [values, List.map_cons, paramValue, if_neg (by omega)]
        exact value

theorem param?_of_lookupParam_eq_none {setting : Setting ο} {name : String}
    (h : lookupParam name setting.scope.params = none) : setting.param? name = none := by
  have free := find?_of_lookupParam_eq_none h
  rw [scope, List.find?_map, Option.map_eq_none_iff] at free
  exact free

end Setting

section Interpretation

variable [Patterns]

theorem interpretEach_eq_map (es : List Expr) (setting : Setting ο) :
    interpretEach es setting = es.map (·.interpret setting) := by
  induction es with
  | nil => rfl
  | cons e rest ih => rw [interpretEach, List.map_cons, ih]

theorem interpretEach_eval {setting : Setting ο} {es : List Expr} {xs : List Typed}
    (hlen : es.length = xs.length)
    (each : ∀ p ∈ es.zip xs, p.1.interpret setting =
      p.2.bound.eval setting.record setting.values) :
    interpretEach es setting =
      (xs.map Typed.bound).map (·.eval setting.record setting.values) := by
  rw [interpretEach_eq_map, List.map_map]
  exact map_eq_map_of_zip hlen each

/-- Reading an expression and evaluating what it is resolved to are the same computation. -/
theorem Resolves.interpret {scope : Scope} {e : Expr} {x : Typed} (h : Resolves scope e x)
    (setting : Setting ο) (hs : setting.scope = scope) :
    e.interpret setting = x.bound.eval setting.record setting.values := by
  induction h generalizing setting with
  | literal => rfl
  | param found =>
    subst hs
    obtain ⟨param, named, value⟩ := Setting.param?_of_lookupParam found
    rw [Expr.interpret, Setting.ident, named, Bound.eval, value]
  | rootField free hm hk =>
    subst hs
    rw [Expr.interpret, Setting.ident, Setting.param?_of_lookupParam_eq_none free]
    change Reading.member _ _ (setting.scope.root.member? _) = _
    rw [hm]
    exact member_eval setting.record setting.values [] .root _
  | field ht hm hk ih =>
    subst hs
    rw [Expr.interpret, ht.staticType, ih setting rfl, Setting.member]
    change Reading.member _ _ ((setting.scope.catalog.schema _).member? _) = _
    rw [hm]
    exact member_eval setting.record setting.values [] _ _
  | rootCall hm hk hlen hall accepted ih =>
    subst hs
    have args := interpretEach_eval hlen fun p hp => ih p hp setting rfl
    have hm : setting.schema.member? _ = _ := hm
    rw [Expr.interpret, Setting.call, hm, args]
    exact member_eval setting.record setting.values _ .root _
  | methodCall ht hm hk hlen hall accepted iht ih =>
    subst hs
    have args := interpretEach_eval hlen fun p hp => ih p hp setting rfl
    rw [Expr.interpret, ht.staticType, iht setting rfl, args, Setting.method]
    change Reading.member _ _ ((setting.scope.catalog.schema _).member? _) = _
    rw [hm]
    exact member_eval setting.record setting.values _ _ _
  | has absent reads ha ih =>
    subst hs
    have absent : setting.schema.member? "has" = none := absent
    rw [Expr.interpret, Setting.call, absent, interpretEach, interpretEach, ih setting rfl]
    rfl
  | abs absent ha numeric ih =>
    subst hs
    have absent : setting.schema.member? "abs" = none := absent
    rw [Expr.interpret, Setting.call, absent, interpretEach, interpretEach, ih setting rfl]
    exact plain_eval setting.record setting.values [_] .abs
  | choice absent mem hx numx hy numy ihx ihy =>
    subst hs
    have absent : setting.schema.member? _ = none := absent
    rw [Expr.interpret, Setting.call, absent, interpretEach, interpretEach, interpretEach,
      ihx setting rfl, ihy setting rfl]
    simp only [Reading.functionCall, (lookup_of_choice mem).1]
    exact plain_eval setting.record setting.values [_, _] _
  | stringProperty ht mem ih =>
    subst hs
    rw [Expr.interpret, ht.staticType, ih setting rfl, Setting.method, Reading.stringMethod,
      (lookup_of_stringProperty mem).1]
    exact plain_eval setting.record setting.values [_] _
  | stringTest ht mem ha ih iha =>
    subst hs
    rw [Expr.interpret, ht.staticType, ih setting rfl, Setting.method, Reading.stringMethod,
      (lookup_of_stringTest mem).1, interpretEach, interpretEach, iha setting rfl]
    exact plain_eval setting.record setting.values [_, _] _
  | matching ht hp ih =>
    subst hs
    have free : plainMethods.lookup "matches" = none := by decide
    rw [Expr.interpret, ht.staticType, ih setting rfl, Setting.method, Reading.stringMethod, free]
    simp only [if_true, Reading.patternTest, hp]
    rfl
  | listLength ht ih =>
    subst hs
    rw [Expr.interpret, ht.staticType, ih setting rfl]
    exact plain_eval setting.record setting.values [_] _
  | listContains ht ha scalar comparable ih iha =>
    subst hs
    rw [Expr.interpret, ht.staticType, ih setting rfl, interpretEach, interpretEach,
      iha setting rfl]
    exact plain_eval setting.record setting.values [_, _] _
  | quantified ht mem hb ih ihb =>
    subst hs
    obtain ⟨noPlain, quantifier, -⟩ := lookup_of_quantifier mem
    rw [Expr.interpret, ht.staticType, ih setting rfl, Setting.method, Reading.listMethod,
      noPlain, quantifier, Bound.eval]
    refine congrArg _ (funext fun result => congrArg _ (funext fun vs => ?_))
    refine congrArg (Quantifier.across _ · vs) (funext fun v => ?_)
    rw [interpretBody, ihb _ rfl]
    rfl
  | not ho ih =>
    rw [Expr.interpret, ih setting hs, Reading.condition, Bound.eval, bind_assoc]
  | neg ho numeric ih =>
    rw [Expr.interpret, ih setting hs, Bound.eval_negated, Bound.eval]
  | and hlen hall bools ih =>
    have operands := interpretEach_eval hlen fun p hp => ih p hp setting hs
    rw [Expr.interpret, operands, List.map_map, Bound.eval]
    exact congrArg _ (conjunction_eval setting.record setting.values _)
  | or hlen hall bools ih =>
    have operands := interpretEach_eval hlen fun p hp => ih p hp setting hs
    rw [Expr.interpret, operands, List.map_map, Bound.eval]
    exact congrArg _ (disjunction_eval setting.record setting.values _)
  | compare hx hy applies ihx ihy =>
    rw [Expr.interpret, ihx setting hs, ihy setting hs, Bound.eval]
  | arith hx numx hy numy ihx ihy =>
    rw [Expr.interpret, ihx setting hs, ihy setting hs, Bound.eval]
  | within hx scalar hlen hall comparable ihx ih =>
    have members := interpretEach_eval hlen fun p hp => ih p hp setting hs
    rw [Expr.interpret, members, ihx setting hs, Bound.eval]
    refine congrArg _ (funext fun v => congrArg _ ?_)
    rw [List.map_map]
    exact disjunction_test setting.record setting.values _ v

/-- A compiled rule is the same computation as its text read with names: whatever records answer, it
puts the same calls in the same order and ends in the same way. -/
theorem test_eq_interpret_of_compile {catalog : Catalog} {root : Schema} {text : String}
    {predicate : Predicate} (compiled : compile catalog root text = .ok predicate) :
    ∃ e, parse text = .ok e ∧ ∀ {ο : Type} (record : ο),
      predicate.test record = (e.interpret ⟨catalog, root, record, []⟩).condition := by
  obtain ⟨e, parsed, resolved⟩ := resolves_of_compile compiled
  refine ⟨e, parsed, fun record => ?_⟩
  rw [Predicate.test_eq, resolved.interpret ⟨catalog, root, record, []⟩ rfl]
  rfl

end Interpretation

/-- The inner parameter hides the outer one of the same name, and only in its own body, which may
fail. -/
theorem Box.test_eq_interpret_shadowed :
    ∃ predicate, compile catalog schema
        "weights.any(w => has(inner.weights.all(w => w > -3)) or w > 1)" = .ok predicate ∧
      ∃ e, parse "weights.any(w => has(inner.weights.all(w => w > -3)) or w > 1)" = .ok e ∧
        predicate.test (closed [1, 2] none) =
          (e.interpret ⟨catalog, schema, closed [1, 2] none, []⟩).condition := by
  have accepted : (compile catalog schema
      "weights.any(w => has(inner.weights.all(w => w > -3)) or w > 1)").isOk = true := by
    decide +kernel
  cases compiled : compile catalog schema
      "weights.any(w => has(inner.weights.all(w => w > -3)) or w > 1)" with
  | error reason =>
    rw [compiled] at accepted
    cases accepted
  | ok predicate =>
    obtain ⟨e, parsed, same⟩ := test_eq_interpret_of_compile compiled
    exact ⟨predicate, rfl, e, parsed, same (closed [1, 2] none)⟩

end RecordRules
