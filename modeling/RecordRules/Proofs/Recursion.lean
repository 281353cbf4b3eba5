import RecordRules.Evaluate
import RecordRules.Proofs.Conformance
import RecordRules.Proofs.Depth
import RecordRules.Proofs.Parsing.Exactness
import RecordRules.Proofs.Resolution
import RecordRules.Regex.Library

namespace RecordRules

/-! One call of the binder or of the evaluator, with something else in the place of the calls it
makes for the parts. -/

section Binder

variable [Patterns]

section Calls

variable (next : Expr → Binding)

def Expr.asLambdaBy : Expr → Option (String × Nat × Binding)
  | .lambda _ param body => some (param, body.span.start, next body)
  | _ => none

def Expr.argumentBy (e : Expr) : Argument :=
  ⟨e, next e, e.asLambdaBy next⟩

def conditionsBy : List Expr → Scope → Except BindError (List Bound)
  | [], _ => .ok []
  | e :: rest, scope => do
    let x ← next e scope
    scope.expect .bool "logical operator" e.span.start x
    return x.bound :: (← conditionsBy rest scope)

def membersBy (type : Ty) : List Expr → Scope → Except BindError (List Bound)
  | [], _ => .ok []
  | e :: rest, scope => do
    let x ← next e scope
    if type.comparableWith x.type then pure ()
    else scope.mismatch "in" (type.render scope.catalog) x.type e.span.start
    return x.bound :: (← membersBy type rest scope)

/-- The binder, but for the resolution of the parts. -/
def Expr.bindBy : Expr → Binding
  | .literal _ value, _ => .ok ⟨.const value, value.type⟩
  | .ident mark name, scope => scope.ident name mark.span.start
  | .member mark target name, scope => do
    scope.member (← next target scope) name mark.span.start
  | .call mark name args, scope => scope.call name (args.map (argumentBy next)) mark.span.start
  | .method mark target name args, scope => do
    scope.method (← next target scope) name (args.map (argumentBy next)) mark.span.start
  | .lambda mark _ _, _ => .error ⟨.malformed .strayLambda, mark.span.start⟩
  | .not _ operand, scope => do
    let x ← next operand scope
    scope.expect .bool "negation" operand.span.start x
    return ⟨.not x.bound, .bool⟩
  | .neg _ operand, scope => do
    let x ← next operand scope
    scope.expectNumber "negation" operand.span.start x
    return ⟨x.bound.negated, x.type⟩
  | .and _ operands, scope => do return ⟨.and (← conditionsBy next operands scope), .bool⟩
  | .or _ operands, scope => do return ⟨.or (← conditionsBy next operands scope), .bool⟩
  | .compare _ op lhs rhs, scope => do
    let x ← next lhs scope
    let y ← next rhs scope
    scope.comparison op x y rhs.span.start
  | .arith _ op lhs rhs, scope => do
    let x ← next lhs scope
    scope.expectNumber "arithmetic" lhs.span.start x
    let y ← next rhs scope
    scope.expectNumber "arithmetic" rhs.span.start y
    return ⟨.arith op x.bound y.bound, x.type.numericJoin y.type⟩
  | .within _ needle set, scope => do
    let x ← next needle scope
    if x.type.isScalar then pure ()
    else scope.mismatch "in" "scalar" x.type needle.span.start
    return ⟨.within x.bound (← membersBy next x.type set scope), .bool⟩

end Calls

theorem conditionsBy_bind (es : List Expr) (scope : Scope) :
    conditionsBy Expr.bind es scope = conditionsOf es scope := by
  induction es with
  | nil => rfl
  | cons e rest ih => rw [conditionsBy, conditionsOf, ih]

theorem membersBy_bind (type : Ty) (es : List Expr) (scope : Scope) :
    membersBy Expr.bind type es scope = membersOf type es scope := by
  induction es with
  | nil => rfl
  | cons e rest ih => rw [membersBy, membersOf, ih]

theorem Expr.argumentBy_bind : argumentBy Expr.bind = argument := by
  funext e
  cases e <;> rfl

/-- The binder resolves the parts by itself. -/
theorem Expr.bindBy_bind (e : Expr) : e.bindBy Expr.bind = e.bind := by
  funext scope
  cases e with
  | call | method => rw [bindBy, bind, argumentsOf_eq_map, argumentBy_bind]
  | and | or => rw [bindBy, bind, conditionsBy_bind]
  | within => simp only [bindBy, bind, membersBy_bind]
  | _ => rfl

section Congr

variable {next next' : Expr → Binding} {es : List Expr}

omit [Patterns] in
theorem conditionsBy_congr (h : ∀ e ∈ es, next e = next' e) (scope : Scope) :
    conditionsBy next es scope = conditionsBy next' es scope := by
  induction es with
  | nil => rfl
  | cons e rest ih =>
    obtain ⟨first, others⟩ := List.forall_mem_cons.mp h
    rw [conditionsBy, conditionsBy, first, ih others]

omit [Patterns] in
theorem membersBy_congr (h : ∀ e ∈ es, next e = next' e) (type : Ty) (scope : Scope) :
    membersBy next type es scope = membersBy next' type es scope := by
  induction es with
  | nil => rfl
  | cons e rest ih =>
    obtain ⟨first, others⟩ := List.forall_mem_cons.mp h
    rw [membersBy, membersBy, first, ih others]

omit [Patterns] in
/-- Of a lambda the body is resolved, which is below it. -/
theorem Expr.argumentBy_congr {e : Expr}
    (h : ∀ part, part.depth ≤ e.depth → next part = next' part) :
    argumentBy next e = argumentBy next' e := by
  have lambda : e.asLambdaBy next = e.asLambdaBy next' := by
    cases e with
    | lambda mark param body =>
      have below : body.depth ≤ (Expr.lambda mark param body).depth := by
        rw [depth]
        omega
      simp only [asLambdaBy, h body below]
    | _ => rfl
  rw [argumentBy, argumentBy, h e (Nat.le_refl _), lambda]

/-- A call of the binder calls it for expressions that are lower. -/
theorem Expr.bindBy_congr {e : Expr} (h : ∀ part, part.depth < e.depth → next part = next' part) :
    e.bindBy next = e.bindBy next' := by
  funext scope
  have each (es : List Expr) (deep : greatestDepth es < e.depth) :
      ∀ part ∈ es, next part = next' part :=
    fun part mem => h part (Nat.lt_of_le_of_lt (depth_le_greatestDepth mem) deep)
  have arguments (es : List Expr) (deep : greatestDepth es < e.depth) :
      es.map (argumentBy next) = es.map (argumentBy next') :=
    List.map_congr_left fun arg mem => argumentBy_congr fun part le =>
      h part (Nat.lt_of_le_of_lt (Nat.le_trans le (depth_le_greatestDepth mem)) deep)
  cases e with
  | literal | ident | lambda => rfl
  | member mark target name | not mark target | neg mark target =>
    have below := h target (by rw [depth]; omega)
    simp only [bindBy, below]
  | call mark name args => simp only [bindBy, arguments args (by rw [depth]; omega)]
  | method mark target name args =>
    have below := h target (by rw [depth]; omega)
    simp only [bindBy, below, arguments args (by rw [depth]; omega)]
  | and mark operands | or mark operands =>
    simp only [bindBy, conditionsBy_congr (each operands (by rw [depth]; omega))]
  | compare mark op lhs rhs | arith mark op lhs rhs =>
    have left := h lhs (by rw [depth]; omega)
    have right := h rhs (by rw [depth]; omega)
    simp only [bindBy, left, right]
  | within mark needle set =>
    have below := h needle (by rw [depth]; omega)
    simp only [bindBy, below, membersBy_congr (each set (by rw [depth]; omega))]

end Congr

/-- The binder with so many calls inside each other, and beyond these something else. -/
def Expr.bindCalls (beyond : Expr → Binding) : Nat → Expr → Binding
  | 0 => beyond
  | calls + 1 => bindBy (bindCalls beyond calls)

/-- The binder makes no more calls inside each other than the expression has levels. -/
theorem Expr.bindCalls_of_depth_le (beyond : Expr → Binding) {calls : Nat} {e : Expr}
    (enough : e.depth ≤ calls) : e.bindCalls beyond calls = e.bind := by
  induction calls generalizing e with
  | zero =>
    -- every expression has a level, so none is left when the calls are used up
    rw [depth_eq] at enough
    omega
  | succ calls ih =>
    rw [bindCalls, ← e.bindBy_bind]
    exact bindBy_congr fun part below => ih (by omega)

end Binder

variable {ο : Type}

section Calls

variable (root : ο) (next : Bound → Machine ο (Value ο))

def eachBy : List Bound → Machine ο (List (Value ο))
  | [] => pure []
  | e :: rest => do
    let v ← next e
    return v :: (← eachBy rest)

def andBy : List Bound → Machine ο Bool
  | [] => pure true
  | e :: rest => do
    if ← .ofExcept (← next e).asBool then andBy rest else pure false

def orBy : List Bound → Machine ο Bool
  | [] => pure false
  | e :: rest => do
    if ← .ofExcept (← next e).asBool then pure true else orBy rest

def withinBy (v : Value ο) : List Bound → Machine ο Bool
  | [] => pure false
  | e :: rest => do
    let w ← next e
    if ← .ofExcept (v.test .eq w) then pure true else withinBy v rest

/-- The evaluator, but for the evaluation of the parts. -/
def Bound.execBy : Bound → Machine ο (Value ο)
  | .const value => pure value.toValue
  | .root => pure (.object root)
  | .param slot => .param slot
  | .get target member args => do
    let o ← .ofExcept (← next target).asObject
    Machine.ask o member (← eachBy next args)
  | .not operand => do return .bool !(← .ofExcept (← next operand).asBool)
  | .neg operand => do .ofExcept (← next operand).negate
  | .and operands => .bool <$> andBy next operands
  | .or operands => .bool <$> orBy next operands
  | .compare op lhs rhs => do
    let a ← next lhs
    let b ← next rhs
    return .bool (← .ofExcept (a.test op b))
  | .arith op lhs rhs => do
    let a ← next lhs
    let b ← next rhs
    .ofExcept (a.arith op b)
  | .within needle set => do
    let v ← next needle
    .bool <$> withinBy next v set
  | .quantify quantifier source body => do
    let values ← .ofExcept (← next source).asList
    quantifier.across (fun v => do .ofExcept (← Machine.withParam v (next body)).asBool) values
  | .has operand => .bool <$> (next operand).present
  | .builtin function args => do .ofExcept (function.apply (← eachBy next args))
  | .matching target pattern => do
    let s ← .ofExcept (← next target).asString
    return .bool (pattern.isMatch s)

end Calls

theorem eachBy_exec (root : ο) (es : List Bound) :
    eachBy (Bound.exec root) es = execEach root es := by
  induction es with
  | nil => rfl
  | cons e rest ih => rw [eachBy, execEach, ih]

theorem andBy_exec (root : ο) (es : List Bound) : andBy (Bound.exec root) es = execAnd root es := by
  induction es with
  | nil => rfl
  | cons e rest ih => rw [andBy, execAnd, ih]

theorem orBy_exec (root : ο) (es : List Bound) : orBy (Bound.exec root) es = execOr root es := by
  induction es with
  | nil => rfl
  | cons e rest ih => rw [orBy, execOr, ih]

theorem withinBy_exec (root : ο) (v : Value ο) (es : List Bound) :
    withinBy (Bound.exec root) v es = execWithin root v es := by
  induction es with
  | nil => rfl
  | cons e rest ih => rw [withinBy, execWithin, ih]

/-- The evaluator evaluates the parts by itself. -/
theorem Bound.execBy_exec (root : ο) (e : Bound) : e.execBy root (exec root) = e.exec root := by
  cases e with
  | get | builtin => rw [execBy, exec, eachBy_exec]
  | and => rw [execBy, exec, andBy_exec]
  | or => rw [execBy, exec, orBy_exec]
  | within => simp only [execBy, exec, withinBy_exec]
  | _ => rfl

section Congr

variable {next next' : Bound → Machine ο (Value ο)} {es : List Bound}

theorem eachBy_congr (h : ∀ e ∈ es, next e = next' e) : eachBy next es = eachBy next' es := by
  induction es with
  | nil => rfl
  | cons e rest ih =>
    obtain ⟨first, others⟩ := List.forall_mem_cons.mp h
    rw [eachBy, eachBy, first, ih others]

theorem andBy_congr (h : ∀ e ∈ es, next e = next' e) : andBy next es = andBy next' es := by
  induction es with
  | nil => rfl
  | cons e rest ih =>
    obtain ⟨first, others⟩ := List.forall_mem_cons.mp h
    rw [andBy, andBy, first, ih others]

theorem orBy_congr (h : ∀ e ∈ es, next e = next' e) : orBy next es = orBy next' es := by
  induction es with
  | nil => rfl
  | cons e rest ih =>
    obtain ⟨first, others⟩ := List.forall_mem_cons.mp h
    rw [orBy, orBy, first, ih others]

theorem withinBy_congr (h : ∀ e ∈ es, next e = next' e) (v : Value ο) :
    withinBy next v es = withinBy next' v es := by
  induction es with
  | nil => rfl
  | cons e rest ih =>
    obtain ⟨first, others⟩ := List.forall_mem_cons.mp h
    rw [withinBy, withinBy, first, ih others]

/-- A call of the evaluator calls it for expressions that are lower. -/
theorem Bound.execBy_congr (root : ο) {e : Bound}
    (h : ∀ part, part.depth < e.depth → next part = next' part) :
    e.execBy root next = e.execBy root next' := by
  have each (es : List Bound) (deep : greatestDepth es < e.depth) :
      ∀ part ∈ es, next part = next' part :=
    fun part mem => h part (Nat.lt_of_le_of_lt (depth_le_greatestDepth mem) deep)
  cases e with
  | const | root | param => rfl
  | get target member args =>
    have below := h target (by rw [depth]; omega)
    simp only [execBy, below, eachBy_congr (each args (by rw [depth]; omega))]
  | not target | neg target | has target | matching target =>
    have below := h target (by rw [depth]; omega)
    simp only [execBy, below]
  | and operands => simp only [execBy, andBy_congr (each operands (by rw [depth]; omega))]
  | or operands => simp only [execBy, orBy_congr (each operands (by rw [depth]; omega))]
  | compare op lhs rhs | arith op lhs rhs | quantify op lhs rhs =>
    have left := h lhs (by rw [depth]; omega)
    have right := h rhs (by rw [depth]; omega)
    simp only [execBy, left, right]
  | within needle set =>
    have below := h needle (by rw [depth]; omega)
    simp only [execBy, below, withinBy_congr (each set (by rw [depth]; omega))]
  | builtin function args => simp only [execBy, eachBy_congr (each args (by rw [depth]; omega))]

end Congr

/-- The evaluator with so many calls inside each other, and beyond these something else. -/
def Bound.execCalls (root : ο) (beyond : Bound → Machine ο (Value ο)) :
    Nat → Bound → Machine ο (Value ο)
  | 0 => beyond
  | calls + 1 => execBy root (execCalls root beyond calls)

/-- The evaluator makes no more calls inside each other than the expression has levels. -/
theorem Bound.execCalls_of_depth_le (root : ο) (beyond : Bound → Machine ο (Value ο)) {calls : Nat}
    {e : Bound} (enough : e.depth ≤ calls) : e.execCalls root beyond calls = e.exec root := by
  induction calls generalizing e with
  | zero => exact absurd e.depth_pos (Nat.not_lt.mpr enough)
  | succ calls ih =>
    rw [execCalls, ← e.execBy_exec]
    exact execBy_congr root fun part below => ih (by omega)

/-- However long a text is, what is parsed from it has a bounded number of levels, which are noted
at every node, and what it is resolved to has at most one more. So the binder and the evaluator make
a bounded number of calls inside each other. -/
theorem levels_of_parse [Patterns] {text : String} {e : Expr} (parsed : parse text = .ok e) :
    e.depth ≤ 128 ∧ (∀ node : Expr, node.IsIn e → node.height = node.depth) ∧
      (∀ beyond, e.bindCalls beyond 128 = e.bind) ∧
      ∀ catalog root predicate, compile catalog root text = .ok predicate →
        predicate.bound.depth ≤ e.depth + 1 ∧ predicate.bound.depth ≤ 129 ∧
          ∀ (ο : Type) (record : ο) (beyond : Bound → Machine ο (Value ο)),
            predicate.bound.execCalls record beyond 129 = predicate.bound.exec record := by
  obtain ⟨tree, -, fits, hasTree⟩ := hasTree_of_parse parsed
  have low : e.depth ≤ 128 := by
    rw [← hasTree.measured.height, hasTree.height]
    exact fits
  refine ⟨low, fun node isIn => (hasTree.measured.isIn isIn).height, fun beyond =>
    Expr.bindCalls_of_depth_le beyond low, fun catalog root predicate compiled => ?_⟩
  obtain ⟨e', parsed', resolved⟩ := resolves_of_compile compiled
  obtain rfl := Except.ok.inj (parsed.symm.trans parsed')
  have deep := resolved.depth_le
  have low' : predicate.bound.depth ≤ 129 := Nat.le_trans deep (Nat.add_le_add_right low 1)
  exact ⟨deep, low', fun ο record beyond => Bound.execCalls_of_depth_le record beyond low'⟩

/-- Four levels of a text may become five. -/
theorem Box.levels_of_parse_inner : ∃ e predicate, parse "inner.weights.len() > 0" = .ok e ∧
    compile catalog schema "inner.weights.len() > 0" = .ok predicate ∧ e.depth = 4 ∧
      predicate.bound.depth = 5 ∧ predicate.bound.depth ≤ e.depth + 1 := by
  obtain ⟨e, parsed⟩ := exists_eq_ok (x := parse "inner.weights.len() > 0") (by decide +kernel)
  obtain ⟨predicate, compiled⟩ := exists_eq_ok
    (x := compile catalog schema "inner.weights.len() > 0") (by decide +kernel)
  have levels : (parse "inner.weights.len() > 0").toOption.map Expr.depth = some 4 := by
    decide +kernel
  have levels' : (compile catalog schema "inner.weights.len() > 0").toOption.map
      (·.bound.depth) = some 5 := by
    decide +kernel
  rw [parsed] at levels
  rw [compiled] at levels'
  exact ⟨e, predicate, parsed, compiled, Option.some.inj levels, Option.some.inj levels',
    ((levels_of_parse parsed).2.2.2 _ _ _ compiled).1⟩

end RecordRules
