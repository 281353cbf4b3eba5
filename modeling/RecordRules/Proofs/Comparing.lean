import RecordRules.Binder
import RecordRules.Proofs.Evaluation

namespace RecordRules

variable {ο : Type} (test : CompareOp → Value ο → Value ο → Except Stop Bool)

/-- One of the values is equal to the needle, as `test` compares them. -/
def Value.memberBy (needle : Value ο) : List (Value ο) → Except Stop Bool
  | [] => .ok false
  | v :: rest => do if ← test .eq v needle then return true else memberBy needle rest

def Builtin.applyBy (function : Builtin) (args : List (Value ο)) : Except Stop (Value ο) :=
  match function, args with
  | .contains, .list vs :: needle :: _ => do return .bool (← Value.memberBy test needle vs)
  | function, args => function.apply args

mutual

/-- The value of a rule or of a part of it on the record `root`, where `test` compares values. -/
def Bound.evalBy (root : ο) : Bound → List (Value ο) → Reading ο (Value ο)
  | .const value, _ => pure value.toValue
  | .root, _ => pure (.object root)
  | .param slot, params => paramValue slot params
  | .get target member args, params => do
    let o ← .ofExcept (← target.evalBy root params).asObject
    Reading.get o member (← evalEachBy root args params)
  | .not operand, params => do
    return .bool !(← .ofExcept (← operand.evalBy root params).asBool)
  | .neg operand, params => do .ofExcept (← operand.evalBy root params).negate
  | .and operands, params => .bool <$> evalAndBy root operands params
  | .or operands, params => .bool <$> evalOrBy root operands params
  | .compare op lhs rhs, params => do
    let a ← lhs.evalBy root params
    let b ← rhs.evalBy root params
    return .bool (← .ofExcept (test op a b))
  | .arith op lhs rhs, params => do
    let a ← lhs.evalBy root params
    let b ← rhs.evalBy root params
    .ofExcept (a.arith op b)
  | .within needle set, params => do
    let v ← needle.evalBy root params
    .bool <$> evalWithinBy root v set params
  | .quantify quantifier source body, params => do
    let values ← .ofExcept (← source.evalBy root params).asList
    quantifier.across (fun v => do .ofExcept (← body.evalBy root (v :: params)).asBool) values
  | .has operand, params => .bool <$> (operand.evalBy root params).present
  | .builtin function args, params => do
    .ofExcept (function.applyBy test (← evalEachBy root args params))
  | .matching target pattern, params => do
    let s ← .ofExcept (← target.evalBy root params).asString
    return .bool (pattern.isMatch s)

def evalEachBy (root : ο) : List Bound → List (Value ο) → Reading ο (List (Value ο))
  | [], _ => pure []
  | e :: rest, params => do
    let v ← e.evalBy root params
    return v :: (← evalEachBy root rest params)

def evalAndBy (root : ο) : List Bound → List (Value ο) → Reading ο Bool
  | [], _ => pure true
  | e :: rest, params => do
    if ← .ofExcept (← e.evalBy root params).asBool then evalAndBy root rest params else pure false

def evalOrBy (root : ο) : List Bound → List (Value ο) → Reading ο Bool
  | [], _ => pure false
  | e :: rest, params => do
    if ← .ofExcept (← e.evalBy root params).asBool then pure true else evalOrBy root rest params

def evalWithinBy (root : ο) (v : Value ο) : List Bound → List (Value ο) → Reading ο Bool
  | [], _ => pure false
  | e :: rest, params => do
    let w ← e.evalBy root params
    if ← .ofExcept (test .eq v w) then pure true else evalWithinBy root v rest params

end

/-- Whether the rule holds of the record, where `test` compares values. -/
def Predicate.testBy (predicate : Predicate) (record : ο) : Reading ο Bool := do
  .ofExcept (← predicate.bound.evalBy test record []).asBool

theorem Value.memberBy_test (needle : Value ο) (vs : List (Value ο)) :
    memberBy Value.test needle vs = member needle vs := by
  induction vs with
  | nil => rfl
  | cons v rest ih => simp only [memberBy, member, ih]

theorem Builtin.applyBy_test (function : Builtin) (args : List (Value ο)) :
    function.applyBy Value.test args = function.apply args := by
  unfold applyBy
  split
  next vs needle rest => rw [Value.memberBy_test]; rfl
  next => rfl

section

variable {root : ο} {es : List Bound}

theorem evalEachBy_test (h : ∀ e ∈ es, e.evalBy Value.test root = e.eval root)
    (params : List (Value ο)) : evalEachBy Value.test root es params = evalEach root es params := by
  induction es with
  | nil => rfl
  | cons e rest ih =>
    obtain ⟨he, hrest⟩ := List.forall_mem_cons.mp h
    simp only [evalEachBy, evalEach, he, ih hrest]

theorem evalAndBy_test (h : ∀ e ∈ es, e.evalBy Value.test root = e.eval root)
    (params : List (Value ο)) : evalAndBy Value.test root es params = evalAnd root es params := by
  induction es with
  | nil => rfl
  | cons e rest ih =>
    obtain ⟨he, hrest⟩ := List.forall_mem_cons.mp h
    simp only [evalAndBy, evalAnd, he, ih hrest]

theorem evalOrBy_test (h : ∀ e ∈ es, e.evalBy Value.test root = e.eval root)
    (params : List (Value ο)) : evalOrBy Value.test root es params = evalOr root es params := by
  induction es with
  | nil => rfl
  | cons e rest ih =>
    obtain ⟨he, hrest⟩ := List.forall_mem_cons.mp h
    simp only [evalOrBy, evalOr, he, ih hrest]

theorem evalWithinBy_test (h : ∀ e ∈ es, e.evalBy Value.test root = e.eval root) (v : Value ο)
    (params : List (Value ο)) :
    evalWithinBy Value.test root v es params = evalWithin root v es params := by
  induction es with
  | nil => rfl
  | cons e rest ih =>
    obtain ⟨he, hrest⟩ := List.forall_mem_cons.mp h
    simp only [evalWithinBy, evalWithin, he, ih hrest]

end

/-- Evaluation compares values by `Value.test`. -/
theorem Bound.evalBy_test (root : ο) (e : Bound) : e.evalBy Value.test root = e.eval root := by
  induction e using Bound.ind with
  | const | root | param => rfl
  | get target member args ih ihs =>
    funext params
    simp only [evalBy, eval, ih, evalEachBy_test ihs]
  | not operand ih | neg operand ih | has operand ih | matching operand pattern ih =>
    funext params
    simp only [evalBy, eval, ih]
  | and operands ih =>
    funext params
    simp only [evalBy, eval, evalAndBy_test ih]
  | or operands ih =>
    funext params
    simp only [evalBy, eval, evalOrBy_test ih]
  | compare op lhs rhs ihl ihr | arith op lhs rhs ihl ihr =>
    funext params
    simp only [evalBy, eval, ihl, ihr]
  | within needle set ih ihs =>
    funext params
    simp only [evalBy, eval, ih, evalWithinBy_test ihs]
  | quantify quantifier source body ihs ihb =>
    funext params
    simp only [evalBy, eval, ihs, ihb]
  | builtin function args ih =>
    funext params
    simp only [evalBy, eval, evalEachBy_test ih, Builtin.applyBy_test]

section

variable (root : ο) (e : Bound) (params : List (Value ο))

/-- A number written in the rule may be negated before evaluation. -/
theorem Bound.evalBy_negated :
    e.negated.evalBy test root params = (neg e).evalBy test root params := by
  unfold negated
  split
  next v =>
    have negation : (neg (const (.int v))).evalBy test root params =
        (.ofExcept (Value.ofInt (-v.toInt)) : Reading ο (Value ο)) := rfl
    split
    next opposite h =>
      rw [negation, Value.ofInt, h]
      rfl
    next => rfl
  next => rfl
  next => rfl

theorem Bound.eval_negated : e.negated.eval root params = (neg e).eval root params := by
  rw [← evalBy_test, ← evalBy_test, evalBy_negated]

end

end RecordRules
