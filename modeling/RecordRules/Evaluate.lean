import RecordRules.Bound
import RecordRules.Machine
import RecordRules.Text.Letters
import RecordRules.Value.Operations

namespace RecordRules

variable {ο : Type}

def Literal.toValue : Literal → Value ο
  | bool v => .bool v
  | int v => .int v
  | float v => .float v
  | string v => .string v

def Builtin.apply (function : Builtin) (args : List (Value ο)) : Except Stop (Value ο) :=
  match args with
  | [] => .error (.fault (.record "builtin called without arguments"))
  | first :: others =>
    let second : Except Stop (Value ο) :=
      match others with
      | value :: _ => .ok value
      | [] => .error (.fault (.record "missing argument"))
    match function with
    | len => first.length
    | lower => do return .string (Text.lowercase (← first.asString))
    | upper => do return .string (Text.uppercase (← first.asString))
    | contains => do return .bool (← first.contains (← second))
    | startsWith => do return .bool (← first.startsWith (← second))
    | endsWith => do return .bool (← first.endsWith (← second))
    | abs => first.abs
    | min => do first.choose Min.min Number.least (← second)
    | max => do first.choose Max.max Number.greatest (← second)

namespace Quantifier

variable {m : Type → Type} [Monad m]

/-- The question is answered with yes for one of the values; none is asked after that. -/
def anyOf (ask : Value ο → m Bool) : List (Value ο) → m Bool
  | [] => pure false
  | v :: rest => do if ← ask v then pure true else anyOf ask rest

/-- The question is answered with yes for all of the values; none is asked after a no. -/
def allOf (ask : Value ο → m Bool) : List (Value ο) → m Bool
  | [] => pure true
  | v :: rest => do if ← ask v then allOf ask rest else pure false

/-- The number of values for which the answer is yes, beside those counted so far. -/
def countOf (ask : Value ο → m Bool) (counted : Nat) : List (Value ο) → m Nat
  | [] => pure counted
  | v :: rest => do countOf ask (if ← ask v then counted + 1 else counted) rest

/-- What the quantifier makes of the answers for the values. -/
def across (quantifier : Quantifier) (ask : Value ο → m Bool) (values : List (Value ο)) :
    m (Value ο) :=
  match quantifier with
  | any => .bool <$> anyOf ask values
  | all => .bool <$> allOf ask values
  | count => .ofCount <$> countOf ask 0 values

end Quantifier

mutual

/-- The value of a rule or of a part of it on the record `root`. -/
def Bound.exec (root : ο) : Bound → Machine ο (Value ο)
  | .const value => pure value.toValue
  | .root => pure (.object root)
  | .param slot => .param slot
  | .get target member args => do
    let o ← .ofExcept (← target.exec root).asObject
    Machine.ask o member (← execEach root args)
  | .not operand => do return .bool !(← .ofExcept (← operand.exec root).asBool)
  | .neg operand => do .ofExcept (← operand.exec root).negate
  | .and operands => .bool <$> execAnd root operands
  | .or operands => .bool <$> execOr root operands
  | .compare op lhs rhs => do
    let a ← lhs.exec root
    let b ← rhs.exec root
    return .bool (← .ofExcept (a.test op b))
  | .arith op lhs rhs => do
    let a ← lhs.exec root
    let b ← rhs.exec root
    .ofExcept (a.arith op b)
  | .within needle set => do
    let v ← needle.exec root
    .bool <$> execWithin root v set
  | .quantify quantifier source body => do
    let values ← .ofExcept (← source.exec root).asList
    quantifier.across (fun v => do .ofExcept (← Machine.withParam v (body.exec root)).asBool) values
  | .has operand => .bool <$> (operand.exec root).present
  | .builtin function args => do .ofExcept (function.apply (← execEach root args))
  | .matching target pattern => do
    let s ← .ofExcept (← target.exec root).asString
    return .bool (pattern.isMatch s)

def execEach (root : ο) : List Bound → Machine ο (List (Value ο))
  | [] => pure []
  | e :: rest => do
    let v ← e.exec root
    return v :: (← execEach root rest)

/-- Operands after the first that is false are not evaluated. -/
def execAnd (root : ο) : List Bound → Machine ο Bool
  | [] => pure true
  | e :: rest => do
    if ← .ofExcept (← e.exec root).asBool then execAnd root rest else pure false

/-- Operands after the first that is true are not evaluated. -/
def execOr (root : ο) : List Bound → Machine ο Bool
  | [] => pure false
  | e :: rest => do
    if ← .ofExcept (← e.exec root).asBool then pure true else execOr root rest

/-- Members of the set after the first that equals the value are not evaluated. -/
def execWithin (root : ο) (v : Value ο) : List Bound → Machine ο Bool
  | [] => pure false
  | e :: rest => do
    let w ← e.exec root
    if ← .ofExcept (v.test .eq w) then pure true else execWithin root v rest

end

/-- Whether the rule holds of the record. -/
def Predicate.test (predicate : Predicate) (record : ο) : Reading ο Bool :=
  Machine.start do .ofExcept (← predicate.bound.exec record).asBool

end RecordRules
