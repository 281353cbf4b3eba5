import RecordRules.Fault
import RecordRules.Value

namespace RecordRules.Value

variable {ο : Type}

def unexpected {α : Type} (expected : String) (found : Value ο) : Except Stop α :=
  .error (.fault (.unexpectedValue expected found.kind))

def asBool : Value ο → Except Stop Bool
  | bool b => .ok b
  | v => v.unexpected "bool"

def asString : Value ο → Except Stop String
  | string s => .ok s
  | v => v.unexpected "string"

def asObject : Value ο → Except Stop ο
  | object o => .ok o
  | v => v.unexpected "object"

def asList : Value ο → Except Stop (List (Value ο))
  | list vs => .ok vs
  | v => v.unexpected "list"

def asNumber (v : Value ο) : Except Stop Float :=
  match v.asFloat? with
  | some x => .ok x
  | none => v.unexpected "number"

/-- An exact integer, which has to fit. -/
def ofInt (n : Int) : Except Stop (Value ο) :=
  match Number.int64? n with
  | some v => .ok (int v)
  | none => .error (.fault .overflow)

def isComposite : Value ο → Bool
  | object _ | list _ => true
  | _ => false

/-- Compare two scalars; where the operator is not defined it does not hold. -/
def test (op : CompareOp) (a b : Value ο) : Except Stop Bool :=
  if a.isComposite then a.unexpected "scalar"
  else if b.isComposite then b.unexpected "scalar"
  else .ok ((a.compare? op b).getD false)

def negate : Value ο → Except Stop (Value ο)
  | int n => ofInt (-n.toInt)
  | float x => .ok (float (-x))
  | v => v.unexpected "number"

/-- Division is truncated toward zero. The smallest integer has no remainder by -1, as it has no
quotient. -/
def arithInt (op : ArithOp) (a b : Int) : Except Stop (Value ο) :=
  match op with
  | .add => ofInt (a + b)
  | .sub => ofInt (a - b)
  | .mul => ofInt (a * b)
  | .div => if b = 0 then .error (.fault .divisionByZero) else ofInt (a.tdiv b)
  | .rem =>
    if b = 0 then .error (.fault .divisionByZero)
    else if (Number.int64? (a.tdiv b)).isNone then .error (.fault .overflow)
    else ofInt (a.tmod b)

def arithFloat (op : ArithOp) (x y : Float) : Float :=
  match op with
  | .add => x + y
  | .sub => x - y
  | .mul => x * y
  | .div => x / y
  | .rem => Number.remainder x y

def arith (op : ArithOp) : Value ο → Value ο → Except Stop (Value ο)
  | int a, int b => arithInt op a.toInt b.toInt
  | a, b => do
    let x ← a.asNumber
    let y ← b.asNumber
    return float (arithFloat op x y)

/-- A count; one too large for an integer stays at the largest. -/
def ofCount (count : Nat) : Value ο :=
  int ((Number.int64? count).getD Int64.maxValue)

def length : Value ο → Except Stop (Value ο)
  | string s => .ok (ofCount s.length)
  | list vs => .ok (ofCount vs.length)
  | v => v.unexpected "string or list"

/-- One of the values is equal to the needle. -/
def member (needle : Value ο) : List (Value ο) → Except Stop Bool
  | [] => .ok false
  | v :: rest => do if ← test .eq v needle then return true else member needle rest

def contains (v needle : Value ο) : Except Stop Bool :=
  match v with
  | string s => do return s.contains (← needle.asString)
  | list vs => member needle vs
  | v => v.unexpected "string or list"

def abs : Value ο → Except Stop (Value ο)
  | int n => ofInt n.toInt.natAbs
  | float x => .ok (float x.abs)
  | v => v.unexpected "number"

def startsWith (v other : Value ο) : Except Stop Bool := do
  let s ← v.asString
  return decide ((← other.asString).toList <+: s.toList)

def endsWith (v other : Value ο) : Except Stop Bool := do
  let s ← v.asString
  return decide ((← other.asString).toList <:+ s.toList)

/-- The one of two numbers that is chosen, among integers or among floats. -/
def choose (ints : Int → Int → Int) (floats : Float → Float → Float) :
    Value ο → Value ο → Except Stop (Value ο)
  | int a, int b => ofInt (ints a.toInt b.toInt)
  | a, b => do
    let x ← a.asNumber
    let y ← b.asNumber
    return float (floats x y)

end RecordRules.Value
