import RecordRules.Number.Binary64
import RecordRules.Number.Int64Range
import RecordRules.Operator

namespace RecordRules

/-- A value of a rule, where `ο` is the type of the records it may refer to. -/
inductive Value (ο : Type) where
  | bool (value : Bool)
  | int (value : Int64)
  | float (value : Float)
  | string (value : String)
  | object (value : ο)
  | list (values : List (Value ο))

namespace Value

variable {ο : Type}

/-- The name of the kind of value in messages. -/
def kind : Value ο → String
  | bool _ => "bool"
  | int _ => "int"
  | float _ => "float"
  | string _ => "string"
  | object _ => "object"
  | list _ => "list"

/-- The number, as a float. -/
def asFloat? : Value ο → Option Float
  | int n => some (Number.float64 n)
  | float x => some x
  | _ => none

def asString? : Value ο → Option String
  | string s => some s
  | _ => none

/-- Two numbers or two strings, which an ordering may relate. -/
def orderable : Value ο → Value ο → Bool
  | int _, int _ | int _, float _ | float _, int _ | float _, float _ | string _, string _ => true
  | _, _ => false

/-- Integers are ordered exactly and rounded to floats only beside a float; strings are ordered by
code points. -/
def order? : Value ο → Value ο → Option Ordering
  | int a, int b => some (compare a.toInt b.toInt)
  | float a, float b => Number.order? a b
  | int a, float b => Number.order? (Number.float64 a) b
  | float a, int b => Number.order? a (Number.float64 b)
  | string a, string b => some (compare a b)
  | _, _ => none

/-- Whether the operator holds of two values, if it is defined on them. -/
def compare? (op : CompareOp) : Value ο → Value ο → Option Bool
  | bool a, bool b =>
    match op with
    | .eq => some (a == b)
    | .ne => some (a != b)
    | _ => none
  | a, b => if a.orderable b then op.holds (a.order? b) else none

mutual

/-- Equality of values of the same kind, with records told apart by `same`. -/
def equals (same : ο → ο → Bool) : Value ο → Value ο → Bool
  | bool a, bool b => a == b
  | int a, int b => a == b
  | float a, float b => a == b
  | string a, string b => a == b
  | object a, object b => same a b
  | list as, list bs => equalsEach same as bs
  | _, _ => false

def equalsEach (same : ο → ο → Bool) : List (Value ο) → List (Value ο) → Bool
  | [], [] => true
  | a :: as, b :: bs => equals same a b && equalsEach same as bs
  | _, _ => false

end

end Value

end RecordRules
