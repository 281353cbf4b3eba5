import RecordRules.Expr
import RecordRules.Pattern
import RecordRules.Schema

namespace RecordRules

inductive Builtin where
  | len
  | lower
  | upper
  | contains
  | startsWith
  | endsWith
  | abs
  | min
  | max
deriving DecidableEq

/-- A rule with its names resolved to members of records and to parameters, which are numbered
from the outermost one. -/
inductive Bound where
  | const (value : Literal)
  | root
  | param (slot : Nat)
  | get (target : Bound) (member : MemberId) (args : List Bound)
  | not (operand : Bound)
  | neg (operand : Bound)
  | and (operands : List Bound)
  | or (operands : List Bound)
  | compare (op : CompareOp) (lhs rhs : Bound)
  | arith (op : ArithOp) (lhs rhs : Bound)
  | within (needle : Bound) (set : List Bound)
  | quantify (quantifier : Quantifier) (source body : Bound)
  | has (operand : Bound)
  | builtin (function : Builtin) (args : List Bound)
  | matching (target : Bound) (pattern : Pattern)

/-- A rule that can be put to records of the schema it was compiled against. -/
structure Predicate where
  bound : Bound

end RecordRules
