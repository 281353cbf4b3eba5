namespace RecordRules

inductive CompareOp where
  | eq
  | ne
  | gt
  | ge
  | lt
  | le
deriving DecidableEq

inductive ArithOp where
  | add
  | sub
  | mul
  | div
  | rem
deriving DecidableEq

inductive Quantifier where
  | any
  | all
  | count
deriving DecidableEq

namespace CompareOp

def symbol : CompareOp → String
  | eq => "=="
  | ne => "!="
  | gt => ">"
  | ge => ">="
  | lt => "<"
  | le => "<="

/-- The operator that holds of exchanged operands. -/
def converse : CompareOp → CompareOp
  | eq => eq
  | ne => ne
  | gt => lt
  | ge => le
  | lt => gt
  | le => ge

def isEquality : CompareOp → Bool
  | eq | ne => true
  | _ => false

/-- Operands without an order are unequal, and no ordering of them is defined. -/
def holds : CompareOp → Option Ordering → Option Bool
  | eq, order => some (order == some .eq)
  | ne, order => some (order != some .eq)
  | gt, order => order.map (· == .gt)
  | ge, order => order.map (· != .lt)
  | lt, order => order.map (· == .lt)
  | le, order => order.map (· != .gt)

end CompareOp

def ArithOp.symbol : ArithOp → String
  | add => "+"
  | sub => "-"
  | mul => "*"
  | div => "/"
  | rem => "%"

end RecordRules
