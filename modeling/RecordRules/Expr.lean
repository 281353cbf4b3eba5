import RecordRules.Operator

namespace RecordRules

/-- A range of bytes of a text, the last one excluded. -/
structure Span where
  start : Nat
  stop : Nat
deriving DecidableEq

/-- Where an expression stands in its text, and on how many levels. -/
structure Mark where
  span : Span
  height : Nat
deriving DecidableEq

inductive Literal where
  | bool (value : Bool)
  | int (value : Int64)
  | float (value : Float)
  | string (value : String)
deriving DecidableEq

/-- A rule as it is written, its names not yet resolved. -/
inductive Expr where
  | literal (mark : Mark) (value : Literal)
  | ident (mark : Mark) (name : String)
  | member (mark : Mark) (target : Expr) (name : String)
  | call (mark : Mark) (name : String) (args : List Expr)
  | method (mark : Mark) (target : Expr) (name : String) (args : List Expr)
  | lambda (mark : Mark) (param : String) (body : Expr)
  | not (mark : Mark) (operand : Expr)
  | neg (mark : Mark) (operand : Expr)
  | and (mark : Mark) (operands : List Expr)
  | or (mark : Mark) (operands : List Expr)
  | compare (mark : Mark) (op : CompareOp) (lhs rhs : Expr)
  | arith (mark : Mark) (op : ArithOp) (lhs rhs : Expr)
  | within (mark : Mark) (needle : Expr) (set : List Expr)

namespace Expr

def mark : Expr → Mark
  | literal mark _ | ident mark _ | member mark _ _ | call mark _ _ | method mark _ _ _
  | lambda mark _ _ | not mark _ | neg mark _ | and mark _ | or mark _ | compare mark _ _ _
  | arith mark _ _ _ | within mark _ _ => mark

def span (e : Expr) : Span :=
  e.mark.span

/-- The height noted at the expression. -/
def height (e : Expr) : Nat :=
  e.mark.height

/-- The direct parts of an expression, in the order of the text. -/
def parts : Expr → List Expr
  | literal _ _ | ident _ _ => []
  | member _ target _ => [target]
  | call _ _ args => args
  | method _ target _ args => target :: args
  | lambda _ _ body => [body]
  | not _ operand | neg _ operand => [operand]
  | and _ operands | or _ operands => operands
  | compare _ _ lhs rhs | arith _ _ lhs rhs => [lhs, rhs]
  | within _ needle set => needle :: set

end Expr

/-- The mark of an expression with these parts. -/
def Mark.over (span : Span) (parts : List Expr) : Mark :=
  ⟨span, 1 + (parts.map Expr.height).foldr max 0⟩

namespace Expr

mutual

/-- The number of expressions on the longest way from this one down to a leaf. -/
def depth : Expr → Nat
  | literal _ _ | ident _ _ => 1
  | member _ target _ => 1 + target.depth
  | call _ _ args => 1 + greatestDepth args
  | method _ target _ args => 1 + max target.depth (greatestDepth args)
  | lambda _ _ body => 1 + body.depth
  | not _ operand | neg _ operand => 1 + operand.depth
  | and _ operands | or _ operands => 1 + greatestDepth operands
  | compare _ _ lhs rhs | arith _ _ lhs rhs => 1 + max lhs.depth rhs.depth
  | within _ needle set => 1 + max needle.depth (greatestDepth set)

def greatestDepth : List Expr → Nat
  | [] => 0
  | e :: rest => max e.depth (greatestDepth rest)

end

end Expr

end RecordRules
