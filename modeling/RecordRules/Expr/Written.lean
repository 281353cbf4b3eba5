import RecordRules.Expr
import RecordRules.Number.Shortest
import RecordRules.Text.Quoted

namespace RecordRules

def Literal.written : Literal → List Char
  | bool value => (if value then "true" else "false").toList
  | int value => (toString value.toInt).toList
  | float value => (Number.FloatLayout.tagged.write value).toList
  | string value => Text.quoted value.toList

namespace Expr

mutual

/-- The text of an expression, with parentheses around every operation. -/
def written : Expr → List Char
  | literal _ value => value.written
  | ident _ name => name.toList
  | member _ target name => target.written ++ '.' :: name.toList
  | call _ name args => name.toList ++ '(' :: writtenList [',', ' '] args ++ [')']
  | method _ target name args =>
    target.written ++ '.' :: name.toList ++ '(' :: writtenList [',', ' '] args ++ [')']
  | lambda _ param body => param.toList ++ " => ".toList ++ body.written
  | not _ operand => "(NOT ".toList ++ operand.written ++ [')']
  | neg _ operand => "(-".toList ++ operand.written ++ [')']
  | and _ operands => '(' :: writtenList " AND ".toList operands ++ [')']
  | or _ operands => '(' :: writtenList " OR ".toList operands ++ [')']
  | compare _ op lhs rhs =>
    '(' :: lhs.written ++ ' ' :: op.symbol.toList ++ ' ' :: rhs.written ++ [')']
  | arith _ op lhs rhs =>
    '(' :: lhs.written ++ ' ' :: op.symbol.toList ++ ' ' :: rhs.written ++ [')']
  | within _ needle set =>
    '(' :: needle.written ++ " IN [".toList ++ writtenList [',', ' '] set ++ "])".toList

/-- The texts of the expressions with the separator between them. -/
def writtenList (separator : List Char) : List Expr → List Char
  | [] => []
  | e :: rest => e.written ++ writtenMore separator rest

def writtenMore (separator : List Char) : List Expr → List Char
  | [] => []
  | e :: rest => separator ++ e.written ++ writtenMore separator rest

end

def render (e : Expr) : String :=
  String.ofList e.written

end Expr

end RecordRules
