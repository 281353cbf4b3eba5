import RecordRules.Parser.Grammar

namespace RecordRules

def Expectation.text : Expectation → String
  | character c => "`" ++ String.singleton c ++ "`"
  | expression => "expression"
  | value => "value"
  | arguments => "arguments"
  | lambdaBody => "lambda body"
  | memberName => "member name"
  | listOfValues => "list like [a, b]"
  | endOfRule => "operator or end of rule"
  | lessNesting => "at most 64 levels of nesting"
  | lessHeight => "a shallower expression (at most 128 levels)"

/-- What the text of a rule should have gone on with, and the bytes before that place. -/
structure ParseError where
  expected : List Expectation
  offset : Nat
deriving DecidableEq

def ParseError.message (e : ParseError) : String :=
  if e.expected.isEmpty then "unexpected input"
  else "expected " ++ ", ".intercalate (e.expected.map Expectation.text)

def ParseError.render (e : ParseError) : String :=
  "parse error at offset " ++ toString e.offset ++ ": " ++ e.message

/-- The expression that the whole text is. -/
def parse (text : String) : Except ParseError Expr :=
  match Parser.rule ⟨text.toList, 0, 0⟩ with
  | .ok e _ => .ok e
  | .backtrack expected cursor | .cut expected cursor => .error ⟨expected, cursor.offset⟩

end RecordRules
