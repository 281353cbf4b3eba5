import RecordRules.Number.Shortest
import RecordRules.Text.Quoted
import RecordRules.Value

namespace RecordRules.Value

variable {ο : Type}

mutual

/-- The text of a value for readers. Strings stand between quotes as they are, records by their
label. -/
def render (label : ο → String) : Value ο → String
  | bool b => if b then "true" else "false"
  | int n => toString n.toInt
  | float x => Number.FloatLayout.plain.write x
  | string s => "\"" ++ s ++ "\""
  | object o => "<" ++ label o ++ ">"
  | list vs => "[" ++ ", ".intercalate (renderEach label vs) ++ "]"

def renderEach (label : ο → String) : List (Value ο) → List String
  | [] => []
  | v :: rest => render label v :: renderEach label rest

end

mutual

/-- The text of a value that also names its kind. -/
def describe (label : ο → String) : Value ο → String
  | bool b => "Bool(" ++ (if b then "true" else "false") ++ ")"
  | int n => "Int(" ++ toString n.toInt ++ ")"
  | float x => "Float(" ++ Number.FloatLayout.plain.write x ++ ")"
  | string s => "Str(" ++ String.ofList (Text.quoted s.toList) ++ ")"
  | object o => "Object(" ++ label o ++ ")"
  | list vs => "List([" ++ ", ".intercalate (describeEach label vs) ++ "])"

def describeEach (label : ο → String) : List (Value ο) → List String
  | [] => []
  | v :: rest => describe label v :: describeEach label rest

end

end RecordRules.Value
