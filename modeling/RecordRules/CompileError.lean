import RecordRules.Parse

namespace RecordRules

/-- Why a text is no expression. -/
inductive Malformation where
  | unexpected (expected : List Expectation)
  | strayLambda
deriving DecidableEq

def Malformation.message : Malformation → String
  | unexpected expected => ParseError.message ⟨expected, 0⟩
  | strayLambda => "a lambda is only allowed as the argument of any, all or count"

/-- Why a text is no rule. -/
inductive CompileFault where
  | malformed (cause : Malformation)
  | empty
  | unknownIdentifier (name : String)
  | unknownMember (owner name : String)
  | unknownFunction (name : String)
  | notCallable (name : String)
  | missingCall (name : String)
  | argumentCount (name : String) (expected found : Nat)
  | typeMismatch (context expected found : String)
  | notBoolean (found : String)
  | expectedLambda (name : String)
  | invalidPattern (reason : String)
deriving DecidableEq

def CompileFault.message : CompileFault → String
  | malformed cause => "syntax error: " ++ cause.message
  | empty => "empty rule"
  | unknownIdentifier name => "unknown identifier '" ++ name ++ "'"
  | unknownMember owner name => "'" ++ owner ++ "' has no member '" ++ name ++ "'"
  | unknownFunction name => "unknown function '" ++ name ++ "'"
  | notCallable name => "'" ++ name ++ "' is not callable"
  | missingCall name => "'" ++ name ++ "' is a method and must be called"
  | argumentCount name expected found =>
    "'" ++ name ++ "' expects " ++ toString expected ++ " argument(s), found " ++ toString found
  | typeMismatch context expected found =>
    "type mismatch in " ++ context ++ ": expected " ++ expected ++ ", found " ++ found
  | notBoolean found => "rule must be a boolean expression, found " ++ found
  | expectedLambda name => "'" ++ name ++ "' needs a lambda argument like `x => ...`"
  | invalidPattern reason => "invalid regular expression: " ++ reason

/-- A text that is no rule, and the bytes before the place where that shows, if there is one. -/
structure CompileError where
  fault : CompileFault
  offset : Option Nat
  text : String
deriving DecidableEq

def CompileError.message (e : CompileError) : String :=
  e.fault.message ++
    match e.offset with
    | some offset => " at offset " ++ toString offset
    | none => ""

end RecordRules
