import RecordRules.Compile
import RecordRules.Evaluate

namespace RecordRules

/-- A rule of a source. One that does not compile is kept with the reason. -/
structure Rule where
  /-- The text that was compiled. -/
  source : String
  /-- The text as written. -/
  raw : String
  line : Nat
  compiled : Except CompileError Predicate

/-- What may come of a rule on a record. -/
inductive Outcome where
  /-- The rule does not compile. -/
  | inert
  | miss
  | hit
  | fault (reason : Fault)
deriving DecidableEq

namespace Rule

def compile [Patterns] (catalog : Catalog) (root : Schema) (source raw : String) (line : Nat) :
    Rule :=
  ⟨source, raw, line, RecordRules.compile catalog root source⟩

def error? (rule : Rule) : Option CompileError :=
  match rule.compiled with
  | .ok _ => none
  | .error reason => some reason

def predicate? (rule : Rule) : Option Predicate :=
  rule.compiled.toOption

def failed (rule : Rule) : Bool :=
  rule.error?.isSome

variable {ο : Type}

/-- Whether the rule holds of the record. A rule that does not compile holds of none, and asks
nothing. -/
def evaluate (rule : Rule) (record : ο) : Reading ο (Except Fault Bool) :=
  match rule.compiled with
  | .ok predicate => (predicate.test record).guarded
  | .error _ => pure (.ok false)

/-- What comes of the rule on the record. -/
def outcome (rule : Rule) (record : ο) : Reading ο Outcome := do
  match rule.predicate? with
  | none => return .inert
  | some predicate =>
    match ← (predicate.test record).guarded with
    | .ok true => return .hit
    | .ok false => return .miss
    | .error reason => return .fault reason

end Rule

end RecordRules
