import RecordRules.Journal
import RecordRules.Report
import RecordRules.Rule

namespace RecordRules

/-- Rules in the order in which they are tried, the name of their source, and the place for the
events about them. -/
structure RuleSet where
  label : String
  rules : List Rule
  sink : Option SinkId

/-- A record with its name in messages. -/
structure Subject (ο : Type) where
  record : ο
  label : String

/-- A computation that asks records, and notes events on the way. -/
abbrev Noting (ο α : Type) : Type :=
  StateT (List Event) (Reading ο) α

variable {ο α : Type}

namespace Noting

def note (event : Event) : Noting ο Unit :=
  modify (· ++ [event])

/-- The result with the events that were noted, which have their place at the sink. -/
def reported (sink : Option SinkId) (x : Noting ο α) : Reading ο (Reported α) := do
  let (value, events) ← x.run []
  return ⟨value, sink, events⟩

end Noting

namespace RuleSet

def size (rules : RuleSet) : Nat :=
  rules.rules.length

def isEmpty (rules : RuleSet) : Bool :=
  rules.rules.isEmpty

def failedCount (rules : RuleSet) : Nat :=
  rules.rules.countP (·.failed)

def render (rules : RuleSet) : String :=
  "RuleSet(" ++ rules.label ++ ": " ++ toString rules.size ++ " rules, " ++
    toString rules.failedCount ++ " failed)"

/-- Try a rule on the record. Every fault is an event, a match only on demand. -/
def attempt (rules : RuleSet) (subject : Subject ο) (debug : Bool) (rule : Rule) :
    Noting ο Outcome := do
  let outcome ← rule.outcome subject.record
  match outcome with
  | .inert | .miss => pure ()
  | .hit =>
    if debug then Noting.note (.matched rules.label rule.line subject.label rule.raw)
  | .fault reason =>
    Noting.note (.faulted rules.label rule.line subject.label reason rule.raw rule.source)
  return outcome

/-- Whether the rule holds of the record. -/
def hits (rules : RuleSet) (subject : Subject ο) (debug : Bool) (rule : Rule) :
    Noting ο Bool := do
  return (← rules.attempt subject debug rule) = .hit

/-- The first rule that holds of the record. -/
def findMatch (rules : RuleSet) (subject : Subject ο) (debug : Bool) :
    Reading ο (Reported (Option Rule)) :=
  Noting.reported rules.sink (rules.rules.findM? (rules.hits subject debug))

/-- Whether one of the rules holds of the record. -/
def holds (rules : RuleSet) (subject : Subject ο) (debug : Bool) : Reading ο (Reported Bool) := do
  let found ← rules.findMatch subject debug
  return { found with value := found.value.isSome }

/-- Go on with one rule more, or end with the one that holds. -/
def count (rules : RuleSet) (subject : Subject ο) (rule : Rule) (report : Report) :
    Noting ο (ForInStep Report) := do
  match ← rules.attempt subject false rule with
  | .inert => return .yield report
  | .miss => return .yield { report with evaluated := report.evaluated + 1 }
  | .fault _ =>
    return .yield { report with
      evaluated := report.evaluated + 1, failures := report.failures ++ [rule.line] }
  | .hit =>
    return .done { report with evaluated := report.evaluated + 1, line := some rule.line }

/-- How the record fares with the rules up to the first that holds of it. -/
def report (rules : RuleSet) (subject : Subject ο) : Reading ο (Reported Report) :=
  Noting.reported rules.sink (forIn rules.rules ⟨none, 0, []⟩ (rules.count subject))

/-- Whether that one rule holds of the record. -/
def evaluate (rules : RuleSet) (rule : Rule) (subject : Subject ο) (debug : Bool) :
    Reading ο (Reported Bool) :=
  Noting.reported rules.sink (rules.hits subject debug rule)

end RuleSet

end RecordRules
