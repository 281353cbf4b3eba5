namespace RecordRules

/-- How a record fared with a rule set. -/
structure Report where
  /-- The line of the first rule that holds. -/
  line : Option Nat
  /-- The number of rules that were evaluated. -/
  evaluated : Nat
  /-- The lines of the rules that had no answer. -/
  failures : List Nat
deriving DecidableEq

namespace Report

def matched (report : Report) : Bool :=
  report.line.isSome

def render (report : Report) : String :=
  let found :=
    match report.line with
    | some line => "line " ++ toString line
    | none => "none"
  let failed :=
    if report.failures.isEmpty then ""
    else ", failed: [" ++ ", ".intercalate (report.failures.map toString) ++ "]"
  "matched: " ++ found ++ ", evaluated: " ++ toString report.evaluated ++ failed

end Report

end RecordRules
