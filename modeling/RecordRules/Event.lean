import RecordRules.CompileError
import RecordRules.Fault
import RecordRules.Text.Blank

namespace RecordRules

inductive Level where
  | info
  | error
deriving DecidableEq

/-- What is reported of rule sets, or noted beside them. -/
inductive Event where
  /-- A rule that does not compile. -/
  | uncompiled (label : String) (line : Nat) (reason : CompileError) (raw : String)
  /-- The end of loading. -/
  | loaded (label : String) (rules failed : Nat)
  /-- The first rule that holds of a record. -/
  | matched (label : String) (line : Nat) (record raw : String)
  /-- A rule that has no answer on a record. -/
  | faulted (label : String) (line : Nat) (record : String) (reason : Fault) (raw source : String)
  | note (level : Level) (priority : Nat) (text : String)
deriving DecidableEq

namespace Event

def level : Event → Level
  | uncompiled .. | faulted .. => .error
  | loaded .. | matched .. => .info
  | note level .. => level

/-- Matches are traces of priority 0, summaries have 1 and failures 2. -/
def priority : Event → Nat
  | matched .. => 0
  | loaded .. => 1
  | uncompiled .. | faulted .. => 2
  | note _ priority _ => priority

def place (label : String) (line : Nat) : String :=
  label ++ ":" ++ toString line

def message : Event → String
  | uncompiled label line reason raw =>
    place label line ++ " rule failed to compile: " ++ reason.message ++ "\n  rule: " ++ raw
  | loaded label rules failed =>
    label ++ ": processed " ++ toString rules ++ " rules, " ++ toString failed ++ " failed"
  | matched label line record raw => place label line ++ " matched " ++ record ++ ": " ++ raw
  | faulted label line record reason raw source =>
    place label line ++ " evaluation failed for " ++ record ++ ": " ++ reason.message ++
      "\n  rule: " ++ raw ++ "\n  compiled from: " ++ String.ofList (Text.trimEnd source.toList)
  | note _ _ text => text

end Event

end RecordRules
