namespace RecordRules

/-- Why a rule has no answer on a record. -/
inductive Fault where
  | absent (member : String)
  | divisionByZero
  | overflow
  | unexpectedValue (expected found : String)
  | record (message : String)
  | panicked (message : String)
deriving DecidableEq

def Fault.message : Fault → String
  | absent member => "'" ++ member ++ "' is absent on this record"
  | divisionByZero => "division by zero"
  | overflow => "integer overflow"
  | unexpectedValue expected found =>
    "unexpected " ++ found ++ " value where " ++ expected ++ " was required"
  | record message => "record error: " ++ message
  | panicked message => "rule panicked: " ++ message

/-- What breaks off an evaluation: a fault, or a panic, whose payload may be no text. -/
inductive Stop where
  | fault (reason : Fault)
  | panic (payload : Option String)
deriving DecidableEq

/-- The fault that a panic turns into where it is caught. -/
def Stop.caught : Stop → Fault
  | fault reason => reason
  | panic payload => .panicked (payload.getD "unknown panic")

end RecordRules
