import RecordRules.Pattern
import RecordRules.Regex.Pattern

namespace RecordRules.Regex

/-- The library that programs run with. It does not say what is wrong with a text, it goes by an
estimate of the size of an expression, and of the classes of characters it has those by category, by
script and by the properties that have a name here. -/
instance library : Patterns where
  compile text :=
    match ofPattern? text with
    | some r => .ok ⟨fun s => r.isMatch s.toList⟩
    | none => .error "malformed pattern"

end RecordRules.Regex
