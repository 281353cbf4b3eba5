namespace RecordRules

/-- A compiled pattern. A rule asks it for nothing but whether it matches a string. -/
structure Pattern where
  isMatch : String → Bool

/-- The library of patterns that rules are compiled with, which is no part of the program: what a
text stands for, or why it is no pattern. What is proved of rules holds with any library. -/
class Patterns where
  compile : String → Except String Pattern

end RecordRules
