import RecordRules.Unicode.Property

namespace RecordRules.Text

/-- How a character stands in quoted text: by a short escape, by its number if it cannot be seen
or would join the character before it, and else by itself. -/
def escaped (c : Char) : List Char :=
  if c = '\x00' then ['\\', '0']
  else if c = '\t' then ['\\', 't']
  else if c = '\r' then ['\\', 'r']
  else if c = '\n' then ['\\', 'n']
  else if c = '\\' then ['\\', '\\']
  else if c = '"' then ['\\', '"']
  else if 0x20 ≤ c.toNat && c.toNat < 0x7F then [c]
  else if Unicode.graphemeExtend.contains c || !Unicode.isPrintable c then
    ['\\', 'u', '\x7b'] ++ Nat.toDigits 16 c.toNat ++ ['\x7d']
  else [c]

/-- The text between quotes, on one line and with every character visible. -/
def quoted (cs : List Char) : List Char :=
  '"' :: cs.flatMap escaped ++ ['"']

end RecordRules.Text
