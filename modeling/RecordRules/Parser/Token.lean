import RecordRules.Number.Int64Range
import RecordRules.Parser.Basic
import RecordRules.Text.Blank

namespace RecordRules.Parser

def space : Parser Unit := do
  let _ ← takeWhile Text.isBlank

def isIdentifierStart (c : Char) : Bool :=
  c.isAlpha || c == '_'

def isIdentifierPart (c : Char) : Bool :=
  c.isAlphanum || c == '_'

def identifier : Parser String := do
  let first ← satisfy isIdentifierStart
  let others ← takeWhile isIdentifierPart
  pure (String.ofList (first :: others))

/-- The words that name no member. -/
def reserved : List String :=
  ["and", "AND", "or", "OR", "not", "NOT", "in", "IN"]

/-- The word, where no longer identifier begins with it. -/
def keyword (cs : List Char) : Parser Unit := do
  word cs
  notFollowedBy isIdentifierPart

/-- What a backslash and this character stand for in a string. -/
def unescaped : Char → List Char
  | '"' => ['"']
  | '\\' => ['\\']
  | 'n' => ['\n']
  | 't' => ['\t']
  | c => ['\\', c]

/-- One character of a string, or an escape. -/
def stringPiece : Parser (List Char) := fun cursor =>
  match cursor.rest with
  | [] => .cut [.character '"'] cursor
  | '"' :: _ => .backtrack [] cursor
  | ['\\'] => .cut [] { cursor with rest := [], offset := cursor.offset + 1 }
  | '\\' :: c :: rest =>
    .ok (unescaped c) { cursor with rest, offset := cursor.offset + 1 + c.utf8Size }
  | c :: rest => .ok [c] { cursor with rest, offset := cursor.offset + c.utf8Size }

def stringLiteral : Parser String := do
  character '"'
  let pieces ← many stringPiece
  character '"'
  pure (String.ofList pieces.flatten)

/-- The number that decimal digits denote. -/
def digitsValue (digits : List Char) : Nat :=
  digits.foldl (fun value c => value * 10 + (c.toNat - '0'.toNat)) 0

/-- An integer, which has to fit. -/
def fitting : Option Int64 → Parser Literal
  | some value => pure (.int value)
  | none => cut fail

/-- The literal with these digits before the point, and after it if there is one. -/
def numeral (whole : List Char) : Option (List Char) → Parser Literal
  | some fraction =>
    pure (.float (Float.ofScientific (digitsValue (whole ++ fraction)) true fraction.length))
  | none => fitting (Number.int64? (digitsValue whole))

def number : Parser Literal := do
  let whole ← takeWhile1 Char.isDigit
  numeral whole (← opt (do character '.'; takeWhile1 Char.isDigit))

def compareOp : Parser CompareOp :=
  orElse (do word ['>', '=']; pure .ge) <|
  orElse (do word ['>']; pure .gt) <|
  orElse (do word ['<', '=']; pure .le) <|
  orElse (do word ['<']; pure .lt) <|
  orElse (do word ['=', '=']; pure .eq) <|
  (do word ['!', '=']; pure .ne)

def additiveOp : Parser ArithOp :=
  orElse (do character '+'; pure .add) (do character '-'; pure .sub)

def multiplicativeOp : Parser ArithOp :=
  orElse (do character '*'; pure .mul) <|
  orElse (do character '/'; pure .div) <|
  (do character '%'; pure .rem)

end RecordRules.Parser
