import RecordRules.Expr

namespace RecordRules

/-- Where a parser stands: what is left of the text, the bytes before it, and the number of nested
parts that are open. -/
structure Cursor where
  rest : List Char
  offset : Nat
  nesting : Nat
deriving DecidableEq

/-- What a parser would have accepted where it failed. -/
inductive Expectation where
  | character (c : Char)
  | expression
  | value
  | arguments
  | lambdaBody
  | memberName
  | listOfValues
  | endOfRule
  | lessNesting
  | lessHeight
deriving DecidableEq

/-- What a parser answers, and where it stands then. After a cut no alternative is tried. -/
inductive Reply (α : Type) where
  | ok (value : α) (cursor : Cursor)
  | backtrack (expected : List Expectation) (cursor : Cursor)
  | cut (expected : List Expectation) (cursor : Cursor)

def Reply.bind {α β : Type} : Reply α → (α → Cursor → Reply β) → Reply β
  | ok value cursor, f => f value cursor
  | backtrack expected cursor, _ => backtrack expected cursor
  | cut expected cursor, _ => cut expected cursor

/-- The same reply from another place. -/
def Reply.moved {α : Type} (move : Cursor → Cursor) : Reply α → Reply α
  | ok value cursor => ok value (move cursor)
  | backtrack expected cursor => backtrack expected (move cursor)
  | cut expected cursor => cut expected (move cursor)

def Parser (α : Type) : Type :=
  Cursor → Reply α

namespace Parser

variable {α β : Type}

instance : Monad Parser where
  pure value := fun cursor => .ok value cursor
  bind p f := fun cursor => (p cursor).bind f

def fail : Parser α := fun cursor =>
  .backtrack [] cursor

/-- The offset after the characters, which come at the given one. -/
def offsetAfter (cs : List Char) (offset : Nat) : Nat :=
  cs.foldl (fun offset c => offset + c.utf8Size) offset

/-- One character of the class. -/
def satisfy (accepts : Char → Bool) : Parser Char := fun cursor =>
  match cursor.rest with
  | c :: rest =>
    if accepts c then .ok c { cursor with rest, offset := cursor.offset + c.utf8Size }
    else .backtrack [] cursor
  | [] => .backtrack [] cursor

def character (c : Char) : Parser Unit := do
  let _ ← satisfy (· == c)

/-- These characters, one after the other, or none of them. -/
def word (cs : List Char) : Parser Unit := fun cursor =>
  if cs.isPrefixOf cursor.rest then
    let offset := offsetAfter cs cursor.offset
    .ok () { cursor with rest := cursor.rest.drop cs.length, offset }
  else .backtrack [] cursor

/-- As many characters of the class as there are. -/
def takeWhile (accepts : Char → Bool) : Parser (List Char) := fun cursor =>
  let taken := cursor.rest.takeWhile accepts
  let offset := offsetAfter taken cursor.offset
  .ok taken { cursor with rest := cursor.rest.dropWhile accepts, offset }

def takeWhile1 (accepts : Char → Bool) : Parser (List Char) := do
  let first ← satisfy accepts
  let others ← takeWhile accepts
  pure (first :: others)

/-- The next character, if there is one, is not of the class. -/
def notFollowedBy (accepts : Char → Bool) : Parser Unit := fun cursor =>
  match cursor.rest with
  | c :: _ => if accepts c then .backtrack [] cursor else .ok () cursor
  | [] => .ok () cursor

def endOfText : Parser Unit := fun cursor =>
  if cursor.rest.isEmpty then .ok () cursor else .backtrack [] cursor

/-- Failing is final. -/
def cut (p : Parser α) : Parser α := fun cursor =>
  match p cursor with
  | .backtrack expected after => .cut expected after
  | reply => reply

/-- A failure names one thing more that was expected. -/
def expecting (what : Expectation) (p : Parser α) : Parser α := fun cursor =>
  match p cursor with
  | .ok value after => .ok value after
  | .backtrack expected after => .backtrack (expected ++ [what]) after
  | .cut expected after => .cut (expected ++ [what]) after

def opt (p : Parser α) : Parser (Option α) := fun cursor =>
  match p cursor with
  | .ok value after => .ok (some value) after
  | .backtrack _ _ => .ok none cursor
  | .cut expected after => .cut expected after

/-- The second parser is tried in the place of the first, whose expectations are forgotten. -/
def orElse (p q : Parser α) : Parser α := fun cursor =>
  match p cursor with
  | .backtrack _ _ => q cursor
  | reply => reply

/-- The parser, with the range of text it took. -/
def spanned (p : Parser α) : Parser (α × Span) := fun cursor =>
  (p cursor).bind fun value after => .ok (value, ⟨cursor.offset, after.offset⟩) after

def iterateUpTo (step : α → Parser α) : Nat → α → Parser α
  | 0, value => pure value
  | count + 1, value => fun cursor =>
    match step value cursor with
    | .ok next after => iterateUpTo step count next after
    | .backtrack _ _ => .ok value cursor
    | .cut expected after => .cut expected after

/-- Repeat a step that takes some text, until it fails. Once it has succeeded, the text left
before it bounds what follows. -/
def iterate (step : α → Parser α) (value : α) : Parser α := fun cursor =>
  match step value cursor with
  | .ok next after => iterateUpTo step cursor.rest.length next after
  | .backtrack _ _ => .ok value cursor
  | .cut expected after => .cut expected after

def many (p : Parser α) : Parser (List α) := do
  let found ← iterate (fun found => do return (← p) :: found) []
  pure found.reverse

def separated1 (p : Parser α) (separator : Parser Unit) : Parser (List α) := do
  let first ← p
  let others ← many (do separator; p)
  pure (first :: others)

def maxNesting : Nat := 64

/-- Run the parser with one nested part more open, unless too many are. -/
def nested (p : Parser α) : Parser α := fun cursor =>
  if maxNesting ≤ cursor.nesting then .cut [.lessNesting] cursor
  else
    (p { cursor with nesting := cursor.nesting + 1 }).moved
      fun after => { after with nesting := after.nesting - 1 }

end Parser

end RecordRules
