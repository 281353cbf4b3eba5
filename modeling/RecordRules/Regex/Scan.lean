import RecordRules.Regex.Basic
import RecordRules.Text.Blank

namespace RecordRules.Regex

/-- The switches of a pattern. -/
structure Flags where
  ignoreCase : Bool
  multiLine : Bool
  dotAll : Bool
  crlf : Bool
  unicode : Bool
  verbose : Bool
deriving DecidableEq

def Flags.initial : Flags :=
  ⟨false, false, false, false, true, false⟩

/-- What is left of a pattern, the switches in force there, and the group names given so far. -/
structure Pending where
  rest : List Char
  flags : Flags
  names : List String

/-- A reader of patterns; none is the answer to a text that is no pattern. -/
abbrev Scan := StateT Pending Option

namespace Scan

def reject {α : Type} : Scan α :=
  fun _ => none

def guard (condition : Bool) : Scan Unit :=
  if condition then pure () else reject

def rest : Scan (List Char) := do
  return (← get).rest

def setRest (rest : List Char) : Scan Unit :=
  modify fun pending => { pending with rest }

def flags : Scan Flags := do
  return (← get).flags

def setFlags (flags : Flags) : Scan Unit :=
  modify fun pending => { pending with flags }

def peek? : Scan (Option Char) := do
  return (← rest).head?

/-- The next character, which there has to be. -/
def next : Scan Char := do
  match ← rest with
  | c :: rest => do setRest rest; pure c
  | [] => reject

def expect (c : Char) : Scan Unit := do
  guard ((← next) == c)

/-- Take these characters if they come next. -/
def takeIf (cs : List Char) : Scan Bool := do
  let rest ← rest
  if cs.isPrefixOf rest then do setRest (rest.drop cs.length); pure true
  else pure false

/-- The pattern after white space and comments, which run to the end of their line. -/
def afterSpace (inComment : Bool) : List Char → List Char
  | [] => []
  | c :: rest =>
    if inComment then afterSpace (c != '\n') rest
    else if Text.isBlank c then afterSpace false rest
    else if c == '#' then afterSpace true rest
    else c :: rest

/-- In verbose patterns white space and comments mean nothing. -/
def skipSpace : Scan Unit := do
  if (← flags).verbose then setRest (afterSpace false (← rest))

/-- The next character that is not white space, without taking it. -/
def peekSpace? : Scan (Option Char) := do
  let rest := (← rest).drop 1
  return (if (← flags).verbose then afterSpace false rest else rest).head?

/-- The characters up to the closing one, which is taken as well. -/
def untilClosing (close : Char) (accepts : Char → Bool) : Nat → Scan (List Char)
  | 0 => reject
  | fuel + 1 => do
    skipSpace
    let c ← next
    if c == close then pure []
    else do
      guard (accepts c)
      return c :: (← untilClosing close accepts fuel)

end Scan

/-- The value of decimal or hexadecimal digits. -/
def digitValue (c : Char) : Nat :=
  if c.isDigit then c.toNat - '0'.toNat else c.toLower.toNat - 'a'.toNat + 10

def isHexDigit (c : Char) : Bool :=
  c.isDigit || ('a' ≤ c.toLower && c.toLower ≤ 'f')

def valueIn (base : Nat) (digits : List Char) : Nat :=
  digits.foldl (fun value c => value * base + digitValue c) 0

/-- The largest count in a pattern. -/
def maxCount : Nat := (1 <<< 32) - 1

/-- The digits that come next, in verbose patterns with space between them. -/
def digitsNext : Nat → Scan (List Char)
  | 0 => pure []
  | fuel + 1 => do
    match ← Scan.peek? with
    | some c =>
      if c.isDigit then do
        let c ← Scan.next
        Scan.skipSpace
        return c :: (← digitsNext fuel)
      else pure []
    | none => pure []

/-- A decimal number with white space around it. -/
def decimal : Scan Nat := do
  Scan.setRest ((← Scan.rest).dropWhile Text.isBlank)
  let digits ← digitsNext (← Scan.rest).length
  Scan.setRest ((← Scan.rest).dropWhile Text.isBlank)
  Scan.skipSpace
  Scan.guard (!digits.isEmpty && valueIn 10 digits ≤ maxCount)
  pure (valueIn 10 digits)

end RecordRules.Regex
