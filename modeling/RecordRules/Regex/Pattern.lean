import RecordRules.Regex.Bracket
import RecordRules.Regex.Search
import RecordRules.Regex.Size

namespace RecordRules.Regex

/-- A part of a pattern: its expression, unless it only sets switches, and the number of levels on
which parts are nested in it. -/
structure Part where
  regex : Option Regex
  levels : Nat

/-- Parts one after the other. -/
def concatenated (parts : List Part) : Part :=
  let nested := (parts.map Part.levels).foldr max 0
  let levels := if parts.length ≤ 1 then nested else nested + 1
  ⟨some ((parts.filterMap Part.regex).foldr followedBy .empty), levels⟩

/-- The one or the other, as one set if both take a single character. -/
def either : Regex → Regex → Regex
  | one s, one t => one (.union s t)
  | r, s => alt r s

/-- One of the parts. -/
def alternated (first : Part) (others : List Part) : Part :=
  match others with
  | [] => first
  | _ =>
    let parts := first :: others
    let regex := (parts.filterMap Part.regex).foldr
      (fun r rest => some (match rest with | some s => either r s | none => r)) none
    ⟨regex, (parts.map Part.levels).foldr max 0 + 1⟩

/-- A switch of a pattern, by its letter. -/
def Flags.set (flags : Flags) (letter : Char) (enable : Bool) : Flags :=
  match letter with
  | 'i' => { flags with ignoreCase := enable }
  | 'm' => { flags with multiLine := enable }
  | 's' => { flags with dotAll := enable }
  | 'R' => { flags with crlf := enable }
  | 'u' => { flags with unicode := enable }
  | 'x' => { flags with verbose := enable }
  | _ => flags

def flagLetters : List Char :=
  ['i', 'm', 's', 'R', 'u', 'x', 'U']

/-- The letters of a group's switches, no letter and no more than one hyphen twice, and no hyphen
at the end. -/
def flagsFrom (flags : Flags) : List Char → Option Flags
  | letters =>
    let on := letters.takeWhile (· != '-')
    let off := (letters.dropWhile (· != '-')).drop 1
    let all := on ++ off
    if all.all flagLetters.contains && all.eraseDups.length == all.length &&
        (on.length == letters.length || !off.isEmpty) then
      some (off.foldl (·.set · false) (on.foldl (·.set · true) flags))
    else none

/-- The name of a group, up to the closing bracket. -/
def groupName : Scan Unit := do
  let rest ← Scan.rest
  let name := rest.takeWhile (· != '>')
  Scan.setRest (rest.dropWhile (· != '>'))
  Scan.expect '>'
  let isStart (c : Char) : Bool := c == '_' || Unicode.alphabetic.contains c
  let isNumeric (c : Char) : Bool :=
    [.decimalNumber, .letterNumber, .otherNumber].contains (Unicode.Category.of c)
  let isPart (c : Char) : Bool :=
    isStart c || isNumeric c || c == '.' || c == '[' || c == ']'
  let pending ← get
  let known := String.ofList name
  Scan.guard (name.all isPart && (name.head?.map isStart).getD false)
  Scan.guard (!pending.names.contains known)
  set { pending with names := known :: pending.names }

/-- What an opening parenthesis begins: switches for what follows, or a group and its switches. -/
inductive Opening where
  | switches (flags : Flags)
  | group (flags : Flags)

def opening : Scan Opening := do
  Scan.expect '('
  Scan.skipSpace
  let flags ← Scan.flags
  let rest ← Scan.rest
  let looksAround := [['?', '='], ['?', '!'], ['?', '<', '='], ['?', '<', '!']]
  Scan.guard !(looksAround.any (·.isPrefixOf rest))
  if (← Scan.takeIf ['?', 'P', '<']) || (← Scan.takeIf ['?', '<']) then do
    groupName
    return .group flags
  else if ← Scan.takeIf ['?'] then do
    let rest ← Scan.rest
    let letters := rest.takeWhile fun c => c != ':' && c != ')'
    Scan.setRest (rest.drop letters.length)
    match flagsFrom flags letters with
    | none => Scan.reject
    | some changed =>
      if (← Scan.next) == ':' then return .group changed
      else do
        Scan.guard !letters.isEmpty
        return .switches changed
  else return .group flags

/-- How often a part may occur: at least, and at most if there is a bound. -/
structure Repetition where
  least : Nat
  most : Option Nat

/-- The repetition between braces. -/
def counted : Scan Repetition := do
  Scan.expect '\x7b'
  Scan.skipSpace
  let least ← decimal
  if ← Scan.takeIf [','] then do
    Scan.skipSpace
    if ← Scan.takeIf ['\x7d'] then return ⟨least, none⟩
    else do
      let most ← decimal
      Scan.expect '\x7d'
      Scan.guard (least ≤ most)
      return ⟨least, some most⟩
  else do
    Scan.expect '\x7d'
    return ⟨least, some least⟩

/-- The part repeated; a question mark that makes the repetition short changes no answer. -/
def repeated (repetition : Repetition) : List Part → Scan (List Part)
  | ⟨some r, levels⟩ :: before => do
    let _ ← Scan.takeIf ['?']
    pure (⟨some (times repetition.least repetition.most r), levels + 1⟩ :: before)
  | _ => Scan.reject

/-- Any character, but no line end unless the switches say so. -/
def dot (flags : Flags) : Scan CharSet := do
  Scan.guard flags.unicode
  if flags.dotAll then pure .any
  else if flags.crlf then pure (.complement (.union (.single '\r') (.single '\n')))
  else pure (.complement (.single '\n'))

/-- One character, escape or condition. -/
def primitive : Scan Regex := do
  let flags ← Scan.flags
  let literal (c : Char) : Regex := one (foldedIn flags (.single c))
  match ← Scan.next with
  | '\\' =>
    match ← escape with
    | .literal c asByte => do
      Scan.guard (flags.unicode || !asByte || c.toNat < 0x80)
      pure (literal c)
    | .set members => pure (one members)
    | .look condition => pure (look condition)
  | '.' => return one (← dot flags)
  | '^' =>
    if !flags.multiLine then return look .textStart
    else return look (if flags.crlf then .returnLineStart else .lineStart)
  | '$' =>
    if !flags.multiLine then return look .textEnd
    else return look (if flags.crlf then .returnLineEnd else .lineEnd)
  | c => return literal c

mutual

/-- Alternatives up to the end of a group or of the pattern. -/
def alternatives : Nat → Scan Part
  | 0 => Scan.reject
  | fuel + 1 => do
    let first ← sequence fuel []
    let others ← furtherAlternatives fuel
    pure (alternated first others)

def furtherAlternatives : Nat → Scan (List Part)
  | 0 => Scan.reject
  | fuel + 1 => do
    if ← Scan.takeIf ['|'] then do
      let next ← sequence fuel []
      return next :: (← furtherAlternatives fuel)
    else pure []

/-- Parts one after the other, behind those found so far, the last of them first. -/
def sequence : Nat → List Part → Scan Part
  | 0, _ => Scan.reject
  | fuel + 1, found => do
    Scan.skipSpace
    match ← Scan.peek? with
    | none | some ')' | some '|' => pure (concatenated found.reverse)
    | some '(' => do
      let outer ← Scan.flags
      match ← opening with
      | .switches flags => do
        Scan.setFlags flags
        sequence fuel (⟨none, 0⟩ :: found)
      | .group flags => do
        Scan.setFlags flags
        let inner ← alternatives fuel
        Scan.expect ')'
        Scan.setFlags outer
        sequence fuel (⟨some (inner.regex.getD .empty), inner.levels + 1⟩ :: found)
    | some '[' => do
      let members ← bracket fuel
      sequence fuel (⟨some (one members.set), members.levels⟩ :: found)
    | some '?' => do Scan.expect '?'; sequence fuel (← repeated ⟨0, some 1⟩ found)
    | some '*' => do Scan.expect '*'; sequence fuel (← repeated ⟨0, none⟩ found)
    | some '+' => do Scan.expect '+'; sequence fuel (← repeated ⟨1, none⟩ found)
    | some '\x7b' => do
      Scan.guard (!found.isEmpty)
      let repetition ← counted
      Scan.skipSpace
      sequence fuel (← repeated repetition found)
    | some _ => do
      let r ← primitive
      sequence fuel (⟨some r, 0⟩ :: found)

end

def maxLevels : Nat := 250

/-- The expression that a pattern stands for, if it is well formed, not nested too deeply and not
too large. -/
def ofPattern? (pattern : String) : Option Regex := do
  let chars := pattern.toList
  let (part, pending) ← alternatives (2 * chars.length + 3) ⟨chars, .initial, []⟩
  let r := part.regex.getD .empty
  if pending.rest.isEmpty && part.levels ≤ maxLevels && r.isSmall then some r else none

end RecordRules.Regex
