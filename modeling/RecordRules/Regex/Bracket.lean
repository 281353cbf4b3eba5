import RecordRules.Regex.Escape

namespace RecordRules.Regex

/-- Members of a set, how many there are, and the number of levels on which sets are nested in
them. -/
structure Members where
  set : CharSet
  count : Nat
  levels : Nat

def Members.add (m : Members) (set : CharSet) (levels : Nat) : Members :=
  ⟨if m.count = 0 then set else .union m.set set, m.count + 1, max m.levels levels⟩

def Members.all (m : Members) : Members :=
  ⟨m.set, 1, if 1 < m.count then m.levels + 1 else m.levels⟩

/-- The class of that name between colons. -/
def posixClass? (name : String) : Option CharSet :=
  match name with
  | "alnum" => some (.union asciiLetters (.range '0' '9'))
  | "alpha" => some asciiLetters
  | "ascii" => some (.range '\x00' '\x7f')
  | "blank" => some (.union (.single '\t') (.single ' '))
  | "cntrl" => some (.union (.range '\x00' '\x1f') (.single '\x7f'))
  | "digit" => some (.range '0' '9')
  | "graph" => some (.range '!' '~')
  | "lower" => some (.range 'a' 'z')
  | "print" => some (.range ' ' '~')
  | "punct" =>
    some (.union (.union (.range '!' '/') (.range ':' '@')) (.union (.range '[' '\x60')
      (.range '\x7b' '~')))
  | "space" => some asciiSpaces
  | "upper" => some (.range 'A' 'Z')
  | "word" => some asciiWords
  | "xdigit" => some (.union (.range '0' '9') (.union (.range 'A' 'F') (.range 'a' 'f')))
  | _ => none

/-- A named class such as `[:alpha:]`, if one begins here. -/
def namedClass? : Scan (Option CharSet) := do
  let start ← Scan.rest
  let opened ← Scan.takeIf ['[', ':']
  let negated ← Scan.takeIf ['^']
  let rest ← Scan.rest
  let name := String.ofList (rest.takeWhile (· != ':'))
  Scan.setRest (rest.dropWhile (· != ':'))
  let closed ← Scan.takeIf [':', ']']
  match posixClass? name with
  | some members =>
    if opened && closed then
      let flags ← Scan.flags
      return some (← complementIn flags negated (foldedIn flags members))
    else do Scan.setRest start; return none
  | none => do Scan.setRest start; return none

/-- One end of a range of characters, which may not be a class. -/
def endOfRange (flags : Flags) : Primitive → Scan Char
  | .literal c _ => do
    Scan.guard (flags.unicode || c.toNat < 0x80)
    pure c
  | _ => Scan.reject

def setMember (flags : Flags) : Primitive → Scan CharSet
  | .set members => pure members
  | member => do return .single (← endOfRange flags member)

def bracketPrimitive : Scan Primitive := do
  let c ← Scan.next
  if c == '\\' then escape else return .literal c false

/-- A character, a class, or a range of characters between brackets. -/
def bracketMember : Scan CharSet := do
  let flags ← Scan.flags
  let first ← bracketPrimitive
  Scan.skipSpace
  let after ← Scan.peekSpace?
  match ← Scan.peek? with
  | none => Scan.reject
  | some c =>
    if c != '-' || after == some ']' || after == some '-' then setMember flags first
    else do
      Scan.expect '-'
      Scan.skipSpace
      let last ← bracketPrimitive
      let low ← endOfRange flags first
      let high ← endOfRange flags last
      Scan.guard (low ≤ high)
      pure (.range low high)

inductive SetOperation where
  | intersection
  | difference
  | symmetricDifference

def SetOperation.apply : SetOperation → CharSet → CharSet → CharSet
  | intersection, s, t => .intersection s t
  | difference, s, t => .difference s t
  | symmetricDifference, s, t => .symmetricDifference s t

/-- The members after an operator, put together with those before it. -/
def combined (flags : Flags) (left : Option (Members × SetOperation)) (right : Members) :
    Members :=
  match left with
  | some (m, operation) =>
    let set := operation.apply (foldedIn flags m.set) (foldedIn flags right.all.set)
    ⟨set, 1, 1 + max m.levels right.all.levels⟩
  | none => right.all

def setOperation? : Scan (Option SetOperation) := do
  if ← Scan.takeIf ['&', '&'] then return some .intersection
  else if ← Scan.takeIf ['-', '-'] then return some .difference
  else if ← Scan.takeIf ['~', '~'] then return some .symmetricDifference
  else return none

/-- The hyphens at the start of a bracket, which stand for themselves. -/
def leadingHyphens : Nat → Scan Nat
  | 0 => Scan.reject
  | fuel + 1 => do
    if ← Scan.takeIf ['-'] then do
      Scan.skipSpace
      Scan.guard (← Scan.peek?).isSome
      return (← leadingHyphens fuel) + 1
    else pure 0

/-- What may stand first between brackets without its meaning elsewhere. -/
def leadingMembers : Scan Members := do
  let hyphens ← leadingHyphens ((← Scan.rest).length + 1)
  if 0 < hyphens then return ⟨.single '-', hyphens, 0⟩
  else if ← Scan.takeIf [']'] then do
    Scan.skipSpace
    Scan.guard (← Scan.peek?).isSome
    return ⟨.single ']', 1, 0⟩
  else return ⟨.none, 0, 0⟩

mutual

/-- A set between brackets. -/
def bracket : Nat → Scan Members
  | 0 => Scan.reject
  | fuel + 1 => do
    Scan.expect '['
    Scan.skipSpace
    let negated ← Scan.takeIf ['^']
    Scan.skipSpace
    Scan.guard (← Scan.peek?).isSome
    let members ← bracketMembers fuel none (← leadingMembers)
    let flags ← Scan.flags
    let set ← complementIn flags negated (foldedIn flags members.set)
    pure ⟨set, 1, members.levels + 1⟩

/-- The members up to the closing bracket, beside those found so far. -/
def bracketMembers : Nat → Option (Members × SetOperation) → Members → Scan Members
  | 0, _, _ => Scan.reject
  | fuel + 1, left, found => do
    Scan.skipSpace
    let flags ← Scan.flags
    match ← Scan.peek? with
    | none => Scan.reject
    | some '[' =>
      match ← namedClass? with
      | some members => bracketMembers fuel left (found.add members 0)
      | none => do
        let inner ← bracket fuel
        bracketMembers fuel left (found.add inner.set inner.levels)
    | some ']' => do
      Scan.expect ']'
      pure (combined flags left found)
    | some _ =>
      match ← setOperation? with
      | some operation =>
        bracketMembers fuel (some (combined flags left found, operation)) ⟨.none, 0, 0⟩
      | none => do
        let member ← bracketMember
        bracketMembers fuel left (found.add member 0)

end

end RecordRules.Regex
