import RecordRules.Regex.Scan
import RecordRules.Unicode.Names
import RecordRules.Unicode.SharedCharacters

namespace RecordRules.Regex

/-- What a single character or an escape of a pattern stands for. The byte of a literal is known
where it was written as one. -/
inductive Primitive where
  | literal (c : Char) (asByte : Bool)
  | set (members : CharSet)
  | look (condition : Look)

/-- The set, unless it holds bytes that are no characters. -/
def complementIn (flags : Flags) (negated : Bool) (s : CharSet) : Scan CharSet := do
  if negated then do Scan.guard flags.unicode; pure (.complement s)
  else pure s

/-- The set with the other cases of its members, if case is to be ignored. -/
def foldedIn (flags : Flags) (s : CharSet) : CharSet :=
  if flags.ignoreCase then (if flags.unicode then .caseless s else .caselessAscii s) else s

def asciiSpaces : CharSet :=
  .union (.range '\t' '\r') (.single ' ')

def asciiLetters : CharSet :=
  .union (.range 'a' 'z') (.range 'A' 'Z')

def asciiWords : CharSet :=
  .union (.union asciiLetters (.range '0' '9')) (.single '_')

def unicodeWords : CharSet :=
  .union (.property Unicode.alphabetic)
    (.union (.property Unicode.joinControl) (.ofCategories Unicode.wordCategories))

/-- The class of the letter after a backslash, of which the capital stands for the others. -/
def letterClass (flags : Flags) (letter : Char) : Scan CharSet :=
  let members : CharSet :=
    match letter.toLower with
    | 'd' => if flags.unicode then .ofCategories [.decimalNumber] else .range '0' '9'
    | 's' => if flags.unicode then .property Unicode.whiteSpace else asciiSpaces
    | _ => if flags.unicode then unicodeWords else asciiWords
  complementIn flags letter.isUpper members

/-- The characters of a general category or a group of them. -/
def categoryClass? (name : String) : Option CharSet :=
  if name == "any" then some .any
  else if name == "ascii" then some (.range '\x00' '\x7f')
  else if name == "assigned" then some (.complement (.ofCategories [.unassigned]))
  else (Unicode.categoriesNamed? name).map .ofCategories

def scriptClass? (name : String) : Option CharSet :=
  (Unicode.script? name).map fun script => .ofCodePoints script.members

/-- The characters used in a script, be they its own or not. -/
def usedInScript? (name : String) : Option CharSet :=
  (Unicode.script? name).map fun script =>
    .union (.ofCodePoints (Unicode.sharedBy script.short))
      (.difference (.ofCodePoints script.members) (.ofCodePoints Unicode.shared))

/-- The characters of that property, category or script. -/
def classNamed? (name : String) : Option CharSet :=
  (Unicode.propertyNamed? name).map .property <|> categoryClass? name <|> scriptClass? name

/-- The characters for which the property of that name has that value. -/
def classWithValue? (name value : String) : Option CharSet :=
  if name == "gc" || name == "generalcategory" then categoryClass? value
  else if name == "sc" || name == "script" then scriptClass? value
  else if name == "scx" || name == "scriptextensions" then usedInScript? value
  else none

/-- What stands before and after the first such separator. -/
def splitAt? (separator : List Char) : List Char → Option (List Char × List Char)
  | [] => none
  | c :: rest =>
    if separator.isPrefixOf (c :: rest) then some ([], (c :: rest).drop separator.length)
    else (splitAt? separator rest).map fun (before, after) => (c :: before, after)

/-- The class that a query between braces names, and whether the query negates it. -/
def classOfQuery? (query : List Char) : Option (CharSet × Bool) :=
  let valued (separator : List Char) : Option (Option CharSet) :=
    (splitAt? separator query).map fun (name, value) =>
      classWithValue? (Unicode.plainName name) (Unicode.plainName value)
  match valued ['!', '='] with
  | some members => members.map (·, true)
  | none =>
    match valued [':'] <|> valued ['='] with
    | some members => members.map (·, false)
    | none => (classNamed? (Unicode.plainName query)).map (·, false)

/-- The class after a backslash and `p`. -/
def queriedClass (negated : Bool) : Scan CharSet := do
  Scan.skipSpace
  let query ← do
    if ← Scan.takeIf ['\x7b'] then
      Scan.untilClosing '\x7d' (fun _ => true) ((← Scan.rest).length + 1)
    else do
      let c ← Scan.next
      Scan.guard (c != '\\')
      Scan.skipSpace
      pure [c]
  let flags ← Scan.flags
  Scan.guard flags.unicode
  match classOfQuery? query with
  | some (members, unequal) =>
    complementIn flags (negated != unequal) (foldedIn flags members)
  | none => Scan.reject

def hexDigits : Nat → Scan (List Char)
  | 0 => pure []
  | count + 1 => do
    let c ← Scan.next
    Scan.guard (isHexDigit c)
    Scan.skipSpace
    return c :: (← hexDigits count)

/-- The character whose number follows, with so many digits or between braces. -/
def numbered (count : Nat) : Scan Primitive := do
  Scan.skipSpace
  let braced ← Scan.takeIf ['\x7b']
  let digits ←
    if braced then Scan.untilClosing '\x7d' isHexDigit ((← Scan.rest).length + 1)
    else hexDigits count
  Scan.skipSpace
  let code := valueIn 16 digits
  Scan.guard (!digits.isEmpty && (code < 0xD800 || (0xDFFF < code && code < 0x110000)))
  pure (.literal (Char.ofNat code) (!braced && count == 2))

/-- The condition on words between braces after a backslash and `b`, if there is one. -/
def wordCondition (unicode : Bool) : Scan (Option Look) := do
  let start ← Scan.rest
  if !(← Scan.takeIf ['\x7b']) then return none
  Scan.skipSpace
  let isPart (c : Char) : Bool := c.isAlpha || c == '-'
  match ← Scan.peek? with
  | none => Scan.reject
  | some c =>
    if !isPart c then do Scan.setRest start; return none
    let name ← Scan.untilClosing '\x7d' isPart ((← Scan.rest).length + 1)
    match String.ofList name with
    | "start" => return some (.wordStart unicode)
    | "end" => return some (.wordEnd unicode)
    | "start-half" => return some (.wordStartHalf unicode)
    | "end-half" => return some (.wordEndHalf unicode)
    | _ => Scan.reject

/-- Characters that a backslash makes literal. -/
def isEscapable (c : Char) : Bool :=
  c.toNat < 0x80 && !c.isAlphanum && c != '<' && c != '>'

/-- What follows a backslash. -/
def escape : Scan Primitive := do
  let c ← Scan.next
  let flags ← Scan.flags
  if c == 'x' then numbered 2
  else if c == 'u' then numbered 4
  else if c == 'U' then numbered 8
  else if c == 'p' || c == 'P' then return .set (← queriedClass (c == 'P'))
  else if ['d', 's', 'w', 'D', 'S', 'W'].contains c then return .set (← letterClass flags c)
  else if isEscapable c then return .literal c false
  else
    match c with
    | 'a' => return .literal '\x07' false
    | 'f' => return .literal '\x0c' false
    | 't' => return .literal '\t' false
    | 'n' => return .literal '\n' false
    | 'r' => return .literal '\r' false
    | 'v' => return .literal '\x0b' false
    | 'A' => return .look .textStart
    | 'z' => return .look .textEnd
    | 'b' =>
      match ← wordCondition flags.unicode with
      | some condition => return .look condition
      | none => return .look (.wordBoundary flags.unicode)
    | 'B' => return .look (.noWordBoundary flags.unicode)
    | '<' => return .look (.wordStart flags.unicode)
    | '>' => return .look (.wordEnd flags.unicode)
    | _ => Scan.reject

end RecordRules.Regex
