import RecordRules.Regex.CharSet

namespace RecordRules

/-- A condition on the characters around a place in a text. The flag of the word conditions says
whether words of all scripts count. -/
inductive Look where
  | textStart
  | textEnd
  | lineStart
  | lineEnd
  | returnLineStart
  | returnLineEnd
  | wordBoundary (unicode : Bool)
  | noWordBoundary (unicode : Bool)
  | wordStart (unicode : Bool)
  | wordEnd (unicode : Bool)
  | wordStartHalf (unicode : Bool)
  | wordEndHalf (unicode : Bool)
deriving DecidableEq

namespace Look

def isWord (unicode : Bool) : Option Char → Bool
  | none => false
  | some c => if unicode then Unicode.isWordCharacter c else c.isAlphanum || c == '_'

def holds (before after : Option Char) : Look → Bool
  | textStart => before.isNone
  | textEnd => after.isNone
  | lineStart => before.isNone || before == some '\n'
  | lineEnd => after.isNone || after == some '\n'
  | returnLineStart =>
    before.isNone || before == some '\n' || (before == some '\r' && after != some '\n')
  | returnLineEnd =>
    after.isNone || after == some '\r' || (after == some '\n' && before != some '\r')
  | wordBoundary unicode => isWord unicode before != isWord unicode after
  | noWordBoundary unicode => isWord unicode before == isWord unicode after
  | wordStart unicode => !isWord unicode before && isWord unicode after
  | wordEnd unicode => isWord unicode before && !isWord unicode after
  | wordStartHalf unicode => !isWord unicode before
  | wordEndHalf unicode => !isWord unicode after

end Look

inductive Regex where
  | empty
  | one (set : CharSet)
  | look (condition : Look)
  | seq (r s : Regex)
  | alt (r s : Regex)
  | times (least : Nat) (most : Option Nat) (r : Regex)
deriving DecidableEq

end RecordRules
