import RecordRules.Unicode.Casing
import RecordRules.Unicode.Property

namespace RecordRules

/-- A set of characters as a pattern writes it. -/
inductive CharSet where
  | none
  | range (first last : Char)
  | property (members : Unicode.Property)
  | complement (s : CharSet)
  | union (s t : CharSet)
  | intersection (s t : CharSet)
  | difference (s t : CharSet)
  | caseless (s : CharSet)
  | caselessAscii (s : CharSet)
deriving DecidableEq

namespace CharSet

def single (c : Char) : CharSet :=
  range c c

def any : CharSet :=
  complement none

def symmetricDifference (s t : CharSet) : CharSet :=
  union (difference s t) (difference t s)

def ofCategories (categories : List Unicode.Category) : CharSet :=
  property ⟨categories, ⟨[], []⟩, ⟨[], []⟩⟩

def ofCodePoints (members : Unicode.CodePoints) : CharSet :=
  property ⟨[], members, ⟨[], []⟩⟩

/-- The letter of the other case, for letters of the English alphabet. -/
def asciiVariants (c : Char) : List Char :=
  if c.isAlpha then [c.toLower, c.toUpper] else [c]

def contains : CharSet → Char → Bool
  | none, _ => false
  | range first last, c => first ≤ c && c ≤ last
  | property members, c => members.contains c
  | complement s, c => !s.contains c
  | union s t, c => s.contains c || t.contains c
  | intersection s t, c => s.contains c && t.contains c
  | difference s t, c => s.contains c && !t.contains c
  | caseless s, c => (Unicode.caseVariants c).any s.contains
  | caselessAscii s, c => (asciiVariants c).any s.contains

end CharSet

end RecordRules
