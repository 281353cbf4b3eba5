import RecordRules.Regex.Basic

namespace RecordRules

/-- Where stretches of the set begin, and the code points next to their ends. -/
def Unicode.CodePoints.borders (s : CodePoints) : List Nat :=
  (s.whole.flatMap fun (first, last) => [first, last + 1]) ++
    s.alternate.flatMap fun (first, last) => List.range' first (last - first + 2)

def Unicode.Property.borders (p : Property) : List Nat :=
  let tables := Category.assigned.filter fun (category, _) =>
    p.categories.contains category || p.categories.contains .unassigned
  p.more.borders ++ p.less.borders ++ tables.flatMap (·.2.borders)

namespace CharSet

/-- Code points among which all are where membership changes, but for some other cases of
letters. -/
def borders : CharSet → List Nat
  | none => []
  | range first last => [first.toNat, last.toNat + 1]
  | property members => members.borders
  | complement s => s.borders
  | union s t | intersection s t | difference s t => s.borders ++ t.borders
  | caseless s =>
    s.borders.mergeSort.eraseReps.flatMap fun code =>
      let near := Unicode.caseVariants (Char.ofNat code) ++
        Unicode.caseVariants (Char.ofNat (code - 1))
      code :: near.flatMap fun c => [c.toNat, c.toNat + 1]
  | caselessAscii s =>
    s.borders ++ ['A', 'Z', 'a', 'z'].flatMap fun c => [c.toNat, c.toNat + 1]

/-- The stretches from one of the code points to the next whose first one is a member. -/
def stretchesFrom (s : CharSet) : List Nat → List (Nat × Nat)
  | [] => []
  | first :: rest =>
    let last := (rest.head?.getD 0x110000) - 1
    let later := stretchesFrom s rest
    if !s.contains (Char.ofNat first) then later
    else
      match later with
      | (next, stop) :: others =>
        if next = last + 1 then (first, stop) :: others else (first, last) :: later
      | [] => [(first, last)]

/-- About the stretches of code points that the set consists of. -/
def stretches (s : CharSet) : List (Nat × Nat) :=
  let inside := s.borders.filter fun code => code < 0xD800 || (0xDFFF < code && code < 0x110000)
  s.stretchesFrom ((0 :: 0xE000 :: inside).mergeSort.eraseReps)

end CharSet

namespace Regex

/-- The sequences of ranges of bytes for the numbers from `low` to `high`, where the first byte
counts from `mark` on and so many bytes of six bits follow. -/
def byteRanges (mark : Nat) : Nat → Nat → Nat → List (List (Nat × Nat))
  | 0, low, high => [[(mark + low, mark + high)]]
  | more + 1, low, high =>
    let unit := 64 ^ (more + 1)
    let first := low / unit
    let last := high / unit
    let after (byte low high : Nat) : List (List (Nat × Nat)) :=
      (byteRanges 0x80 more low high).map ((mark + byte, mark + byte) :: ·)
    if first = last then after first (low % unit) (high % unit)
    else
      let whole := if low % unit = 0 then first else first + 1
      let stop := if (high + 1) % unit = 0 then last + 1 else last
      (if low % unit = 0 then [] else after first (low % unit) (unit - 1)) ++
        (if whole < stop then
          [(mark + whole, mark + stop - 1) :: List.replicate (more + 1) (0x80, 0xBF)]
        else []) ++
        if (high + 1) % unit = 0 then [] else after last 0 (high % unit)

/-- The code points with an encoding of one length, and the mark of its first byte. -/
def encodings : List (Nat × Nat × Nat × Nat) :=
  [(0, 0x7F, 0, 0), (0x80, 0x7FF, 0xC0, 1), (0x800, 0xD7FF, 0xE0, 2), (0xE000, 0xFFFF, 0xE0, 2),
    (0x10000, 0x10FFFF, 0xF0, 3)]

/-- The sequences of ranges of bytes that encode the code points of a stretch. -/
def encoded (low high : Nat) : List (List (Nat × Nat)) :=
  encodings.flatMap fun (first, last, mark, more) =>
    if high < first || last < low then []
    else byteRanges mark more (max low first) (min high last)

def commonLength : List (Nat × Nat) → List (Nat × Nat) → Nat
  | a :: as, b :: bs => if a = b then commonLength as bs + 1 else 0
  | _, _ => 0

/-- The number of nodes of the tree of the sequences, where equal beginnings share theirs. -/
def nodeCount (before : List (Nat × Nat)) : List (List (Nat × Nat)) → Nat
  | [] => 0
  | ranges :: rest => ranges.length - commonLength before ranges + nodeCount ranges rest

/-- The bytes that a node takes. -/
def nodeBytes : Nat := 32

/-- About the bytes that a set takes in a compiled pattern. -/
def setBytes (s : CharSet) : Nat :=
  let stretches := s.stretches
  let sequences := stretches.flatMap fun (low, high) => encoded low high
  match stretches with
  | [] => nodeBytes
  | [(first, last)] =>
    if first = last then nodeBytes * nodeCount [] sequences
    else 2 * nodeBytes + 8 + if last < 0x80 then 0 else nodeBytes * nodeCount [] sequences
  | _ =>
    if stretches.all (·.2 < 0x80) then 2 * nodeBytes + 8 * stretches.length
    else 2 * nodeBytes + 4 * sequences.length + nodeBytes * nodeCount [] sequences

/-- More bytes than any set takes. -/
def setBytesBound : Nat := 1 <<< 16

/-- Matches no text but the empty one. -/
def isEmptyOnly : Regex → Bool
  | empty | look _ => true
  | one _ => false
  | seq r s | alt r s => r.isEmptyOnly && s.isEmptyOnly
  | times _ most r => most == some 0 || r.isEmptyOnly

/-- About the bytes that a compiled pattern takes, in terms of its sets. It makes no difference
how often an empty text is repeated. -/
def bytes (ofSet : CharSet → Nat) : Regex → Nat
  | empty | look _ => nodeBytes
  | one set => ofSet set
  | seq r s => r.bytes ofSet + s.bytes ofSet
  | alt r (alt s t) => r.bytes ofSet + (alt s t).bytes ofSet + 4
  | alt r s => r.bytes ofSet + s.bytes ofSet + 2 * nodeBytes + 8
  | times least most r =>
    let single := r.bytes ofSet
    let option := nodeBytes + 8
    if r.isEmptyOnly then single + option
    else
      match most with
      | none => max least 1 * single + option
      | some most => least * single + (most - least) * (single + option) + nodeBytes

def maxBytes : Nat := 10 <<< 20

/-- The compiled pattern does not take too many bytes. Few patterns need a look into their sets. -/
def isSmall (r : Regex) : Bool :=
  r.bytes (fun _ => setBytesBound) ≤ maxBytes || r.bytes setBytes ≤ maxBytes

end Regex

end RecordRules
