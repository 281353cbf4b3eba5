namespace RecordRules.Unicode

/-- A set of code points: whole stretches, and stretches of which every second one belongs to it,
both given by their first and last member. -/
structure CodePoints where
  whole : List (Nat × Nat)
  alternate : List (Nat × Nat)
deriving DecidableEq

def CodePoints.contains (s : CodePoints) (c : Char) : Bool :=
  (s.whole.any fun (first, last) => first ≤ c.toNat && c.toNat ≤ last) ||
    s.alternate.any fun (first, last) =>
      first ≤ c.toNat && c.toNat ≤ last && (c.toNat - first) % 2 == 0

end RecordRules.Unicode
