import RecordRules.Proofs.Parsing.Lookahead

namespace RecordRules.Grammar

open RecordRules.Parser (isIdentifierStart isIdentifierPart)

/-- No name and no number goes on in the text. -/
structure Boundary (rest : List Char) : Prop where
  ends : Ends isIdentifierPart rest
  noFraction : ¬ Fraction rest

theorem boundary_cons {c : Char} (part : isIdentifierPart c = false) (point : c ≠ '.')
    (rest : List Char) : Boundary (c :: rest) := by
  constructor
  · intro d hd
    cases hd
    exact part
  · rintro ⟨digit, others, eq, -⟩
    cases eq
    exact point rfl

theorem boundary_nil : Boundary [] := by
  constructor
  · intro c hc
    cases hc
  · rintro ⟨digit, others, eq, -⟩
    cases eq

/-- The name of a member does not look like the digits after a point. -/
theorem boundary_point {name rest : List Char} (identifier : IsIdentifier name) :
    Boundary ('.' :: (name ++ rest)) := by
  constructor
  · intro c hc
    cases hc
    rfl
  · rintro ⟨digit, others, eq, isDigit⟩
    cases name with
    | nil => exact identifier
    | cons c name =>
      cases eq
      have start := isIdentifierStart_of_isDigit isDigit
      rw [identifier.1] at start
      cases start

theorem isIdentifierPart_of_isDigit {c : Char} (h : c.isDigit) : isIdentifierPart c := by
  simp only [isIdentifierPart, Char.isAlphanum, h, Bool.or_true, Bool.true_or]

theorem Boundary.endsDigits {rest : List Char} (h : Boundary rest) : Ends Char.isDigit rest := by
  intro c hc
  by_contra digit
  have part := isIdentifierPart_of_isDigit (by simpa using digit)
  rw [h.ends c hc] at part
  cases part

theorem toNat_of_isIdentifierPart {c : Char} (h : isIdentifierPart c) :
    48 ≤ c.toNat ∧ c.toNat ≤ 122 := by
  have ranges : isIdentifierPart c = (decide (65 ≤ c.toNat ∧ c.toNat ≤ 90) ||
      (decide (97 ≤ c.toNat) && decide (c.toNat ≤ 122)) ||
      (decide (48 ≤ c.toNat) && decide (c.toNat ≤ 57)) || c == '_') := rfl
  rw [ranges] at h
  simp only [Bool.or_eq_true, Bool.and_eq_true, decide_eq_true_eq, beq_iff_eq] at h
  rcases h with ((h | h) | h) | rfl
  · omega
  · omega
  · omega
  · decide

theorem isBlank_of_isIdentifierPart {c : Char} (h : isIdentifierPart c) :
    Text.isBlank c = false := by
  have bounds := toNat_of_isIdentifierPart h
  simp only [Text.isBlank, Bool.or_eq_false_iff, Bool.and_eq_false_iff, decide_eq_false_iff_not,
    beq_eq_false_iff_ne]
  omega

/-- A symbol is what the text that begins with it goes on with. -/
theorem symbol_append {symbol : List Char} (head : symbol.head?.any (!Text.isBlank ·))
    (rest : List Char) : Symbol symbol (symbol ++ rest) rest := by
  obtain ⟨c, hc, notBlank⟩ := (Option.any_eq_true _ _).mp head
  obtain ⟨others, rfl⟩ := List.head?_eq_some_iff.mp hc
  exact Text.skip_of_head (by simpa using notBlank)

theorem symbol_cons {c : Char} (notBlank : !Text.isBlank c) (rest : List Char) :
    Symbol [c] (c :: rest) rest :=
  Text.skip_of_head (by simpa using notBlank)

theorem any_head {symbol : List Char} (some : symbol ≠ [])
    (part : ∀ c ∈ symbol, isIdentifierPart c) : symbol.head?.any (!Text.isBlank ·) := by
  cases symbol with
  | nil => exact absurd rfl some
  | cons c others =>
    have notBlank := isBlank_of_isIdentifierPart (part c List.mem_cons_self)
    simp [notBlank]

theorem name_append {name : String} {rest : List Char} (identifier : IsIdentifier name.toList)
    (ends : Ends isIdentifierPart rest) : Name name (name.toList ++ rest) rest := by
  have some : name.toList ≠ [] := by
    intro eq
    rw [eq] at identifier
    exact identifier
  have head := any_head some (isIdentifierPart_of_isIdentifier identifier)
  exact ⟨identifier, symbol_append head rest, ends⟩

theorem Digits.symbol_append {digits : List Char} (h : Digits digits) (others rest : List Char) :
    Symbol (digits ++ others) (digits ++ others ++ rest) rest := by
  have head := any_head h.1 fun c mem => isIdentifierPart_of_isDigit (h.2 c mem)
  rw [← List.head?_append_of_ne_nil _ h.1] at head
  exact Grammar.symbol_append head rest

section Derives

variable {room : Nat} {cs rest : List Char} {e : Expr}

theorem Symbol.spaced {symbol : List Char} (h : Symbol symbol cs rest) :
    Symbol symbol (' ' :: cs) rest :=
  h

theorem Derives.spaced {p : Nonterminal} {tree : p.Tree} (h : Derives room p cs tree rest)
    (leading : p.Leading) : Derives room p (' ' :: cs) tree rest :=
  h.of_skip leading rfl

theorem Derives.product_of_signed (h : Derives room .signed cs e rest) :
    Derives room .product cs e rest := by
  have derived : Derives room .product cs (grouped e []) rest := .product h .noFactor
  exact derived

theorem Derives.sum_of_product (h : Derives room .product cs e rest) :
    Derives room .sum cs e rest := by
  have derived : Derives room .sum cs (grouped e []) rest := .sum h .noSummand
  exact derived

theorem Derives.disjunction_of_conjunction (h : Derives room .conjunction cs e rest) :
    Derives room .disjunction cs e rest := by
  have derived : Derives room .disjunction cs (flat .or e []) rest := .disjunction h .noDisjunct
  exact derived

theorem Derives.conjunction_of_negated (h : Derives room .negated cs e rest) :
    Derives room .conjunction cs e rest := by
  have derived : Derives room .conjunction cs (flat .and e []) rest := .conjunction h .noConjunct
  exact derived

theorem Derives.disjunction_of_negated (h : Derives room .negated cs e rest) :
    Derives room .disjunction cs e rest :=
  h.conjunction_of_negated.disjunction_of_conjunction

theorem Derives.negated_of_sum (h : Derives room .sum cs e rest) :
    Derives room .negated cs e rest :=
  .unnegated (.uncompared h)

end Derives

end RecordRules.Grammar
