import RecordRules.Proofs.Parsing.Lookahead

namespace RecordRules.Grammar

/-- The characters that might make a phrase longer, if one of them came after it. -/
def Nonterminal.openers : Nonterminal → List Char
  | arguments => []
  | primary => ['(']
  | suffixes | suffixed | signed => ['(', '.']
  | factors | product => ['(', '.', '*', '/', '%']
  | summands | sum => ['(', '.', '*', '/', '%', '+', '-']
  | comparison | negated =>
    ['(', '.', '*', '/', '%', '+', '-', '<', '>', '=', '!', 'i', 'I']
  | conjuncts | conjunction =>
    ['(', '.', '*', '/', '%', '+', '-', '<', '>', '=', '!', 'i', 'I', '&', 'a', 'A']
  | disjuncts | disjunction | expression =>
    ['(', '.', '*', '/', '%', '+', '-', '<', '>', '=', '!', 'i', 'I', '&', 'a', 'A', '|', 'o', 'O']
  | expressions =>
    ['(', '.', '*', '/', '%', '+', '-', '<', '>', '=', '!', 'i', 'I', '&', 'a', 'A', '|', 'o', 'O',
      ',']

/-- What comes after the phrase does not make it longer. -/
def Stops (p : Nonterminal) (rest : List Char) : Prop :=
  ∀ c ∈ (Text.skip rest).head?, c ∉ p.openers

section Stops

variable {p q : Nonterminal} {room : Nat} {cs rest : List Char}

theorem Stops.mono (h : Stops p rest) (le : q.openers ⊆ p.openers) : Stops q rest :=
  fun c hc mem => h c hc (le mem)

theorem Stops.head_ne (h : Stops p rest) {c : Char} (mem : c ∈ p.openers) :
    (Text.skip rest).head? ≠ some c :=
  fun eq => h c eq mem

theorem Stops.heads_ne (h : Stops p rest) {chars : List Char}
    (le : chars ⊆ p.openers) : ∀ c ∈ chars, (Text.skip rest).head? ≠ some c :=
  fun _ mem => h.head_ne (le mem)

theorem stops_of_skip_eq_nil (h : Text.skip rest = []) : Stops p rest := by
  intro c hc
  rw [h] at hc
  cases hc

theorem stops_of_symbol {symbol : List Char} (h : Symbol symbol cs rest)
    (other : symbol.head?.any (· ∉ p.openers)) : Stops p cs :=
  fun c hc mem => h.heads_ne other c mem hc

theorem Sign.stops {symbols words : List (List Char)} (h : Sign symbols words cs rest)
    (others : ∀ s ∈ symbols ++ words, s.head?.any (· ∉ p.openers)) : Stops p cs :=
  fun c hc mem => h.heads_ne others c mem hc

theorem stops_of_mem {ω : Type} {signs : List (ω × List Char)} {op : ω} {sign : List Char}
    (others : ∀ s ∈ signs, s.2.head?.any (· ∉ p.openers)) (mem : (op, sign) ∈ signs)
    (h : Symbol sign cs rest) : Stops p cs :=
  stops_of_symbol h (others _ mem)

/-- The operand of a chain stops where the others begin. -/
theorem stops_of_disjuncts {others : List Expr} (h : Derives room .disjuncts cs others rest)
    (stops : Stops .disjuncts rest) : Stops .conjunction cs := by
  cases h with
  | noDisjunct => exact stops.mono (by decide)
  | disjunct sign => exact sign.stops (by decide)

theorem stops_of_conjuncts {others : List Expr} (h : Derives room .conjuncts cs others rest)
    (stops : Stops .conjuncts rest) : Stops .negated cs := by
  cases h with
  | noConjunct => exact stops.mono (by decide)
  | conjunct sign => exact sign.stops (by decide)

theorem stops_of_summands {others : List (ArithOp × Expr)}
    (h : Derives room .summands cs others rest) (stops : Stops .summands rest) :
    Stops .product cs := by
  cases h with
  | noSummand => exact stops.mono (by decide)
  | summand mem sign => exact stops_of_mem (by decide) mem sign

theorem stops_of_factors {others : List (ArithOp × Expr)}
    (h : Derives room .factors cs others rest) (stops : Stops .factors rest) :
    Stops .signed cs := by
  cases h with
  | noFactor => exact stops.mono (by decide)
  | factor mem sign => exact stops_of_mem (by decide) mem sign

theorem stops_of_suffixes {suffixes : List Suffix} (h : Derives room .suffixes cs suffixes rest)
    (stops : Stops .suffixes rest) : Stops .primary cs := by
  cases h with
  | noSuffix => exact stops.mono (by decide)
  | member point => exact stops_of_symbol point (by decide)
  | method point => exact stops_of_symbol point (by decide)

end Stops

end RecordRules.Grammar
