import RecordRules.Proofs.Parsing.Completeness

namespace RecordRules

open Grammar
open RecordRules.Expr (HasTree)

namespace Parser

variable {α β : Type} {n : Nat} {cs mid start rest : List Char}

/-- The parser fails on the text and leaves it to no alternative. -/
def Cuts (p : Parser α) (n : Nat) (cs : List Char) : Prop :=
  ∀ offset, ∃ expected after, p ⟨cs, offset, n⟩ = .cut expected after

namespace Cuts

variable {p q : Parser α} {Q : α → Prop}

theorem bind {f : α → Parser β} (h : Cuts p n cs) : Cuts (p >>= f) n cs := by
  intro offset
  obtain ⟨expected, after, final⟩ := h offset
  refine ⟨expected, after, ?_⟩
  change (p _).bind f = _
  rw [final]
  rfl

theorem bind_later {f : α → Parser β} (h : Yields [] p n cs Q mid)
    (hf : ∀ a, Q a → Cuts (f a) n mid) : Cuts (p >>= f) n cs := by
  intro offset
  obtain ⟨a, stop, ok, good⟩ := h.ok offset
  obtain ⟨expected, after, final⟩ := hf a good stop
  refine ⟨expected, after, ?_⟩
  change (p _).bind f = _
  rw [ok]
  exact final

theorem spaced (h : Cuts p n (Text.skip cs)) : Cuts (do Parser.space; p) n cs :=
  bind_later (.space cs) fun _ _ => h

theorem cut (h : Cuts p n cs) : Cuts (cut p) n cs := by
  intro offset
  obtain ⟨expected, after, final⟩ := h offset
  exact ⟨expected, after, by rw [Parser.cut, final]⟩

theorem of_declines (h : Declines p n cs) : Cuts (Parser.cut p) n cs := by
  intro offset
  obtain ⟨expected, after, declined⟩ := h offset
  exact ⟨expected, after, by rw [Parser.cut, declined]⟩

theorem expecting (what : Expectation) (h : Cuts p n cs) : Cuts (expecting what p) n cs := by
  intro offset
  obtain ⟨expected, after, final⟩ := h offset
  exact ⟨expected ++ [what], after, by rw [Parser.expecting, final]⟩

theorem opt (h : Cuts p n cs) : Cuts (opt p) n cs := by
  intro offset
  obtain ⟨expected, after, final⟩ := h offset
  exact ⟨expected, after, by rw [Parser.opt, final]⟩

theorem spanned (h : Cuts p n cs) : Cuts (spanned p) n cs := by
  intro offset
  obtain ⟨expected, after, final⟩ := h offset
  exact ⟨expected, after, by rw [Parser.spanned, final]; rfl⟩

theorem first (h : Cuts p n cs) : Cuts (orElse p q) n cs := by
  intro offset
  obtain ⟨expected, after, final⟩ := h offset
  exact ⟨expected, after, by rw [orElse, final]⟩

theorem second (hp : Declines p n cs) (h : Cuts q n cs) : Cuts (orElse p q) n cs := by
  intro offset
  obtain ⟨expected, after, declined⟩ := hp offset
  have same : orElse p q ⟨cs, offset, n⟩ = q ⟨cs, offset, n⟩ := by rw [orElse, declined]
  rw [same]
  exact h offset

/-- That too many parts are open is final as well. -/
theorem nested (h : Cuts p (n + 1) cs) : Cuts (nested p) n cs := by
  intro offset
  by_cases full : maxNesting ≤ n
  · exact ⟨[.lessNesting], ⟨cs, offset, n⟩, by simp only [Parser.nested, if_pos full]⟩
  · obtain ⟨expected, after, final⟩ := h offset
    refine ⟨expected, { after with nesting := after.nesting - 1 }, ?_⟩
    simp only [Parser.nested, if_neg full, final]
    rfl

end Cuts

section Numbers

variable {digits : List Char} (large : Number.int64? (digitsValue digits) = none)

include large

theorem Cuts.number (all : Digits digits) (ends : Ends Char.isDigit rest)
    (noFraction : ¬ Fraction rest) : Cuts number n (digits ++ rest) := by
  refine bind_later (.takeWhile1 all.1 all.2 ends) fun _ hdigits => ?_
  refine bind_later (.opt_none (.fraction noFraction)) fun _ hnone => ?_
  rw [hdigits, hnone, numeral, large]
  exact of_declines fun offset => ⟨[], _, rfl⟩

theorem Cuts.primary (whole : Whole digits cs rest) (expr : Parser Expr) :
    Cuts (primary expr) n cs := by
  obtain ⟨c, after, head, digit⟩ := whole.head
  obtain ⟨noGroup, noString⟩ := declines_of_isDigit (n := n) expr head digit
  have number : Cuts Parser.number n (Text.skip cs) := by
    rw [whole.symbol]
    exact .number large whole.all whole.ends whole.noFraction
  have literal : Cuts (Parser.literal Parser.number id) n (Text.skip cs) := number.spanned.bind
  exact spaced (expecting _ (second noGroup (second noString (first literal))))

theorem Cuts.signed (whole : Whole digits cs rest) (deeper : Deeper) :
    Cuts (signed deeper) n cs := by
  obtain ⟨c, after, head, digit⟩ := whole.head
  have noMinus : (Text.skip cs).head? ≠ some '-' := by
    rw [head]
    rintro ⟨⟩
    cases digit
  have skipped : Whole digits (Text.skip cs) rest :=
    ⟨whole.all, (Text.skip_skip cs).trans whole.symbol, whole.ends, whole.noFraction⟩
  refine spaced (bind_later (.opt_none (.spanned (.bind (.character noMinus)))) fun _ found => ?_)
  rw [found]
  exact (primary large skipped deeper.expression).bind

end Numbers

section Operands

variable {deeper : Deeper} {left : Expr}

theorem Cuts.minus (symbol : Symbol ['-'] cs start) (h : Cuts deeper.signed (n + 1) start) :
    Cuts (Parser.signed deeper) n cs := by
  refine spaced (bind (opt (spanned ?_)))
  rw [symbol]
  exact bind_later (.character '-' start) fun _ _ => h.nested.cut

theorem Cuts.sum (h : Cuts (Parser.signed deeper) n cs) : Cuts (sum deeper) n cs := by
  have product : Cuts (Parser.product deeper) n cs := h.bind
  exact product.bind

theorem Cuts.comparison {op : CompareOp} {sign : List Char}
    (lhs : Yields [] (Parser.sum deeper) n cs (HasTree left) mid)
    (mem : (op, sign) ∈ compareSigns) (symbol : Symbol sign mid start)
    (noEqual : start.head? ≠ some '=') (rhs : Cuts (Parser.sum deeper) n start) :
    Cuts (comparison deeper) n cs := by
  have compared : Yields [] (do space; Parser.compareOp) n mid (· = op) start := by
    refine .spaced ?_
    rw [symbol]
    exact .compareOp mem noEqual
  refine bind_later lhs fun _ _ => bind_later compared.opt fun _ found => ?_
  obtain ⟨_, rfl, rfl⟩ := found
  exact (rhs.cut.expecting _).bind

end Operands

/-- A rule is cut off where its first comparison is, on the right of the sign. -/
theorem Cuts.rule {room : Nat} {op : CompareOp} {sign : List Char} {left : Expr}
    (lhs : Derives room .sum cs left mid) (roomy : room < maxNesting)
    (low : left.depth ≤ maxHeight) (mem : (op, sign) ∈ compareSigns)
    (symbol : Symbol sign mid start) (noEqual : start.head? ≠ some '=')
    (rhs : Cuts (Parser.sum (deeper maxNesting)) 1 start) : Cuts rule 0 cs := by
  have found : Found [] .sum 63 1 cs left mid := found_of_derives lhs rfl
    (.inl (Nat.le_of_lt_succ roomy)) (stops_of_mem (by decide) mem symbol)
  have leftRead : Yields [] (Parser.sum (deeper maxNesting)) 1 (Text.skip cs) (HasTree left) mid :=
    found (.inl low) (Text.skip_skip cs)
  have comparison : Cuts (Parser.comparison (deeper maxNesting)) 1 (Text.skip cs) :=
    .comparison leftRead mem symbol noEqual rhs
  have negated : Cuts (negated (deeper maxNesting)) 1 (Text.skip cs) := by
    refine spaced ?_
    rw [Text.skip_skip]
    have noSign := declines_notSign (n := 1) (.uncompared lhs)
    refine bind_later (.opt_none (.spanned (.bind noSign))) fun _ found => ?_
    rw [found]
    exact comparison
  have disjunction : Cuts (disjunction (deeper maxNesting)) 1 (Text.skip cs) := bind (bind negated)
  exact bind (nested (spaced disjunction.bind))

end Parser

theorem parse_eq_error {text : String} (h : Parser.Cuts Parser.rule 0 text.toList) :
    ∃ error, parse text = .error error := by
  obtain ⟨expected, after, final⟩ := h 0
  refine ⟨⟨expected, after.offset⟩, ?_⟩
  unfold parse
  rw [final]

end RecordRules
