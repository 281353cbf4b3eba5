import RecordRules.Proofs.Parsing.Boundary

namespace RecordRules

open RecordRules.Parser (isIdentifierPart)

theorem Text.skip_append {cs : List Char} (some : skip cs ≠ []) (more : List Char) :
    skip (cs ++ more) = skip cs ++ more := by
  unfold skip at some ⊢
  rw [List.dropWhile_append, if_neg (by simpa using some)]

theorem Text.skip_append_of_nil {cs : List Char} (blank : skip cs = []) (more : List Char) :
    skip (cs ++ more) = skip more := by
  unfold skip at blank ⊢
  rw [List.dropWhile_append, if_pos (by rw [blank]; rfl)]

namespace Grammar

section Append

variable {cs rest more : List Char}

theorem Ends.append {accepts : Char → Bool} (h : Ends accepts rest) (later : Ends accepts more) :
    Ends accepts (rest ++ more) := by
  cases rest with
  | nil => exact later
  | cons c rest => exact h

theorem not_fraction_append (h : ¬ Fraction rest) (boundary : Boundary more) :
    ¬ Fraction (rest ++ more) := by
  rintro ⟨digit, others, eq, isDigit⟩
  match rest with
  | [] => exact boundary.noFraction ⟨digit, others, eq, isDigit⟩
  | ['.'] =>
    obtain rfl : more = digit :: others := (List.cons.inj eq).2
    rw [boundary.endsDigits digit rfl] at isDigit
    cases isDigit
  | first :: second :: rest =>
    obtain ⟨rfl, rfl, -⟩ : first = '.' ∧ second = digit ∧ rest ++ more = others := by
      simpa using eq
    exact h ⟨second, rest, rfl, isDigit⟩

theorem Symbol.append {symbol : List Char} (h : Symbol symbol cs rest) (some : symbol ≠ [])
    (more : List Char) : Symbol symbol (cs ++ more) (rest ++ more) := by
  have found : Text.skip cs ≠ [] := by
    rw [h]
    exact List.append_ne_nil_of_left_ne_nil some rest
  rw [Symbol, Text.skip_append found, h, List.append_assoc]

theorem Sign.append {symbols words : List (List Char)} (h : Sign symbols words cs rest)
    (some : ∀ s ∈ symbols ++ words, s ≠ []) (boundary : Boundary more) :
    Sign symbols words (cs ++ more) (rest ++ more) := by
  rcases h with ⟨s, mem, symbol⟩ | ⟨w, mem, symbol, ends⟩
  · exact .inl ⟨s, mem, symbol.append (some s (List.mem_append_left words mem)) more⟩
  · exact .inr ⟨w, mem, symbol.append (some w (List.mem_append_right symbols mem)) more,
      ends.append boundary.ends⟩

theorem Name.append {name : String} (h : Name name cs rest) (boundary : Boundary more) :
    Name name (cs ++ more) (rest ++ more) := by
  have some : name.toList ≠ [] := by
    intro eq
    have identifier := h.identifier
    rw [eq] at identifier
    exact identifier
  exact ⟨h.identifier, h.symbol.append some more, h.ends.append boundary.ends⟩

theorem Whole.append {digits : List Char} (h : Whole digits cs rest) (boundary : Boundary more) :
    Whole digits (cs ++ more) (rest ++ more) where
  all := h.all
  symbol := h.symbol.append h.all.1 more
  ends := h.ends.append boundary.endsDigits
  noFraction := not_fraction_append h.noFraction boundary

theorem Decimal.append {whole fraction : List Char} (h : Decimal whole fraction cs rest)
    (boundary : Boundary more) : Decimal whole fraction (cs ++ more) (rest ++ more) where
  before := h.before
  after := h.after
  symbol := h.symbol.append (by simp) more
  ends := h.ends.append boundary.endsDigits

theorem Quoted.append {value : List Char} (h : Quoted cs value rest) (more : List Char) :
    Quoted (cs ++ more) value (rest ++ more) := by
  induction h with
  | close => exact .close
  | plain quote backslash _ ih => exact .plain quote backslash ih
  | escape mem _ ih => exact .escape mem ih
  | noEscape unknown _ ih => exact .noEscape unknown ih

/-- A phrase stays one whatever comes after it, if no name or number goes on there. -/
theorem Derives.append {room : Nat} {p : Nonterminal} {tree : p.Tree}
    (h : Derives room p cs tree rest) (boundary : Boundary more) :
    Derives room p (cs ++ more) tree (rest ++ more) := by
  -- an empty sign could be found in what is appended
  have compareSome : ∀ s ∈ compareSigns, s.2 ≠ [] := by decide
  have additiveSome : ∀ s ∈ additiveSigns, s.2 ≠ [] := by decide
  have multiplicativeSome : ∀ s ∈ multiplicativeSigns, s.2 ≠ [] := by decide
  induction h with
  | expression _ ih => exact .expression ih
  | disjunction _ _ ih ih' => exact .disjunction ih ih'
  | noDisjunct => exact .noDisjunct
  | disjunct sign _ _ ih ih' => exact .disjunct (sign.append (by decide) boundary) ih ih'
  | conjunction _ _ ih ih' => exact .conjunction ih ih'
  | noConjunct => exact .noConjunct
  | conjunct sign _ _ ih ih' => exact .conjunct (sign.append (by decide) boundary) ih ih'
  | negation sign _ ih => exact .negation (sign.append (by decide) boundary) ih
  | unnegated _ ih => exact .unnegated ih
  | compare _ mem sign _ ih ih' =>
    exact .compare ih mem (sign.append (compareSome _ mem) more) ih'
  | within _ sign opening _ closing ih ih' =>
    exact .within ih (sign.append (by decide) boundary) (opening.append (by decide) more) ih'
      (closing.append (by decide) more)
  | uncompared _ ih => exact .uncompared ih
  | sum _ _ ih ih' => exact .sum ih ih'
  | noSummand => exact .noSummand
  | summand mem sign _ _ ih ih' =>
    exact .summand mem (sign.append (additiveSome _ mem) more) ih ih'
  | product _ _ ih ih' => exact .product ih ih'
  | noFactor => exact .noFactor
  | factor mem sign _ _ ih ih' =>
    exact .factor mem (sign.append (multiplicativeSome _ mem) more) ih ih'
  | negative sign _ ih => exact .negative (sign.append (by decide) more) ih
  | unsigned _ ih => exact .unsigned ih
  | suffixed _ _ ih ih' => exact .suffixed ih ih'
  | noSuffix => exact .noSuffix
  | member point name _ ih =>
    exact .member (point.append (by decide) more) (name.append boundary) ih
  | method point name _ _ ih ih' =>
    exact .method (point.append (by decide) more) (name.append boundary) ih ih'
  | group opening _ closing ih =>
    exact .group (opening.append (by decide) more) ih (closing.append (by decide) more)
  | string opening quoted => exact .string (opening.append (by decide) more) (quoted.append more)
  | int digits value => exact .int (digits.append boundary) value
  | float digits => exact .float (digits.append boundary)
  | bool mem name => exact .bool mem (name.append boundary)
  | ident name free => exact .ident (name.append boundary) free
  | call name free _ ih => exact .call (name.append boundary) free ih
  | noArguments opening closing =>
    exact .noArguments (opening.append (by decide) more) (closing.append (by decide) more)
  | lambda opening param arrow _ closing ih =>
    exact .lambda (opening.append (by decide) more) (param.append boundary)
      (arrow.append (by decide) more) ih (closing.append (by decide) more)
  | arguments opening _ closing ih =>
    exact .arguments (opening.append (by decide) more) ih (closing.append (by decide) more)
  | lastExpression _ ih => exact .lastExpression ih
  | moreExpressions _ comma _ ih ih' =>
    exact .moreExpressions ih (comma.append (by decide) more) ih'

end Append

theorem Begins.not_allBlank {p : Nonterminal} {cs : List Char} (h : Begins p cs) :
    ¬ Text.allBlank cs := by
  obtain ⟨c, after, found, -⟩ := h
  intro blank
  have none : Text.skip cs = [] := List.dropWhile_eq_nil_iff.mpr (List.all_eq_true.mp blank)
  rw [found] at none
  cases none

/-- The whole text is an expression in which so many nested parts may be open. -/
def Phrase (room : Nat) (text : String) (e : Expr) : Prop :=
  ∃ rest, Derives room .expression text.toList e rest ∧ Text.skip rest = []

namespace Phrase

variable {room : Nat} {t u : String} {a b : Expr}

theorem not_allBlank (h : Phrase room t a) : ¬ Text.allBlank t.toList := by
  obtain ⟨rest, derived, -⟩ := h
  exact (derived.begins trivial).not_allBlank

/-- The text between parentheses is an operand of any rank. -/
theorem group (h : Phrase room t a) (after : List Char) :
    Derives room .negated ('(' :: (t.toList ++ ')' :: after)) a after := by
  obtain ⟨rest, derived, atEnd⟩ := h
  have opening : Symbol ['('] ('(' :: (t.toList ++ ')' :: after)) (t.toList ++ ')' :: after) :=
    symbol_cons (by decide) _
  have inside := derived.append (boundary_cons (c := ')') (by decide) (by decide) after)
  have closing : Symbol [')'] (rest ++ ')' :: after) after := by
    rw [Symbol, Text.skip_append_of_nil atEnd]
    exact symbol_cons (by decide) after
  have whole : Derives room .suffixed ('(' :: (t.toList ++ ')' :: after))
      (([] : List Suffix).foldl Suffix.on a) after :=
    .suffixed (.group opening inside closing) .noSuffix
  exact (Derives.unsigned whole).product_of_signed.sum_of_product.negated_of_sum

theorem not (h : Phrase room t a) : Phrase (room + 2) ("not (" ++ t ++ ")") (.not .none a) := by
  have text : ("not (" ++ t ++ ")").toList =
      ['n', 'o', 't'] ++ ' ' :: '(' :: (t.toList ++ [')']) := by
    simp
  have operand := (h.group []).spaced trivial
  have ends : Ends isIdentifierPart (' ' :: '(' :: (t.toList ++ [')'])) :=
    (boundary_cons (by decide) (by decide) _).ends
  have sign : NotSign (['n', 'o', 't'] ++ ' ' :: '(' :: (t.toList ++ [')']))
      (' ' :: '(' :: (t.toList ++ [')'])) :=
    .inr ⟨['n', 'o', 't'], by decide, symbol_append (by decide) _, ends⟩
  refine ⟨[], ?_, rfl⟩
  rw [text]
  exact .expression (Derives.negation sign operand).disjunction_of_negated

theorem and (h : Phrase room t a) (h' : Phrase room u b) :
    Phrase (room + 1) ("(" ++ t ++ ") and (" ++ u ++ ")") (.and .none [a, b]) := by
  have text : ("(" ++ t ++ ") and (" ++ u ++ ")").toList =
      '(' :: (t.toList ++
        ')' :: ' ' :: (['a', 'n', 'd'] ++ ' ' :: '(' :: (u.toList ++ [')']))) := by
    simp
  have ends : Ends isIdentifierPart (' ' :: '(' :: (u.toList ++ [')'])) :=
    (boundary_cons (by decide) (by decide) _).ends
  have sign : AndSign (' ' :: (['a', 'n', 'd'] ++ ' ' :: '(' :: (u.toList ++ [')'])))
      (' ' :: '(' :: (u.toList ++ [')'])) :=
    .inr ⟨['a', 'n', 'd'], by decide, (symbol_append (by decide) _).spaced, ends⟩
  have first := h.group (' ' :: (['a', 'n', 'd'] ++ ' ' :: '(' :: (u.toList ++ [')'])))
  have second := (h'.group []).spaced trivial
  have whole := Derives.conjunction first (.conjunct sign second .noConjunct)
  refine ⟨[], ?_, rfl⟩
  rw [text]
  exact .expression whole.disjunction_of_conjunction

theorem or (h : Phrase room t a) (h' : Phrase room u b) :
    Phrase (room + 1) ("(" ++ t ++ ") or (" ++ u ++ ")") (.or .none [a, b]) := by
  have text : ("(" ++ t ++ ") or (" ++ u ++ ")").toList =
      '(' :: (t.toList ++ ')' :: ' ' :: (['o', 'r'] ++ ' ' :: '(' :: (u.toList ++ [')']))) := by
    simp
  have ends : Ends isIdentifierPart (' ' :: '(' :: (u.toList ++ [')'])) :=
    (boundary_cons (by decide) (by decide) _).ends
  have sign : OrSign (' ' :: (['o', 'r'] ++ ' ' :: '(' :: (u.toList ++ [')'])))
      (' ' :: '(' :: (u.toList ++ [')'])) :=
    .inr ⟨['o', 'r'], by decide, (symbol_append (by decide) _).spaced, ends⟩
  have first := h.group (' ' :: (['o', 'r'] ++ ' ' :: '(' :: (u.toList ++ [')'])))
  have second := (h'.group []).spaced trivial
  have whole := Derives.disjunction first.conjunction_of_negated
    (.disjunct sign second.conjunction_of_negated .noDisjunct)
  refine ⟨[], ?_, rfl⟩
  rw [text]
  exact .expression whole

end Phrase

end Grammar

end RecordRules
