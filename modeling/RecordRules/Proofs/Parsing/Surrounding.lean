import RecordRules.Proofs.Parsing.Embedding

namespace RecordRules

open RecordRules.Text (isBlank)

theorem Text.skip_of_blank {cs : List Char} (blank : ∀ c ∈ cs, isBlank c) : skip cs = [] :=
  List.dropWhile_eq_nil_iff.mpr blank

namespace Grammar

variable {cs mid rest after : List Char}

/-- There are characters, and none of them is white space. -/
def Solid (symbol : List Char) : Prop :=
  symbol ≠ [] ∧ symbol.all (! isBlank ·)

instance (symbol : List Char) : Decidable (Solid symbol) :=
  inferInstanceAs (Decidable (_ ∧ _))

theorem Solid.notBlank {symbol : List Char} (h : Solid symbol) :
    ∀ c ∈ symbol, isBlank c = false := by
  intro c mem
  have all := List.all_eq_true.mp h.2 c mem
  rwa [Bool.not_eq_true'] at all

theorem Name.ne_nil {name : String} (h : Name name cs rest) : name.toList ≠ [] := by
  intro eq
  have identifier := h.identifier
  rw [eq] at identifier
  exact identifier

theorem solid_of_isIdentifierPart {symbol : List Char} (some : symbol ≠ [])
    (h : ∀ c ∈ symbol, Parser.isIdentifierPart c) : Solid symbol := by
  refine ⟨some, List.all_eq_true.mpr fun c mem => ?_⟩
  rw [isBlank_of_isIdentifierPart (h c mem)]
  rfl

/-! There is no white space in the signs of operators. -/

theorem compareSolid : ∀ s ∈ compareSigns, Solid s.2 := by
  decide

theorem additiveSolid : ∀ s ∈ additiveSigns, Solid s.2 := by
  decide

theorem multiplicativeSolid : ∀ s ∈ multiplicativeSigns, Solid s.2 := by
  decide

/-- The rest comes after some of the characters, of which the last one is not white space. -/
def Takes (cs rest : List Char) : Prop :=
  ∃ taken, cs = taken ++ rest ∧ ∀ c ∈ taken.getLast?, isBlank c = false

namespace Takes

theorem refl (cs : List Char) : Takes cs cs :=
  ⟨[], rfl, fun c mem => by cases mem⟩

theorem trans (h : Takes cs mid) (h' : Takes mid rest) : Takes cs rest := by
  obtain ⟨first, rfl, solid⟩ := h
  obtain ⟨second, rfl, solid'⟩ := h'
  refine ⟨first ++ second, (List.append_assoc _ _ _).symm, fun c mem => ?_⟩
  -- nothing may be taken the second time, and then the first part has the last character
  cases eq : second.getLast? with
  | none =>
    rw [List.getLast?_eq_none_iff.mp eq, List.append_nil] at mem
    exact solid c mem
  | some d =>
    rw [List.getLast?_append, eq, Option.some_or] at mem
    cases mem
    exact solid' c eq

theorem cons (h : Takes cs rest) (some : rest.length < cs.length) (c : Char) :
    Takes (c :: cs) rest := by
  obtain ⟨taken, rfl, solid⟩ := h
  refine ⟨c :: taken, rfl, ?_⟩
  cases taken with
  | nil => simp at some
  | cons d taken => rwa [List.getLast?_cons_cons]

theorem of_symbol {symbol : List Char} (h : Symbol symbol cs rest) (solid : Solid symbol) :
    Takes cs rest := by
  refine ⟨cs.takeWhile isBlank ++ symbol, ?_, fun c mem => ?_⟩
  · rw [List.append_assoc, ← h]
    exact List.takeWhile_append_dropWhile.symm
  · rw [List.getLast?_append_of_ne_nil _ solid.1] at mem
    exact solid.notBlank c (List.mem_of_getLast? mem)

theorem of_sign {symbols words : List (List Char)} (h : Sign symbols words cs rest)
    (solid : ∀ s ∈ symbols ++ words, Solid s) : Takes cs rest := by
  obtain ⟨s, mem, symbol⟩ := h.symbol
  exact of_symbol symbol (solid s mem)

theorem of_name {name : String} (h : Name name cs rest) : Takes cs rest :=
  of_symbol h.symbol (solid_of_isIdentifierPart h.ne_nil
    (isIdentifierPart_of_isIdentifier h.identifier))

theorem of_digits {digits : List Char} (h : Digits digits) (symbol : Symbol digits cs rest) :
    Takes cs rest :=
  of_symbol symbol (solid_of_isIdentifierPart h.1 fun c mem =>
    isIdentifierPart_of_isDigit (h.2 c mem))

theorem of_decimal {whole fraction : List Char} (h : Decimal whole fraction cs rest) :
    Takes cs rest := by
  have digits {part : List Char} (h : Digits part) : part.all (! isBlank ·) :=
    (solid_of_isIdentifierPart h.1 fun c mem => isIdentifierPart_of_isDigit (h.2 c mem)).2
  refine of_symbol h.symbol ⟨by simp, ?_⟩
  rw [List.all_append, List.all_cons, digits h.before, digits h.after]
  rfl

theorem of_quoted {value : List Char} (h : Quoted cs value rest) : Takes cs rest := by
  induction h with
  | @close rest => exact ⟨['"'], rfl, fun c mem => by cases mem; decide⟩
  | plain _ _ quoted ih => exact ih.cons quoted.length_lt _
  | escape _ quoted ih | noEscape _ quoted ih =>
    have lt := quoted.length_lt
    exact (ih.cons lt _).cons (by rw [List.length_cons]; omega) _

/-- Where white space ends a text, it ends the rest of what is taken of the text. -/
theorem of_blank (h : Takes (cs ++ after) rest) (blank : ∀ c ∈ after, isBlank c) :
    ∃ before, rest = before ++ after := by
  obtain ⟨taken, eq, solid⟩ := h
  obtain ⟨more, rfl, rfl⟩ | ⟨more, rfl, rfl⟩ := List.append_eq_append_iff.mp eq
  · -- what is taken would end with white space
    cases last : more.getLast? with
    | none =>
      rw [List.getLast?_eq_none_iff.mp last]
      exact ⟨[], rfl⟩
    | some c =>
      have notBlank := solid c (by rw [List.getLast?_append, last]; rfl)
      rw [blank c (List.mem_append_left _ (List.mem_of_getLast? last))] at notBlank
      cases notBlank
  · exact ⟨more, rfl⟩

end Takes

/-- A phrase ends with a character that is not white space. -/
theorem Derives.takes {room : Nat} {p : Nonterminal} {tree : p.Tree}
    (h : Derives room p cs tree rest) : Takes cs rest := by
  induction h with
  | expression _ ih | unnegated _ ih | uncompared _ ih | unsigned _ ih | lastExpression _ ih =>
    exact ih
  | noDisjunct | noConjunct | noSummand | noFactor | noSuffix => exact .refl _
  | disjunction _ _ ih ih' | conjunction _ _ ih ih' | sum _ _ ih ih' | product _ _ ih ih'
  | suffixed _ _ ih ih' => exact ih.trans ih'
  | disjunct h _ _ ih ih' | conjunct h _ _ ih ih' =>
    exact (Takes.of_sign h (by decide)).trans (ih.trans ih')
  | negation h _ ih => exact (Takes.of_sign h (by decide)).trans ih
  | compare _ mem h _ ih ih' =>
    exact ih.trans ((Takes.of_symbol h (compareSolid _ mem)).trans ih')
  | within _ h opening _ closing ih ih' =>
    have list := ((Takes.of_symbol opening (by decide)).trans ih').trans
      (.of_symbol closing (by decide))
    exact ih.trans ((Takes.of_sign h (by decide)).trans list)
  | summand mem h _ _ ih ih' =>
    exact (Takes.of_symbol h (additiveSolid _ mem)).trans (ih.trans ih')
  | factor mem h _ _ ih ih' =>
    exact (Takes.of_symbol h (multiplicativeSolid _ mem)).trans (ih.trans ih')
  | negative h _ ih => exact (Takes.of_symbol h (by decide)).trans ih
  | member point name _ ih =>
    exact (Takes.of_symbol point (by decide)).trans ((Takes.of_name name).trans ih)
  | method point name _ _ ih ih' =>
    exact (Takes.of_symbol point (by decide)).trans ((Takes.of_name name).trans (ih.trans ih'))
  | group opening _ closing ih | arguments opening _ closing ih =>
    exact (Takes.of_symbol opening (by decide)).trans (ih.trans (.of_symbol closing (by decide)))
  | string opening quoted => exact (Takes.of_symbol opening (by decide)).trans (.of_quoted quoted)
  | int digits => exact .of_digits digits.all digits.symbol
  | float digits => exact .of_decimal digits
  | bool _ name => exact .of_name name
  | ident name => exact .of_name name
  | call name _ _ ih => exact (Takes.of_name name).trans ih
  | noArguments opening closing =>
    exact (Takes.of_symbol opening (by decide)).trans (.of_symbol closing (by decide))
  | lambda opening param arrow _ closing ih =>
    have body := (Takes.of_symbol arrow (by decide)).trans ih
    exact (Takes.of_symbol opening (by decide)).trans
      ((Takes.of_name param).trans (body.trans (.of_symbol closing (by decide))))
  | moreExpressions _ comma _ ih ih' =>
    exact ih.trans ((Takes.of_symbol comma (by decide)).trans ih')

theorem Takes.exists_append (h : Takes cs (rest ++ after)) : ∃ before, cs = before ++ after := by
  obtain ⟨taken, rfl, -⟩ := h
  exact ⟨taken ++ rest, (List.append_assoc _ _ _).symm⟩

theorem Ends.strip {accepts : Char → Bool} (h : Ends accepts (rest ++ after)) :
    Ends accepts rest := by
  intro c mem
  exact h c (by rw [List.head?_append, mem]; rfl)

theorem not_fraction_strip (h : ¬ Fraction (rest ++ after)) : ¬ Fraction rest := by
  rintro ⟨digit, others, rfl, isDigit⟩
  exact h ⟨digit, others ++ after, rfl, isDigit⟩

theorem Quoted.strip {value : List Char} (h : Quoted (cs ++ after) value (rest ++ after)) :
    Quoted cs value rest := by
  generalize hwhole : cs ++ after = whole at h
  generalize hleft : rest ++ after = left at h
  induction h generalizing cs with
  | close =>
    subst hleft
    rw [← List.cons_append] at hwhole
    rw [List.append_cancel_right hwhole]
    exact .close
  | plain quote backslash quoted ih =>
    subst hleft
    obtain ⟨before, rfl⟩ := (Takes.of_quoted quoted).exists_append
    rw [← List.cons_append] at hwhole
    rw [List.append_cancel_right hwhole]
    exact .plain quote backslash (ih rfl rfl)
  | escape mem quoted ih =>
    subst hleft
    obtain ⟨before, rfl⟩ := (Takes.of_quoted quoted).exists_append
    rw [← List.cons_append, ← List.cons_append] at hwhole
    rw [List.append_cancel_right hwhole]
    exact .escape mem (ih rfl rfl)
  | noEscape unknown quoted ih =>
    subst hleft
    obtain ⟨before, rfl⟩ := (Takes.of_quoted quoted).exists_append
    rw [← List.cons_append, ← List.cons_append] at hwhole
    rw [List.append_cancel_right hwhole]
    exact .noEscape unknown (ih rfl rfl)

section Strip

variable (blank : ∀ c ∈ after, isBlank c)
include blank

theorem Symbol.strip {symbol : List Char} (h : Symbol symbol (cs ++ after) (rest ++ after))
    (some : symbol ≠ []) : Symbol symbol cs rest := by
  by_cases found : Text.skip cs = []
  · rw [Symbol, Text.skip_append_of_nil found, Text.skip_of_blank blank] at h
    exact absurd (List.append_eq_nil_iff.mp h.symm).1 some
  · rw [Symbol, Text.skip_append found, ← List.append_assoc] at h
    exact List.append_cancel_right h

theorem Sign.strip {symbols words : List (List Char)}
    (h : Sign symbols words (cs ++ after) (rest ++ after))
    (some : ∀ s ∈ symbols ++ words, s ≠ []) : Sign symbols words cs rest := by
  rcases h with ⟨s, mem, symbol⟩ | ⟨w, mem, symbol, ends⟩
  · exact .inl ⟨s, mem, symbol.strip blank (some s (List.mem_append_left words mem))⟩
  · exact .inr ⟨w, mem, symbol.strip blank (some w (List.mem_append_right symbols mem)), ends.strip⟩

theorem Name.strip {name : String} (h : Name name (cs ++ after) (rest ++ after)) :
    Name name cs rest :=
  ⟨h.identifier, h.symbol.strip blank h.ne_nil, h.ends.strip⟩

theorem Whole.strip {digits : List Char} (h : Whole digits (cs ++ after) (rest ++ after)) :
    Whole digits cs rest :=
  ⟨h.all, h.symbol.strip blank h.all.1, h.ends.strip, not_fraction_strip h.noFraction⟩

theorem Decimal.strip {whole fraction : List Char}
    (h : Decimal whole fraction (cs ++ after) (rest ++ after)) : Decimal whole fraction cs rest :=
  ⟨h.before, h.after, h.symbol.strip blank (by simp), h.ends.strip⟩

/-- White space at the end of a text has no part in a phrase that leaves it. -/
theorem Derives.strip {room : Nat} {p : Nonterminal} {tree : p.Tree}
    (h : Derives room p (cs ++ after) tree (rest ++ after)) : Derives room p cs tree rest := by
  generalize hwhole : cs ++ after = whole at h
  generalize hleft : rest ++ after = left at h
  -- what is left at the end is left at every point before
  induction h generalizing cs rest with
  | expression _ ih => exact .expression (ih hwhole hleft)
  | unnegated _ ih => exact .unnegated (ih hwhole hleft)
  | uncompared _ ih => exact .uncompared (ih hwhole hleft)
  | unsigned _ ih => exact .unsigned (ih hwhole hleft)
  | lastExpression _ ih => exact .lastExpression (ih hwhole hleft)
  | noDisjunct =>
    rw [List.append_cancel_right (hwhole.trans hleft.symm)]
    exact .noDisjunct
  | noConjunct =>
    rw [List.append_cancel_right (hwhole.trans hleft.symm)]
    exact .noConjunct
  | noSummand =>
    rw [List.append_cancel_right (hwhole.trans hleft.symm)]
    exact .noSummand
  | noFactor =>
    rw [List.append_cancel_right (hwhole.trans hleft.symm)]
    exact .noFactor
  | noSuffix =>
    rw [List.append_cancel_right (hwhole.trans hleft.symm)]
    exact .noSuffix
  | disjunction _ later ih ih' =>
    subst hwhole hleft
    obtain ⟨mid, rfl⟩ := later.takes.exists_append
    exact .disjunction (ih rfl rfl) (ih' rfl rfl)
  | disjunct sign first later ih ih' =>
    subst hwhole hleft
    obtain ⟨mid, rfl⟩ := later.takes.exists_append
    obtain ⟨start, rfl⟩ := first.takes.exists_append
    exact .disjunct (sign.strip blank (by decide)) (ih rfl rfl) (ih' rfl rfl)
  | conjunction _ later ih ih' =>
    subst hwhole hleft
    obtain ⟨mid, rfl⟩ := later.takes.exists_append
    exact .conjunction (ih rfl rfl) (ih' rfl rfl)
  | conjunct sign first later ih ih' =>
    subst hwhole hleft
    obtain ⟨mid, rfl⟩ := later.takes.exists_append
    obtain ⟨start, rfl⟩ := first.takes.exists_append
    exact .conjunct (sign.strip blank (by decide)) (ih rfl rfl) (ih' rfl rfl)
  | negation sign operand ih =>
    subst hwhole hleft
    obtain ⟨start, rfl⟩ := operand.takes.exists_append
    exact .negation (sign.strip blank (by decide)) (ih rfl rfl)
  | compare _ mem sign rhs ih ih' =>
    subst hwhole hleft
    obtain ⟨start, rfl⟩ := rhs.takes.exists_append
    have taken := Takes.of_symbol sign (compareSolid _ mem)
    obtain ⟨mid, rfl⟩ := taken.exists_append
    exact .compare (ih rfl rfl) mem (sign.strip blank (compareSolid _ mem).1) (ih' rfl rfl)
  | within _ sign opening set closing ih ih' =>
    subst hwhole hleft
    obtain ⟨stop, rfl⟩ := (Takes.of_symbol closing (by decide)).exists_append
    obtain ⟨start, rfl⟩ := set.takes.exists_append
    obtain ⟨list, rfl⟩ := (Takes.of_symbol opening (by decide)).exists_append
    obtain ⟨mid, rfl⟩ := (Takes.of_sign sign (by decide)).exists_append
    exact .within (ih rfl rfl) (sign.strip blank (by decide)) (opening.strip blank (by decide))
      (ih' rfl rfl) (closing.strip blank (by decide))
  | sum _ later ih ih' =>
    subst hwhole hleft
    obtain ⟨mid, rfl⟩ := later.takes.exists_append
    exact .sum (ih rfl rfl) (ih' rfl rfl)
  | summand mem sign first later ih ih' =>
    subst hwhole hleft
    obtain ⟨mid, rfl⟩ := later.takes.exists_append
    obtain ⟨start, rfl⟩ := first.takes.exists_append
    exact .summand mem (sign.strip blank (additiveSolid _ mem).1) (ih rfl rfl) (ih' rfl rfl)
  | product _ later ih ih' =>
    subst hwhole hleft
    obtain ⟨mid, rfl⟩ := later.takes.exists_append
    exact .product (ih rfl rfl) (ih' rfl rfl)
  | factor mem sign first later ih ih' =>
    subst hwhole hleft
    obtain ⟨mid, rfl⟩ := later.takes.exists_append
    obtain ⟨start, rfl⟩ := first.takes.exists_append
    exact .factor mem (sign.strip blank (multiplicativeSolid _ mem).1) (ih rfl rfl) (ih' rfl rfl)
  | negative sign operand ih =>
    subst hwhole hleft
    obtain ⟨start, rfl⟩ := operand.takes.exists_append
    exact .negative (sign.strip blank (by decide)) (ih rfl rfl)
  | suffixed _ later ih ih' =>
    subst hwhole hleft
    obtain ⟨mid, rfl⟩ := later.takes.exists_append
    exact .suffixed (ih rfl rfl) (ih' rfl rfl)
  | member point name later ih =>
    subst hwhole hleft
    obtain ⟨mid, rfl⟩ := later.takes.exists_append
    obtain ⟨start, rfl⟩ := (Takes.of_name name).exists_append
    exact .member (point.strip blank (by decide)) (name.strip blank) (ih rfl rfl)
  | method point name args later ih ih' =>
    subst hwhole hleft
    obtain ⟨mid, rfl⟩ := later.takes.exists_append
    obtain ⟨list, rfl⟩ := args.takes.exists_append
    obtain ⟨start, rfl⟩ := (Takes.of_name name).exists_append
    exact .method (point.strip blank (by decide)) (name.strip blank) (ih rfl rfl) (ih' rfl rfl)
  | group opening inside closing ih =>
    subst hwhole hleft
    obtain ⟨stop, rfl⟩ := (Takes.of_symbol closing (by decide)).exists_append
    obtain ⟨start, rfl⟩ := inside.takes.exists_append
    exact .group (opening.strip blank (by decide)) (ih rfl rfl) (closing.strip blank (by decide))
  | string opening quoted =>
    subst hwhole hleft
    obtain ⟨start, rfl⟩ := (Takes.of_quoted quoted).exists_append
    exact .string (opening.strip blank (by decide)) quoted.strip
  | int digits value =>
    subst hwhole hleft
    exact .int (digits.strip blank) value
  | float digits =>
    subst hwhole hleft
    exact .float (digits.strip blank)
  | bool mem name =>
    subst hwhole hleft
    exact .bool mem (name.strip blank)
  | ident name free =>
    subst hwhole hleft
    exact .ident (name.strip blank) free
  | call name free args ih =>
    subst hwhole hleft
    obtain ⟨list, rfl⟩ := args.takes.exists_append
    exact .call (name.strip blank) free (ih rfl rfl)
  | noArguments opening closing =>
    subst hwhole hleft
    obtain ⟨stop, rfl⟩ := (Takes.of_symbol closing (by decide)).exists_append
    exact .noArguments (opening.strip blank (by decide)) (closing.strip blank (by decide))
  | lambda opening param arrow body closing ih =>
    subst hwhole hleft
    obtain ⟨stop, rfl⟩ := (Takes.of_symbol closing (by decide)).exists_append
    obtain ⟨inside, rfl⟩ := body.takes.exists_append
    obtain ⟨mid, rfl⟩ := (Takes.of_symbol arrow (by decide)).exists_append
    obtain ⟨start, rfl⟩ := (Takes.of_name param).exists_append
    exact .lambda (opening.strip blank (by decide)) (param.strip blank)
      (arrow.strip blank (by decide)) (ih rfl rfl) (closing.strip blank (by decide))
  | arguments opening inside closing ih =>
    subst hwhole hleft
    obtain ⟨stop, rfl⟩ := (Takes.of_symbol closing (by decide)).exists_append
    obtain ⟨start, rfl⟩ := inside.takes.exists_append
    exact .arguments (opening.strip blank (by decide)) (ih rfl rfl)
      (closing.strip blank (by decide))
  | moreExpressions _ comma others ih ih' =>
    subst hwhole hleft
    obtain ⟨start, rfl⟩ := others.takes.exists_append
    obtain ⟨mid, rfl⟩ := (Takes.of_symbol comma (by decide)).exists_append
    exact .moreExpressions (ih rfl rfl) (comma.strip blank (by decide)) (ih' rfl rfl)

end Strip

theorem boundary_of_blank {cs : List Char} (blank : ∀ c ∈ cs, isBlank c) : Boundary cs := by
  cases cs with
  | nil => exact boundary_nil
  | cons c cs =>
    have hc := blank c List.mem_cons_self
    have part : Parser.isIdentifierPart c = false := by
      by_contra part
      rw [Bool.not_eq_false] at part
      rw [isBlank_of_isIdentifierPart part] at hc
      cases hc
    have point : c ≠ '.' := by
      rintro rfl
      cases hc
    exact boundary_cons part point cs

/-- White space around a text makes no difference to what the grammar derives from it. -/
theorem isText_surrounded {before after : List Char} (hbefore : ∀ c ∈ before, isBlank c)
    (hafter : ∀ c ∈ after, isBlank c) {text surrounded : String}
    (whole : surrounded.toList = before ++ text.toList ++ after) (e : Expr) :
    IsText surrounded e ↔ IsText text e := by
  have same : Text.skip (text.toList ++ after) = Text.skip surrounded.toList := by
    rw [whole, List.append_assoc, Text.skip_append_of_nil (Text.skip_of_blank hbefore)]
  constructor
  · rintro ⟨rest, derived, atEnd⟩
    have derived := derived.of_skip trivial same
    obtain ⟨rest, rfl⟩ := derived.takes.of_blank hafter
    refine ⟨rest, derived.strip hafter, ?_⟩
    have blank := List.dropWhile_eq_nil_iff.mp atEnd
    exact Text.skip_of_blank fun c mem => blank c (List.mem_append_left after mem)
  · rintro ⟨rest, derived, atEnd⟩
    have boundary := boundary_of_blank hafter
    refine ⟨rest ++ after, (derived.append boundary).of_skip trivial same.symm, ?_⟩
    rw [Text.skip_append_of_nil atEnd, Text.skip_of_blank hafter]

end Grammar

end RecordRules
