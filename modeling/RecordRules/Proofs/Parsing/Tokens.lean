import RecordRules.Proofs.Parsing.TokenCompleteness

namespace RecordRules.Grammar

open RecordRules.Parser (isIdentifierStart isIdentifierPart reserved)

variable {cs cs' rest : List Char} {name : String}

theorem Symbol.length_lt {symbol : List Char} (h : Symbol symbol cs rest) (some : symbol ≠ []) :
    rest.length < cs.length := by
  have le := Text.length_skip_le cs
  have pos := List.length_pos_iff.mpr some
  rw [h, List.length_append] at le
  omega

theorem Symbol.length_le {symbol : List Char} (h : Symbol symbol cs rest) :
    rest.length ≤ cs.length := by
  have le := Text.length_skip_le cs
  rw [h, List.length_append] at le
  omega

theorem Sign.symbol {symbols words : List (List Char)} (h : Sign symbols words cs rest) :
    ∃ s ∈ symbols ++ words, Symbol s cs rest := by
  obtain ⟨s, mem, h⟩ | ⟨w, mem, h, -⟩ := h
  · exact ⟨s, List.mem_append_left words mem, h⟩
  · exact ⟨w, List.mem_append_right symbols mem, h⟩

theorem Sign.of_skip {symbols words : List (List Char)} (h : Sign symbols words cs rest)
    (same : Text.skip cs' = Text.skip cs) : Sign symbols words cs' rest := by
  obtain ⟨s, mem, h⟩ | ⟨w, mem, h, ends⟩ := h
  · exact .inl ⟨s, mem, same.trans h⟩
  · exact .inr ⟨w, mem, same.trans h, ends⟩

/-- A sign takes some of the text. -/
theorem Sign.length_lt {symbols words : List (List Char)} (h : Sign symbols words cs rest)
    (some : ∀ s ∈ symbols ++ words, s ≠ []) : rest.length < cs.length := by
  obtain ⟨s, mem, h⟩ := h.symbol
  exact h.length_lt (some s mem)

/-- A text that goes on with the symbol goes on with no other characters. -/
theorem Symbol.heads_ne {symbol chars : List Char} (h : Symbol symbol cs rest)
    (other : symbol.head?.any (· ∉ chars)) : ∀ c ∈ chars, (Text.skip cs).head? ≠ some c := by
  obtain ⟨first, hfirst, other⟩ := (Option.any_eq_true _ _).mp other
  obtain ⟨tail, rfl⟩ := List.head?_eq_some_iff.mp hfirst
  intro c mem eq
  rw [h] at eq
  cases eq
  exact of_decide_eq_true other mem

theorem Sign.heads_ne {symbols words : List (List Char)} {chars : List Char}
    (h : Sign symbols words cs rest) (others : ∀ s ∈ symbols ++ words, s.head?.any (· ∉ chars)) :
    ∀ c ∈ chars, (Text.skip cs).head? ≠ some c := by
  obtain ⟨s, mem, h⟩ := h.symbol
  exact h.heads_ne (others s mem)

theorem Quoted.length_lt {value : List Char} (h : Quoted cs value rest) :
    rest.length < cs.length := by
  induction h with
  | close => simp
  | plain _ _ _ ih | escape _ _ ih | noEscape _ _ ih =>
    simp only [List.length_cons]
    omega

theorem isIdentifierPart_of_isIdentifierStart {c : Char} (h : isIdentifierStart c) :
    isIdentifierPart c := by
  simp only [isIdentifierStart, isIdentifierPart, Char.isAlphanum, Bool.or_eq_true] at h ⊢
  rcases h with h | h
  · exact .inl (.inl h)
  · exact .inr h

theorem isIdentifierStart_of_isDigit {c : Char} (h : c.isDigit) : isIdentifierStart c = false := by
  have start : isIdentifierStart c = ((decide ('A'.val ≤ c.val ∧ c.val ≤ 'Z'.val) ||
      ('a'.val ≤ c.val && c.val ≤ 'z'.val)) || c == '_') := rfl
  rw [start]
  simp only [Char.isDigit, Bool.and_eq_true, decide_eq_true_eq, Bool.or_eq_false_iff,
    Bool.and_eq_false_iff, decide_eq_false_iff_not, beq_eq_false_iff_ne,
    UInt32.le_iff_toNat_le] at h ⊢
  have nine : '9'.val.toNat = 57 := rfl
  have A : 'A'.val.toNat = 65 := rfl
  have a : 'a'.val.toNat = 97 := rfl
  have underscore : '_'.val.toNat = 95 := rfl
  refine ⟨⟨by omega, by omega⟩, ?_⟩
  rintro rfl
  omega

theorem isIdentifierPart_of_isIdentifier {word : List Char} (h : IsIdentifier word) :
    ∀ c ∈ word, isIdentifierPart c := by
  cases word with
  | nil => exact h.elim
  | cons first others =>
    exact List.forall_mem_cons.mpr ⟨isIdentifierPart_of_isIdentifierStart h.1, List.all_eq_true.mp h.2⟩

/-- The identifier at the beginning of a text is the only one there. -/
theorem Name.unique {other : String} {rest' : List Char} (h : Name name cs rest)
    (h' : Name other cs rest') : name = other ∧ rest = rest' := by
  obtain ⟨taken, dropped⟩ :=
    takeWhile_of_ends (isIdentifierPart_of_isIdentifier h.identifier) h.ends
  obtain ⟨taken', dropped'⟩ :=
    takeWhile_of_ends (isIdentifierPart_of_isIdentifier h'.identifier) h'.ends
  rw [← h.symbol] at taken dropped
  rw [← h'.symbol] at taken' dropped'
  exact ⟨String.toList_injective (taken.symm.trans taken'), dropped.symm.trans dropped'⟩

/-- A text that begins with an identifier begins with a letter or an underscore. -/
theorem Name.head (h : Name name cs rest) :
    ∃ c after, Text.skip cs = c :: after ∧ isIdentifierStart c := by
  have identifier := h.identifier
  have symbol : Text.skip cs = name.toList ++ rest := h.symbol
  cases eq : name.toList with
  | nil =>
    rw [eq] at identifier
    exact identifier.elim
  | cons first others =>
    rw [eq] at identifier symbol
    exact ⟨first, others ++ rest, symbol, identifier.1⟩

theorem Name.of_skip (h : Name name cs rest) (same : Text.skip cs' = Text.skip cs) :
    Name name cs' rest :=
  { h with symbol := same.trans h.symbol }

theorem Keyword.isName {word : List Char} (h : Keyword word cs rest)
    (identifier : IsIdentifier word) : Name (String.ofList word) cs rest := by
  obtain ⟨symbol, ends⟩ := h
  refine ⟨?_, ?_, ends⟩
  · rwa [String.toList_ofList]
  · rwa [String.toList_ofList]

/-- Where an identifier may begin, there is one. -/
theorem exists_name (h : ¬ Ends isIdentifierStart (Text.skip cs)) :
    ∃ name rest, Name name cs rest := by
  cases eq : Text.skip cs with
  | nil =>
    rw [eq] at h
    exact absurd (fun c hc => by cases hc) h
  | cons c others =>
    rw [eq] at h
    have start : isIdentifierStart c := by
      by_contra other
      refine h fun d hd => ?_
      cases hd
      simpa using other
    have all : ∀ d ∈ others.takeWhile isIdentifierPart, isIdentifierPart d :=
      fun d hd => List.mem_takeWhile_imp hd
    refine ⟨String.ofList (c :: others.takeWhile isIdentifierPart),
      others.dropWhile isIdentifierPart, ?_, ?_, ends_dropWhile isIdentifierPart others⟩
    · rw [String.toList_ofList]
      exact ⟨start, List.all_eq_true.mpr all⟩
    · rw [Symbol, String.toList_ofList, List.cons_append, List.takeWhile_append_dropWhile, eq]

theorem Name.length_lt (h : Name name cs rest) : rest.length < cs.length := by
  refine h.symbol.length_lt fun eq => ?_
  have identifier := h.identifier
  rw [eq] at identifier
  exact identifier

end RecordRules.Grammar
