import Mathlib.Data.List.DropRight
import RecordRules.Proofs.Parsing.Grammar
import RecordRules.Proofs.Parsing.Logic

namespace RecordRules

theorem Text.skip_skip (cs : List Char) : skip (skip cs) = skip cs := by
  unfold skip
  exact List.dropWhile_idempotent _ cs

theorem Text.skip_of_head {c : Char} {cs : List Char} (h : isBlank c = false) :
    skip (c :: cs) = c :: cs := by
  rw [skip, List.dropWhile_cons_of_neg (by simp [h])]

theorem Text.length_skip_le (cs : List Char) : (skip cs).length ≤ cs.length :=
  (List.dropWhile_suffix _).length_le

open Grammar

theorem Grammar.ends_dropWhile (accepts : Char → Bool) (cs : List Char) :
    Ends accepts (cs.dropWhile accepts) := by
  intro c hc
  have found := List.head?_dropWhile_not accepts cs
  rw [hc] at found
  simpa using found

/-- A word followed by something else is what is taken of a text. -/
theorem Grammar.takeWhile_of_ends {accepts : Char → Bool} {word rest : List Char}
    (all : ∀ c ∈ word, accepts c) (ends : Ends accepts rest) :
    (word ++ rest).takeWhile accepts = word ∧ (word ++ rest).dropWhile accepts = rest := by
  induction word with
  | nil =>
    cases rest with
    | nil => exact ⟨rfl, rfl⟩
    | cons c rest =>
      have other : accepts c = false := ends c rfl
      constructor
      · rw [List.nil_append, List.takeWhile_cons_of_neg (by simp [other])]
      · rw [List.nil_append, List.dropWhile_cons_of_neg (by simp [other])]
  | cons c word ih =>
    obtain ⟨first, others⟩ := List.forall_mem_cons.mp all
    obtain ⟨taken, dropped⟩ := ih others
    constructor
    · rw [List.cons_append, List.takeWhile_cons_of_pos first, taken]
    · rw [List.cons_append, List.dropWhile_cons_of_pos first, dropped]

namespace Parser

variable {n : Nat} {cs rest : List Char}

theorem unescaped_of_mem {c meaning : Char} (mem : (c, meaning) ∈ escapes) :
    unescaped c = [meaning] := by
  have all : ∀ p ∈ escapes, unescaped p.1 = [p.2] := by decide
  exact all _ mem

theorem unescaped_of_notMem {c : Char} (unknown : c ∉ escapes.map Prod.fst) :
    unescaped c = ['\\', c] := by
  simp only [escapes, List.map_cons, List.map_nil, List.mem_cons, List.not_mem_nil, or_false,
    not_or] at unknown
  obtain ⟨quote, backslash, n, t⟩ := unknown
  unfold unescaped
  split
  next => exact absurd rfl quote
  next => exact absurd rfl backslash
  next => exact absurd rfl n
  next => exact absurd rfl t
  next => rfl

namespace Declines

theorem satisfy {accepts : Char → Bool} (ends : Ends accepts cs) :
    Declines (satisfy accepts) n cs := by
  intro offset
  cases cs with
  | nil => exact ⟨[], _, rfl⟩
  | cons c rest =>
    have refused : accepts c = false := ends c rfl
    exact ⟨[], ⟨c :: rest, offset, n⟩, by simp [Parser.satisfy, refused]⟩

theorem character {c : Char} (other : cs.head? ≠ some c) : Declines (character c) n cs := by
  refine bind (satisfy fun d hd => ?_)
  rw [beq_eq_false_iff_ne]
  rintro rfl
  exact other hd

theorem word {w : List Char} (other : ¬ w <+: cs) : Declines (word w) n cs := by
  intro offset
  refine ⟨[], ⟨cs, offset, n⟩, ?_⟩
  rw [← List.isPrefixOf_iff_prefix] at other
  rw [Parser.word, if_neg other]

theorem takeWhile1 {accepts : Char → Bool} (ends : Ends accepts cs) :
    Declines (takeWhile1 accepts) n cs :=
  bind (satisfy ends)

theorem notFollowedBy {accepts : Char → Bool} (follows : ¬ Ends accepts cs) :
    Declines (notFollowedBy accepts) n cs := by
  intro offset
  cases cs with
  | nil => exact absurd (fun _ h => by cases h) follows
  | cons c rest =>
    have accepted : accepts c = true := by
      by_contra refused
      refine follows fun d hd => ?_
      cases hd
      simpa using refused
    exact ⟨[], ⟨c :: rest, offset, n⟩, by simp [Parser.notFollowedBy, accepted]⟩

theorem identifier (ends : Ends isIdentifierStart cs) : Declines identifier n cs :=
  bind (satisfy ends)

theorem stringLiteral (other : cs.head? ≠ some '"') : Declines stringLiteral n cs :=
  bind (character other)

theorem number (ends : Ends Char.isDigit cs) : Declines number n cs :=
  bind (takeWhile1 ends)

theorem stringPiece (rest : List Char) : Declines stringPiece n ('"' :: rest) :=
  fun _ => ⟨[], _, rfl⟩

end Declines

namespace Yields

variable {limits : List Expectation}

theorem space (cs : List Char) : Yields limits space n cs (fun _ => True) (Text.skip cs) :=
  of_ok fun _ => ⟨(), _, rfl, trivial⟩

theorem satisfy {accepts : Char → Bool} {c : Char} (accepted : accepts c) (rest : List Char) :
    Yields limits (satisfy accepts) n (c :: rest) (· = c) rest :=
  of_ok fun offset => ⟨c, offset + c.utf8Size, by simp [Parser.satisfy, accepted], rfl⟩

theorem character (c : Char) (rest : List Char) :
    Yields limits (character c) n (c :: rest) (fun _ => True) rest :=
  (satisfy (BEq.rfl) rest).bind fun _ _ => pure trivial

theorem word (w rest : List Char) : Yields limits (word w) n (w ++ rest) (fun _ => True) rest := by
  refine of_ok fun offset => ?_
  have isPrefix : w.isPrefixOf (w ++ rest) := List.isPrefixOf_iff_prefix.mpr ⟨rest, rfl⟩
  exact ⟨(), _, by rw [Parser.word, if_pos isPrefix, List.drop_left], trivial⟩

theorem takeWhile {accepts : Char → Bool} {w : List Char} (all : ∀ c ∈ w, accepts c)
    (ends : Ends accepts rest) : Yields limits (takeWhile accepts) n (w ++ rest) (· = w) rest := by
  refine of_ok fun offset => ?_
  obtain ⟨taken, dropped⟩ := takeWhile_of_ends all ends
  exact ⟨w, _, by rw [Parser.takeWhile, taken, dropped], rfl⟩

theorem takeWhile1 {accepts : Char → Bool} {w : List Char} (some : w ≠ [])
    (all : ∀ c ∈ w, accepts c) (ends : Ends accepts rest) :
    Yields limits (takeWhile1 accepts) n (w ++ rest) (· = w) rest := by
  cases w with
  | nil => exact absurd rfl some
  | cons c w =>
    obtain ⟨first, others⟩ := List.forall_mem_cons.mp all
    refine (satisfy first (w ++ rest)).bind fun _ hc => ?_
    refine (takeWhile others ends).bind fun _ hw => pure ?_
    rw [hc, hw]

theorem takeWhile1_some {accepts : Char → Bool} {c : Char} (accepted : accepts c)
    (rest : List Char) :
    Yields limits (Parser.takeWhile1 accepts) n (c :: rest) (fun _ => True)
      (rest.dropWhile accepts) := by
  refine (satisfy accepted rest).bind fun first _ => ?_
  exact of_ok fun offset => ⟨first :: rest.takeWhile accepts, _, rfl, trivial⟩

theorem notFollowedBy {accepts : Char → Bool} (ends : Ends accepts cs) :
    Yields limits (notFollowedBy accepts) n cs (fun _ => True) cs := by
  refine of_ok fun offset => ?_
  cases cs with
  | nil => exact ⟨(), offset, rfl, trivial⟩
  | cons c rest =>
    have refused : accepts c = false := ends c rfl
    exact ⟨(), offset, by simp [Parser.notFollowedBy, refused], trivial⟩

theorem endOfText : Yields limits endOfText n [] (fun _ => True) [] :=
  of_ok fun offset => ⟨(), offset, rfl, trivial⟩

theorem identifier {name : String} (isIdentifier : IsIdentifier name.toList)
    (ends : Ends isIdentifierPart rest) :
    Yields limits identifier n (name.toList ++ rest) (· = name) rest := by
  cases eq : name.toList with
  | nil =>
    rw [eq] at isIdentifier
    cases isIdentifier
  | cons first others =>
    rw [eq] at isIdentifier
    refine (satisfy isIdentifier.1 (others ++ rest)).bind fun _ hfirst => ?_
    refine (takeWhile (List.all_eq_true.mp isIdentifier.2) ends).bind fun _ hothers => pure ?_
    rw [hfirst, hothers, ← eq, String.ofList_toList]

theorem keyword {w : List Char} (ends : Ends isIdentifierPart rest) :
    Yields limits (keyword w) n (w ++ rest) (fun _ => True) rest :=
  (word w rest).bind fun _ _ => notFollowedBy ends

theorem plainPiece {c : Char} (quote : c ≠ '"') (backslash : c ≠ '\\') :
    Yields limits stringPiece n (c :: rest) (· = [c]) rest := by
  refine of_ok fun offset => ⟨[c], offset + c.utf8Size, ?_, rfl⟩
  unfold Parser.stringPiece
  split <;> simp_all

theorem escapedPiece (c : Char) :
    Yields limits stringPiece n ('\\' :: c :: rest) (· = unescaped c) rest :=
  of_ok fun _ => ⟨unescaped c, _, rfl, rfl⟩

/-- The inside of a string, piece by piece up to the quote that ends it. -/
theorem repeated_of_quoted {value : List Char} (quoted : Quoted cs value rest) :
    ∃ pieces : List (List Char), pieces.flatten = value ∧
      Repeated limits stringPiece n (fun piece found => found = piece) cs pieces ('"' :: rest) := by
  induction quoted with
  | close => exact ⟨[], rfl, .stop (.stringPiece _)⟩
  | plain quote backslash _ ih =>
    obtain ⟨pieces, rfl, repeated⟩ := ih
    exact ⟨_ :: pieces, rfl, .more (plainPiece quote backslash) (by simp) repeated⟩
  | escape mem _ ih =>
    obtain ⟨pieces, rfl, repeated⟩ := ih
    refine ⟨_ :: pieces, ?_, .more (escapedPiece _) (by simp only [List.length_cons]; omega) repeated⟩
    rw [unescaped_of_mem mem, List.flatten_cons, List.singleton_append]
  | noEscape unknown _ ih =>
    obtain ⟨pieces, rfl, repeated⟩ := ih
    refine ⟨_ :: pieces, ?_, .more (escapedPiece _) (by simp only [List.length_cons]; omega) repeated⟩
    rw [unescaped_of_notMem unknown, List.flatten_cons]
    rfl

theorem stringLiteral {start value : List Char} (quoted : Quoted start value rest) :
    Yields limits stringLiteral n ('"' :: start) (· = String.ofList value) rest := by
  obtain ⟨pieces, rfl, repeated⟩ := repeated_of_quoted quoted
  refine (character '"' start).bind fun _ _ => (many repeated).bind fun found hfound => ?_
  refine (character '"' rest).bind fun _ _ => pure ?_
  have same : pieces = found := by
    rw [← List.forall₂_eq_eq_eq]
    exact hfound.imp fun _ _ => Eq.symm
  rw [same]

end Yields

theorem Declines.fraction (noFraction : ¬ Fraction rest) :
    Declines (do Parser.character '.'; Parser.takeWhile1 Char.isDigit) n rest := by
  by_cases point : rest.head? = some '.'
  · obtain ⟨after, rfl⟩ := List.head?_eq_some_iff.mp point
    refine .bind_later (Yields.character '.' after) fun _ _ => .takeWhile1 fun c hc => ?_
    by_contra isDigit
    obtain ⟨others, rfl⟩ := List.head?_eq_some_iff.mp hc
    exact noFraction ⟨c, others, rfl, by simpa using isDigit⟩
  · exact .bind (.character point)

namespace Yields

variable {limits : List Expectation}

theorem number_whole {digits : List Char} {value : Int64} (all : Digits digits)
    (ends : Ends Char.isDigit rest) (noFraction : ¬ Fraction rest)
    (fits : value.toInt = (digitsValue digits : Int)) :
    Yields limits number n (digits ++ rest) (· = .int value) rest := by
  refine (takeWhile1 all.1 all.2 ends).bind fun _ hdigits =>
    (opt_none (.fraction noFraction)).bind fun _ hnone => ?_
  rw [hdigits, hnone, numeral, ← fits, Number.int64?_toInt]
  exact pure rfl

theorem number_decimal {whole fraction : List Char} (before : Digits whole)
    (after : Digits fraction) (ends : Ends Char.isDigit rest) :
    Yields limits number n (whole ++ '.' :: fraction ++ rest) (· = .float
      (Float.ofScientific (digitsValue (whole ++ fraction)) true fraction.length)) rest := by
  rw [List.append_assoc, List.cons_append]
  have point : Ends Char.isDigit ('.' :: (fraction ++ rest)) := by
    intro c hc
    cases hc
    rfl
  refine (takeWhile1 before.1 before.2 point).bind fun _ hwhole => ?_
  refine (opt ((character '.' (fraction ++ rest)).bind fun _ _ =>
    takeWhile1 after.1 after.2 ends)).bind fun _ found => ?_
  obtain ⟨_, rfl, rfl⟩ := found
  rw [hwhole]
  exact pure rfl

end Yields

theorem Declines.keyword {w : List Char}
    (other : ∀ rest, cs = w ++ rest → ¬ Ends isIdentifierPart rest) :
    Declines (keyword w) n cs := by
  by_cases isPrefix : w <+: cs
  · obtain ⟨rest, rfl⟩ := isPrefix
    exact bind_later (Yields.word w rest) fun _ _ => notFollowedBy (other rest rfl)
  · exact bind (word isPrefix)

end Parser

end RecordRules
