import RecordRules.Proofs.Parsing.TokenCompleteness

namespace RecordRules

open Grammar

namespace Parser

variable {n : Nat}

namespace Gives

theorem satisfy (accepts : Char → Bool) :
    Gives (satisfy accepts) n fun cs c rest => cs = c :: rest ∧ accepts c := by
  intro cursor c after hn ok
  unfold Parser.satisfy at ok
  split at ok
  next d rest eq =>
    split at ok
    next accepted =>
      cases ok
      exact ⟨⟨eq, accepted⟩, hn⟩
    next => cases ok
  next => cases ok

theorem character (c : Char) : Gives (character c) n fun cs _ rest => cs = c :: rest := by
  refine ((satisfy (· == c)).bind fun _ => pure ()).imp ?_
  rintro cs u rest ⟨d, mid, ⟨rfl, same⟩, -, rfl⟩
  rw [eq_of_beq same]

theorem word (cs : List Char) : Gives (word cs) n fun text _ rest => text = cs ++ rest := by
  intro cursor u after hn ok
  unfold Parser.word at ok
  split at ok
  next isPrefix =>
    cases ok
    obtain ⟨rest, eq⟩ := List.isPrefixOf_iff_prefix.mp isPrefix
    exact ⟨by rw [← eq, List.drop_left], hn⟩
  next => cases ok

theorem takeWhile (accepts : Char → Bool) :
    Gives (takeWhile accepts) n fun cs taken rest =>
      cs = taken ++ rest ∧ (∀ c ∈ taken, accepts c) ∧ Ends accepts rest := by
  intro cursor taken after hn ok
  cases ok
  refine ⟨⟨List.takeWhile_append_dropWhile.symm, ?_, ends_dropWhile accepts cursor.rest⟩, hn⟩
  exact fun c hc => List.mem_takeWhile_imp hc

theorem takeWhile1 (accepts : Char → Bool) :
    Gives (takeWhile1 accepts) n fun cs taken rest =>
      cs = taken ++ rest ∧ (taken ≠ [] ∧ ∀ c ∈ taken, accepts c) ∧ Ends accepts rest := by
  refine ((satisfy accepts).bind fun first => (takeWhile accepts).bind fun others =>
    pure (first :: others)).imp ?_
  rintro cs taken rest ⟨first, mid, ⟨rfl, accepted⟩, others, stop, ⟨rfl, all, ends⟩, rfl, rfl⟩
  exact ⟨rfl, ⟨by simp, List.forall_mem_cons.mpr ⟨accepted, all⟩⟩, ends⟩

theorem notFollowedBy (accepts : Char → Bool) :
    Gives (notFollowedBy accepts) n fun cs _ rest => rest = cs ∧ Ends accepts cs := by
  intro cursor u after hn ok
  unfold Parser.notFollowedBy at ok
  split at ok
  next c rest eq =>
    split at ok
    next => cases ok
    next refused =>
      cases ok
      refine ⟨⟨rfl, ?_⟩, hn⟩
      rw [eq]
      intro d hd
      cases hd
      simpa using refused
  next eq =>
    cases ok
    refine ⟨⟨rfl, ?_⟩, hn⟩
    rw [eq]
    intro d hd
    cases hd

theorem endOfText : Gives endOfText n fun cs _ rest => cs = [] ∧ rest = [] := by
  intro cursor u after hn ok
  unfold Parser.endOfText at ok
  split at ok
  next empty =>
    cases ok
    have nil : cursor.rest = [] := by simpa using empty
    exact ⟨⟨nil, nil⟩, hn⟩
  next => cases ok

theorem space : Gives space n fun cs _ rest => rest = Text.skip cs := by
  intro cursor u after hn ok
  cases ok
  exact ⟨rfl, hn⟩

theorem identifier :
    Gives identifier n fun cs name rest =>
      IsIdentifier name.toList ∧ cs = name.toList ++ rest ∧ Ends isIdentifierPart rest := by
  refine ((satisfy isIdentifierStart).bind fun first => (takeWhile isIdentifierPart).bind
    fun others => pure (String.ofList (first :: others))).imp ?_
  rintro cs name rest ⟨first, mid, ⟨rfl, start⟩, others, stop, ⟨rfl, all, ends⟩, rfl, rfl⟩
  rw [String.toList_ofList]
  exact ⟨⟨start, List.all_eq_true.mpr all⟩, rfl, ends⟩

theorem keyword (cs : List Char) :
    Gives (keyword cs) n fun text _ rest => text = cs ++ rest ∧ Ends isIdentifierPart rest := by
  refine ((word cs).bind fun _ => notFollowedBy isIdentifierPart).imp ?_
  rintro text u rest ⟨_, mid, rfl, rfl, ends⟩
  exact ⟨rfl, ends⟩

theorem stringPiece : Gives stringPiece n fun cs piece rest =>
    ∀ {value stop}, Quoted rest value stop → Quoted cs (piece ++ value) stop := by
  intro cursor piece after hn ok
  unfold Parser.stringPiece at ok
  split at ok
  next => cases ok
  next => cases ok
  next => cases ok
  next c rest eq =>
    cases ok
    refine ⟨fun {value stop} quoted => ?_, hn⟩
    rw [eq]
    by_cases known : c ∈ escapes.map Prod.fst
    · obtain ⟨⟨d, meaning⟩, mem, rfl⟩ := List.mem_map.mp known
      rw [unescaped_of_mem mem]
      exact .escape mem quoted
    · rw [unescaped_of_notMem known]
      exact .noEscape known quoted
  next c rest quote atEnd backslash eq =>
    cases ok
    refine ⟨fun {value stop} quoted => ?_, hn⟩
    rw [eq]
    have noBackslash : c ≠ '\\' := by
      intro same
      cases rest with
      | nil => exact atEnd same rfl
      | cons d others => exact backslash d others same rfl
    exact .plain quote noBackslash quoted

theorem stringLiteral : Gives stringLiteral n fun cs s rest =>
    ∃ start value, cs = '"' :: start ∧ Quoted start value rest ∧ s = String.ofList value := by
  have inside {start stop rest : List Char} {pieces : List (List Char)}
      (star : Star (fun cs piece rest => ∀ {value stop}, Quoted rest value stop →
        Quoted cs (piece ++ value) stop) start pieces stop) (closed : stop = '"' :: rest) :
      Quoted start pieces.flatten rest := by
    induction star with
    | nil =>
      rw [closed]
      exact .close
    | cons piece _ ih => exact piece (ih closed)
  refine ((character '"').bind fun _ => (many stringPiece).bind fun pieces =>
    (character '"').bind fun _ => pure (String.ofList pieces.flatten)).imp ?_
  rintro cs s rest ⟨_, start, rfl, pieces, stop, star, _, last, closed, rfl, rfl⟩
  exact ⟨start, pieces.flatten, rfl, inside star closed, rfl⟩

theorem fitting (found : Option Int64) :
    Gives (fitting found) n fun cs literal rest =>
      rest = cs ∧ ∃ value, found = some value ∧ literal = .int value := by
  intro cursor literal after hn ok
  cases found with
  | some value =>
    cases ok
    exact ⟨⟨rfl, value, rfl, rfl⟩, hn⟩
  | none => cases ok

theorem numeral (whole : List Char) (fraction : Option (List Char)) :
    Gives (numeral whole fraction) n fun cs literal rest => rest = cs ∧
      ((∃ value, fraction = none ∧ value.toInt = (digitsValue whole : Int) ∧
          literal = .int value) ∨
        ∃ digits, fraction = some digits ∧ literal = .float
          (Float.ofScientific (digitsValue (whole ++ digits)) true digits.length)) := by
  cases fraction with
  | some digits =>
    refine (pure _).imp ?_
    rintro cs literal rest ⟨rfl, rfl⟩
    exact ⟨rfl, .inr ⟨digits, rfl, rfl⟩⟩
  | none =>
    refine (fitting (Number.int64? (digitsValue whole))).imp ?_
    rintro cs literal rest ⟨rfl, value, fits, rfl⟩
    exact ⟨rfl, .inl ⟨value, rfl, Number.toInt_of_int64? fits, rfl⟩⟩

theorem number : Gives number n fun cs literal rest =>
    (∃ digits value, cs = digits ++ rest ∧ Digits digits ∧ Ends Char.isDigit rest ∧
      ¬ Fraction rest ∧ value.toInt = (digitsValue digits : Int) ∧ literal = .int value) ∨
    ∃ whole fraction, cs = whole ++ '.' :: fraction ++ rest ∧ Digits whole ∧ Digits fraction ∧
      Ends Char.isDigit rest ∧ literal = .float
        (Float.ofScientific (digitsValue (whole ++ fraction)) true fraction.length) := by
  refine ((takeWhile1 Char.isDigit).bind fun whole => (opt ((character '.').bind fun _ =>
    takeWhile1 Char.isDigit)).bind fun fraction => numeral whole fraction).imp ?_
  rintro cs literal rest ⟨whole, mid, ⟨rfl, all, ends⟩, fraction, stop, found, rfl,
    ⟨value, rfl, fits, rfl⟩ | ⟨digits, rfl, rfl⟩⟩
  · obtain ⟨_, h, _⟩ | ⟨-, rfl, offset, expected, after, declined⟩ := found
    · cases h
    · refine .inl ⟨whole, value, rfl, all, ends, ?_, fits, rfl⟩
      rintro ⟨digit, others, rfl, isDigit⟩
      have taken : Yields [] (do Parser.character '.'; Parser.takeWhile1 Char.isDigit) n
          ('.' :: digit :: others) (fun _ => True) (others.dropWhile Char.isDigit) :=
        (Yields.character '.' _).bind fun _ _ => .takeWhile1_some isDigit others
      obtain ⟨found, stop, ok, -⟩ := taken.ok offset
      rw [declined] at ok
      cases ok
  · obtain ⟨_, h, _, _, rfl, rfl, all', ends'⟩ | ⟨h, -⟩ := found
    · cases h
      exact .inr ⟨whole, digits, by simp, all, all', ends', rfl⟩
    · cases h

end Gives

end Parser

end RecordRules
