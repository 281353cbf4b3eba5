import RecordRules.Text.Lines

namespace RecordRules.Text

theorem feedLines_cons {c : Char} (h : c ≠ '\r') (cs : List Char) :
    feedLines (c :: cs) = c :: feedLines cs := by
  rw [feedLines]
  · exact fun _ eq => absurd eq h
  · exact h

theorem feedLines_return {cs : List Char} (h : cs.head? ≠ some '\n') :
    feedLines ('\r' :: cs) = '\n' :: feedLines cs := by
  rw [feedLines]
  rintro rest rfl
  exact h rfl

/-- No line end goes beyond a line feed. -/
theorem feedLines_append (cs rest : List Char) :
    feedLines (cs ++ '\n' :: rest) = feedLines (cs ++ ['\n']) ++ feedLines rest := by
  fun_induction feedLines cs with
  | case1 cs ih => simp only [List.cons_append, feedLines, ih]
  | case2 cs other ih =>
    -- a carriage return at the end of the characters is one line end with the line feed
    cases cs with
    | nil => rfl
    | cons c cs =>
      have hc : c ≠ '\n' := fun eq => other cs (by rw [eq])
      simp only [List.cons_append] at ih ⊢
      rw [feedLines_return (by simpa using hc), feedLines_return (by simpa using hc), ih,
        List.cons_append]
  | case3 c cs _ other ih =>
    rw [List.cons_append, List.cons_append, feedLines_cons other, feedLines_cons other, ih,
      List.cons_append]
  | case4 => rfl

/-- A line feed more ends one line more, unless it is taken together with a carriage return. -/
theorem feedLines_concat (cs : List Char) : ∃ before, feedLines (cs ++ ['\n']) = before ++ ['\n'] ∧
    (feedLines cs = before ∨ feedLines cs = before ++ ['\n']) := by
  -- what holds after some characters holds with a character more in front of all
  have more {c : Char} {whole part : List Char}
      (h : ∃ before, whole = before ++ ['\n'] ∧ (part = before ∨ part = before ++ ['\n'])) :
      ∃ before, c :: whole = before ++ ['\n'] ∧
        (c :: part = before ∨ c :: part = before ++ ['\n']) := by
    obtain ⟨before, rfl, h⟩ := h
    exact ⟨c :: before, rfl, h.imp (congrArg (c :: ·)) (congrArg (c :: ·))⟩
  fun_induction feedLines cs with
  | case1 cs ih => exact more ih
  | case2 cs other ih =>
    cases cs with
    | nil => exact ⟨[], rfl, .inr rfl⟩
    | cons c cs =>
      have hc : c ≠ '\n' := fun eq => other cs (by rw [eq])
      rw [List.cons_append, List.cons_append, feedLines_return (by simpa using hc)]
      exact more ih
  | case3 c cs _ other ih =>
    rw [List.cons_append, feedLines_cons other]
    exact more ih
  | case4 => exact ⟨[], rfl, .inl rfl⟩

theorem lines_feed (rest : List Char) : lines ('\n' :: rest) = [] :: lines rest := by
  rw [lines, if_pos rfl]

theorem lines_cons {c : Char} {cs line : List Char} {others : List (List Char)} (h : c ≠ '\n')
    (hlines : lines cs = line :: others) : lines (c :: cs) = (c :: line) :: others := by
  rw [lines, if_neg h, hlines]

theorem exists_line {cs : List Char} (some : cs ≠ []) :
    ∃ line others, lines cs = line :: others := by
  cases cs with
  | nil => exact absurd rfl some
  | cons c cs =>
    by_cases hc : c = '\n'
    · subst hc
      exact ⟨[], lines cs, lines_feed cs⟩
    · cases found : lines cs with
      | nil => exact ⟨[c], [], by rw [lines, if_neg hc, found]⟩
      | cons line others => exact ⟨c :: line, others, lines_cons hc found⟩

/-- The lines of a text go on after a line feed. -/
theorem lines_append (cs rest : List Char) :
    lines (cs ++ '\n' :: rest) = lines (cs ++ ['\n']) ++ lines rest := by
  induction cs with
  | nil => rw [List.nil_append, List.nil_append, lines_feed, lines_feed]; rfl
  | cons c cs ih =>
    rw [List.cons_append, List.cons_append]
    by_cases hc : c = '\n'
    · rw [hc, lines_feed, lines_feed, ih, List.cons_append]
    · obtain ⟨line, others, found⟩ := exists_line (List.concat_ne_nil '\n' cs)
      rw [found, List.cons_append] at ih
      rw [lines_cons hc ih, lines_cons hc found, List.cons_append]

/-- A text that ends with a line feed has as many lines as line feeds. -/
theorem length_lines (cs : List Char) :
    (lines (cs ++ ['\n'])).length = (cs ++ ['\n']).count '\n' := by
  induction cs with
  | nil => rfl
  | cons c cs ih =>
    rw [List.cons_append]
    by_cases hc : c = '\n'
    · rw [hc, lines_feed, List.length_cons, ih, List.count_cons_self]
    · obtain ⟨line, others, found⟩ := exists_line (List.concat_ne_nil '\n' cs)
      rw [found] at ih
      rw [lines_cons hc found, List.count_cons_of_ne hc, ← ih, List.length_cons, List.length_cons]

/-- A line feed at the end adds an empty line, unless it ends a line that is there. -/
theorem lines_concat (cs : List Char) :
    lines (cs ++ ['\n']) = lines cs ++ [[]] ∨ lines (cs ++ ['\n']) = lines cs := by
  induction cs with
  | nil => exact .inl rfl
  | cons c cs ih =>
    rw [List.cons_append]
    by_cases hc : c = '\n'
    · rw [hc, lines_feed, lines_feed]
      rcases ih with ih | ih
      · exact .inl (congrArg _ ih)
      · exact .inr (congrArg _ ih)
    · cases cs with
      | nil =>
        have alone : lines [c] = [[c]] := by
          rw [lines, if_neg hc]
          rfl
        rw [alone]
        exact .inr (lines_cons hc (lines_feed []))
      | cons d ds =>
        obtain ⟨line, others, found⟩ := exists_line (List.cons_ne_nil d ds)
        rw [lines_cons hc found]
        rcases ih with ih | ih
        · rw [found] at ih
          exact .inl (lines_cons hc ih)
        · exact .inr (lines_cons hc (ih.trans found))

/-- A line feed at the end of a text adds nothing but empty lines. -/
theorem lines_feedLines_concat (cs : List Char) : ∃ blanks, (∀ line ∈ blanks, line = []) ∧
    lines (feedLines (cs ++ ['\n'])) = lines (feedLines cs) ++ blanks := by
  obtain ⟨before, whole, same | same⟩ := feedLines_concat cs
  · rw [whole, same]
    rcases lines_concat before with added | ended
    · exact ⟨[[]], fun line mem => List.mem_singleton.mp mem, added⟩
    · exact ⟨[], fun line mem => absurd mem List.not_mem_nil, by rw [ended, List.append_nil]⟩
  · exact ⟨[], fun line mem => absurd mem List.not_mem_nil, by rw [whole, same, List.append_nil]⟩

theorem feedLines_concat_concat (cs : List Char) :
    feedLines (cs ++ ['\n', '\n']) = feedLines (cs ++ ['\n']) ++ ['\n'] :=
  feedLines_append cs ['\n']

/-- Between two texts with two line feeds between them there is an empty line. -/
theorem lines_feedLines_append (cs rest : List Char) :
    lines (feedLines (cs ++ '\n' :: '\n' :: rest)) =
      lines (feedLines (cs ++ ['\n'])) ++ [] :: lines (feedLines rest) := by
  obtain ⟨before, whole, -⟩ := feedLines_concat cs
  have seam : feedLines (cs ++ '\n' :: '\n' :: rest) =
      before ++ '\n' :: '\n' :: feedLines rest := by
    rw [feedLines_append, whole, feedLines_cons (by decide), List.append_assoc,
      List.singleton_append]
  rw [seam, whole, lines_append, lines_feed]

/-- The empty line is the last of those that end before the second text. -/
theorem length_lines_feedLines (cs : List Char) :
    (lines (feedLines (cs ++ ['\n']))).length + 1 =
      (feedLines (cs ++ ['\n', '\n'])).count '\n' := by
  obtain ⟨before, whole, -⟩ := feedLines_concat cs
  have count : (before ++ ['\n'] ++ ['\n']).count '\n' = (before ++ ['\n']).count '\n' + 1 := by
    rw [← List.concat_eq_append, List.count_concat_self]
  rw [feedLines_concat_concat, whole, length_lines, count]

theorem feedLines_of_no_return {cs : List Char} (none : '\r' ∉ cs) : feedLines cs = cs := by
  induction cs with
  | nil => rfl
  | cons c cs ih =>
    obtain ⟨hc, hcs⟩ := List.ne_and_not_mem_of_not_mem_cons none
    rw [feedLines_cons (Ne.symm hc), ih hcs]

theorem lines_of_unbroken {line : List Char} (unbroken : '\n' ∉ line) (some : line ≠ []) :
    lines line = [line] := by
  induction line with
  | nil => exact absurd rfl some
  | cons c line ih =>
    obtain ⟨hc, hline⟩ := List.ne_and_not_mem_of_not_mem_cons unbroken
    cases line with
    | nil =>
      rw [lines, if_neg (Ne.symm hc)]
      rfl
    | cons d ds => exact lines_cons (Ne.symm hc) (ih hline (List.cons_ne_nil d ds))

theorem lines_unbroken_append {line : List Char} (unbroken : '\n' ∉ line) (rest : List Char) :
    lines (line ++ '\n' :: rest) = line :: lines rest := by
  induction line with
  | nil => exact lines_feed rest
  | cons c line ih =>
    obtain ⟨hc, hline⟩ := List.ne_and_not_mem_of_not_mem_cons unbroken
    exact lines_cons (Ne.symm hc) (ih hline)

/-- Nothing but line feeds is added between lines. -/
theorem not_mem_intercalate {c : Char} {ls : List (List Char)} (hc : c ≠ '\n')
    (each : ∀ line ∈ ls, c ∉ line) : c ∉ ['\n'].intercalate ls := by
  induction ls with
  | nil => exact List.not_mem_nil
  | cons line rest ih =>
    obtain ⟨first, others⟩ := List.forall_mem_cons.mp each
    cases rest with
    | nil => rwa [List.intercalate_singleton]
    | cons next rest =>
      rw [List.intercalate_cons_cons, List.mem_append, List.mem_append, List.mem_singleton]
      rintro ((mem | eq) | mem)
      · exact first mem
      · exact hc eq
      · exact ih others mem

/-- Lines with line feeds between them are found again, unless they are empty. -/
theorem lines_intercalate {ls : List (List Char)}
    (each : ∀ line ∈ ls, '\n' ∉ line ∧ line ≠ []) : lines (['\n'].intercalate ls) = ls := by
  induction ls with
  | nil => rfl
  | cons line rest ih =>
    obtain ⟨⟨unbroken, some⟩, others⟩ := List.forall_mem_cons.mp each
    cases rest with
    | nil => rw [List.intercalate_singleton, lines_of_unbroken unbroken some]
    | cons next rest =>
      rw [List.intercalate_cons_cons, List.append_assoc, List.singleton_append,
        lines_unbroken_append unbroken, ih others]

end RecordRules.Text
