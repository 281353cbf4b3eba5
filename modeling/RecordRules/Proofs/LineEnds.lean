import RecordRules.Item.Catalog
import RecordRules.Loader
import RecordRules.Proofs.Lines
import RecordRules.Regex.Library

namespace RecordRules

namespace Text

/-- The characters with another text in place of each occurrence of `first :: more`. Occurrences are
looked for from the left on, and none begins within the one before it. -/
def replaceAll (first : Char) (more replacement : List Char) : List Char → List Char
  | [] => []
  | c :: rest =>
    if first = c ∧ more <+: rest then
      replacement ++ replaceAll first more replacement (rest.drop more.length)
    else c :: replaceAll first more replacement rest
termination_by cs => cs.length
decreasing_by all_goals simp only [List.length_cons, List.length_drop]; omega

/-- The lines of a text by one scan from the left, where `line` is what is open of the first one,
last character first. A carriage return with a line feed right after it ends one line, and each of
the two alone does. At the end of the text a line is open only if something stands on it. -/
def scanLines (line : List Char) : List Char → List (List Char)
  | [] => if line = [] then [] else [line.reverse]
  | '\r' :: '\n' :: rest => line.reverse :: scanLines [] rest
  | '\r' :: rest => line.reverse :: scanLines [] rest
  | '\n' :: rest => line.reverse :: scanLines [] rest
  | c :: rest => scanLines (c :: line) rest

section Replace

variable {first c : Char} {more replacement : List Char}

theorem replaceAll_nil : replaceAll first more replacement [] = [] := by
  rw [replaceAll]

theorem replaceAll_append (rest : List Char) :
    replaceAll first more replacement (first :: (more ++ rest)) =
      replacement ++ replaceAll first more replacement rest := by
  rw [replaceAll, if_pos ⟨rfl, List.prefix_append more rest⟩, List.drop_left]

theorem replaceAll_skip {rest : List Char} (h : ¬(first = c ∧ more <+: rest)) :
    replaceAll first more replacement (c :: rest) =
      c :: replaceAll first more replacement rest := by
  rw [replaceAll, if_neg h]

theorem replaceAll_skip_ne (rest : List Char) (h : first ≠ c) :
    replaceAll first more replacement (c :: rest) =
      c :: replaceAll first more replacement rest :=
  replaceAll_skip fun both => h both.1

theorem replaceAll_one (rest : List Char) :
    replaceAll first [] replacement (first :: rest) =
      replacement ++ replaceAll first [] replacement rest :=
  replaceAll_append rest

end Replace

/-- What the first of two replacements leaves of a carriage return, the second one takes. -/
theorem feedLines_eq_replaceAll (cs : List Char) :
    feedLines cs = replaceAll '\r' [] ['\n'] (replaceAll '\r' ['\n'] ['\n'] cs) := by
  fun_induction feedLines cs with
  | case1 rest ih =>
    have pair : replaceAll '\r' ['\n'] ['\n'] ('\r' :: '\n' :: rest) =
        '\n' :: replaceAll '\r' ['\n'] ['\n'] rest := replaceAll_append rest
    rw [pair, replaceAll_skip_ne _ (by decide), ih]
  | case2 rest other ih =>
    have alone : ¬('\r' = '\r' ∧ ['\n'] <+: rest) := by
      rintro ⟨-, more, rfl⟩
      exact other more rfl
    rw [replaceAll_skip alone, replaceAll_one, ih, List.singleton_append]
  | case3 c rest _ other ih =>
    have hc : '\r' ≠ c := fun eq => other eq.symm
    rw [replaceAll_skip_ne rest hc, replaceAll_skip_ne _ hc, ih]
  | case4 => rw [replaceAll_nil, replaceAll_nil]

theorem not_mem_feedLines (cs : List Char) : '\r' ∉ feedLines cs := by
  fun_induction feedLines cs with
  | case1 rest ih => exact List.not_mem_cons_of_ne_of_not_mem (by decide) ih
  | case2 rest _ ih => exact List.not_mem_cons_of_ne_of_not_mem (by decide) ih
  | case3 c rest _ other ih =>
    exact List.not_mem_cons_of_ne_of_not_mem (fun eq => other eq.symm) ih
  | case4 => exact List.not_mem_nil

theorem feedLines_feedLines (cs : List Char) : feedLines (feedLines cs) = feedLines cs :=
  feedLines_of_no_return (not_mem_feedLines cs)

/-- The scan goes on from a line that is open as if the line stood before the rest of the text. -/
theorem lines_reverse_append_feedLines {line : List Char} (unbroken : '\n' ∉ line)
    (cs : List Char) : lines (line.reverse ++ feedLines cs) = scanLines line cs := by
  have closed {line : List Char} (unbroken : '\n' ∉ line) (rest : List Char) :
      lines (line.reverse ++ '\n' :: rest) = line.reverse :: lines rest :=
    lines_unbroken_append (fun mem => unbroken (List.mem_reverse.mp mem)) rest
  fun_induction scanLines line cs with
  | case1 => rfl
  | case2 line some =>
    have unbroken : '\n' ∉ line.reverse := fun mem => unbroken (List.mem_reverse.mp mem)
    rw [feedLines, List.append_nil]
    exact lines_of_unbroken unbroken fun eq => some (List.reverse_eq_nil_iff.mp eq)
  | case3 line rest ih =>
    rw [feedLines, closed unbroken, ← ih List.not_mem_nil]
    rfl
  | case4 line rest other ih =>
    rw [feedLines_return, closed unbroken, ← ih List.not_mem_nil]
    · rfl
    · intro head
      obtain ⟨more, rfl⟩ := List.head?_eq_some_iff.mp head
      exact other more rfl
  | case5 line rest ih =>
    rw [feedLines_cons (by decide), closed unbroken, ← ih List.not_mem_nil]
    rfl
  | case6 line c rest _ noReturn noFeed ih =>
    have open_ : '\n' ∉ c :: line :=
      List.not_mem_cons_of_ne_of_not_mem (fun eq => noFeed eq.symm) unbroken
    rw [feedLines_cons noReturn, ← ih open_, List.reverse_cons, List.append_assoc,
      List.singleton_append]

theorem lines_feedLines_eq_scanLines (cs : List Char) :
    lines (feedLines cs) = scanLines [] cs :=
  lines_reverse_append_feedLines List.not_mem_nil cs

example : scanLines [] "a\r\r\nb\n\rc\r\n".toList = [['a'], [], ['b'], [], ['c']] := by decide

/-- No line feed is left for a carriage return to be taken together with. -/
theorem head?_replaceAll_return (cs : List Char) :
    (replaceAll '\n' [] ['\r'] cs).head? ≠ some '\n' := by
  cases cs with
  | nil =>
    rw [replaceAll_nil]
    exact (Option.some_ne_none '\n').symm
  | cons c cs =>
    by_cases feed : '\n' = c
    · subst feed
      rw [replaceAll_one, List.singleton_append, List.head?_cons]
      decide
    · rw [replaceAll_skip_ne cs feed, List.head?_cons]
      exact fun eq => feed (Option.some.inj eq).symm

/-- Other line ends in a text of line feeds are read as the line feeds they stand for. -/
theorem feedLines_replaceAll {ending : List Char} (form : ending = ['\r', '\n'] ∨ ending = ['\r'])
    {cs : List Char} (none : '\r' ∉ cs) : feedLines (replaceAll '\n' [] ending cs) = cs := by
  induction cs with
  | nil => rw [replaceAll_nil]; rfl
  | cons c cs ih =>
    obtain ⟨hc, hcs⟩ := List.ne_and_not_mem_of_not_mem_cons none
    have rest := ih hcs
    by_cases feed : '\n' = c
    · subst feed
      rw [replaceAll_one]
      rcases form with rfl | rfl
      · rw [List.cons_append, List.singleton_append, feedLines, rest]
      · rw [List.singleton_append, feedLines_return (head?_replaceAll_return cs), rest]
    · rw [replaceAll_skip_ne cs feed, feedLines_cons (Ne.symm hc), rest]

end Text

/-- Line ends are read in one scan, however the text has them: what the two replacements leave has
no carriage return, is left as it is by another pass, and its lines are those of the scan. A text of
line feeds is loaded as the same rules with either of the other line ends in their place. -/
theorem Loader.line_ends_by_scan [Patterns] :
    (∀ cs : List Char,
      Text.feedLines cs =
        Text.replaceAll '\r' [] ['\n'] (Text.replaceAll '\r' ['\n'] ['\n'] cs) ∧
      '\r' ∉ Text.feedLines cs ∧
      Text.feedLines (Text.feedLines cs) = Text.feedLines cs ∧
      Text.lines (Text.feedLines cs) = Text.scanLines [] cs) ∧
    ∀ (catalog : Catalog) (root : Schema) (loader : Loader) (text : String) (ending : List Char),
      '\r' ∉ text.toList → (ending = ['\r', '\n'] ∨ ending = ['\r']) →
        loader.loadString catalog root
          (String.ofList (Text.replaceAll '\n' [] ending text.toList)) =
            loader.loadString catalog root text := by
  constructor
  · intro cs
    exact ⟨Text.feedLines_eq_replaceAll cs, Text.not_mem_feedLines cs,
      Text.feedLines_feedLines cs, Text.lines_feedLines_eq_scanLines cs⟩
  · intro catalog root loader text ending none form
    have same : Text.feedLines (Text.replaceAll '\n' [] ending text.toList) =
        Text.feedLines text.toList := by
      rw [Text.feedLines_replaceAll form none, Text.feedLines_of_no_return none]
    rw [loadString, loadString, sourceRules, sourceRules, String.toList_ofList, same]

/-- Two rules and a comment between them, on lines that end as files of the one or the other system
have them. -/
theorem Loader.line_ends_of_two_rules :
    '\r' ∉ "a\n\n// b\nc\n".toList ∧
    Loader.loadString Item.catalog Item.itemSchema ⟨none, none⟩
      (String.ofList (Text.replaceAll '\n' [] ['\r', '\n'] "a\n\n// b\nc\n".toList)) =
        Loader.loadString Item.catalog Item.itemSchema ⟨none, none⟩ "a\n\n// b\nc\n" :=
  ⟨by decide, line_ends_by_scan.2 _ _ _ _ _ (by decide) (.inl rfl)⟩

end RecordRules
