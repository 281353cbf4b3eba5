import RecordRules.Proofs.Lines
import RecordRules.Section

namespace RecordRules.Section

/-- The section, so many lines further down. -/
def shifted (n : Nat) (s : Section) : Section :=
  { s with line := s.line + n }

theorem ofBlock?_add (number n : Nat) (lines : List (List Char)) :
    ofBlock? (number + n) lines = (ofBlock? number lines).map (shifted n) := by
  unfold ofBlock?
  by_cases blank : Text.allBlank (ofLines number lines).text
  · have blank' : Text.allBlank (ofLines (number + n) lines).text := blank
    rw [if_pos blank, if_pos blank', Option.map_none]
  · have some' : ¬ Text.allBlank (ofLines (number + n) lines).text := blank
    rw [if_neg blank, if_neg some', Option.map_some]
    rfl

theorem splitFrom_blank {line : List Char} (blank : Text.allBlank line) (number : Nat)
    (block rest : List (List Char)) : splitFrom number block (line :: rest) =
      splitFrom number block [] ++ splitFrom (number + 1) [] rest := by
  simp only [splitFrom, if_pos blank]

theorem splitFrom_line {line : List Char} (some : ¬ Text.allBlank line) (number : Nat)
    (block rest : List (List Char)) :
    splitFrom number block (line :: rest) = splitFrom (number + 1) (line :: block) rest := by
  rw [splitFrom, if_neg some]

/-- No block is there where none is open. -/
theorem splitFrom_nil (number : Nat) : splitFrom number [] [] = [] :=
  rfl

/-- What comes after a blank line is split apart from what comes before it. -/
theorem splitFrom_append {line : List Char} (blank : Text.allBlank line) (number : Nat)
    (block before after : List (List Char)) : splitFrom number block (before ++ line :: after) =
      splitFrom number block before ++ splitFrom (number + before.length + 1) [] after := by
  -- a line before either closes the open block or makes it longer, so the block goes along
  induction before generalizing number block with
  | nil => exact splitFrom_blank blank number block after
  | cons first before ih =>
    rw [List.cons_append, List.length_cons]
    have place : number + (before.length + 1) + 1 = number + 1 + before.length + 1 := by omega
    by_cases hfirst : Text.allBlank first
    · rw [splitFrom_blank hfirst, splitFrom_blank hfirst number block before, ih, place,
        List.append_assoc]
    · rw [splitFrom_line hfirst, splitFrom_line hfirst, ih, place]

/-- Blank lines at the end make no section. -/
theorem splitFrom_append_blanks {blanks : List (List Char)}
    (blank : ∀ line ∈ blanks, Text.allBlank line) (number : Nat) (block lines : List (List Char)) :
    splitFrom number block (lines ++ blanks) = splitFrom number block lines := by
  induction blanks generalizing number block lines with
  | nil => rw [List.append_nil]
  | cons first others ih =>
    obtain ⟨hfirst, hothers⟩ := List.forall_mem_cons.mp blank
    have none : splitFrom (number + lines.length + 1) [] others = [] := by
      have ends := ih hothers (number + lines.length + 1) [] []
      rwa [List.nil_append, splitFrom_nil] at ends
    rw [splitFrom_append hfirst, none, List.append_nil]

/-- Sections further down in a text are the same sections. -/
theorem splitFrom_add {number : Nat} {block : List (List Char)} (enough : block.length ≤ number)
    (n : Nat) (lines : List (List Char)) :
    splitFrom (number + n) block lines = (splitFrom number block lines).map (shifted n) := by
  have closed {number : Nat} {block : List (List Char)} (enough : block.length ≤ number) :
      splitFrom (number + n) block [] = (splitFrom number block []).map (shifted n) := by
    have start : number + n - block.length = number - block.length + n := by omega
    rw [splitFrom, splitFrom, start, ofBlock?_add, Option.toList_map]
  induction lines generalizing number block with
  | nil => exact closed enough
  | cons line rest ih =>
    have next : number + n + 1 = number + 1 + n := by omega
    by_cases blank : Text.allBlank line
    · rw [splitFrom_blank blank, splitFrom_blank blank number, List.map_append, closed enough, next,
        ih (by simp)]
    · rw [splitFrom_line blank, splitFrom_line blank, next, ih (by rw [List.length_cons]; omega)]

/-- The sections on the two sides of a blank line are found apart. -/
theorem split_append {line : List Char} (blank : Text.allBlank line)
    (before after : List (List Char)) : split (before ++ line :: after) =
      split before ++ (split after).map (shifted (before.length + 1)) := by
  have place : 1 + before.length + 1 = 1 + (before.length + 1) := by omega
  rw [split, splitFrom_append blank, place, splitFrom_add (by simp)]
  rfl

/-- Lines without a blank one among them make one block. -/
theorem splitFrom_of_solid {lines : List (List Char)} (solid : ∀ line ∈ lines, ¬ Text.allBlank line)
    (number : Nat) (block : List (List Char)) : splitFrom number block lines =
      (ofBlock? (number - block.length) (block.reverse ++ lines)).toList := by
  induction lines generalizing number block with
  | nil => rw [splitFrom, List.append_nil]
  | cons line rest ih =>
    obtain ⟨first, others⟩ := List.forall_mem_cons.mp solid
    have start : number + 1 - (line :: block).length = number - block.length := by
      rw [List.length_cons]
      omega
    rw [splitFrom_line first, ih others, start, List.reverse_cons, List.append_assoc,
      List.singleton_append]

end RecordRules.Section
