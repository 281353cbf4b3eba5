import RecordRules.Loader
import RecordRules.Proofs.Sections

namespace RecordRules

/-- The rule, so many lines further down in its source. -/
def Rule.shifted (n : Nat) (rule : Rule) : Rule :=
  { rule with line := rule.line + n }

/-- The number of lines that end in the text. -/
def Text.lineEnds (text : String) : Nat :=
  (feedLines text.toList).count '\n'

namespace Loader

theorem sections_joined (a b : List Char) :
    Section.split (Text.lines (Text.feedLines (a ++ '\n' :: '\n' :: b))) =
      Section.split (Text.lines (Text.feedLines a)) ++
        (Section.split (Text.lines (Text.feedLines b))).map
          (Section.shifted ((Text.feedLines (a ++ ['\n', '\n'])).count '\n')) := by
  obtain ⟨blanks, empty, before⟩ := Text.lines_feedLines_concat a
  have blank : ∀ line ∈ blanks, Text.allBlank line := by
    intro line mem
    rw [empty line mem]
    rfl
  rw [Text.lines_feedLines_append, Section.split_append rfl, Text.length_lines_feedLines, before,
    Section.split, Section.splitFrom_append_blanks blank]
  rfl

variable [Patterns] (catalog : Catalog) (root : Schema)

theorem sourceRules_joined (a b : String) :
    sourceRules catalog root (a ++ "\n\n" ++ b) = sourceRules catalog root a ++
      (sourceRules catalog root b).map (Rule.shifted (Text.lineEnds (a ++ "\n\n"))) := by
  have joined : (a ++ "\n\n" ++ b).toList = a.toList ++ '\n' :: '\n' :: b.toList := by simp
  have first : (a ++ "\n\n").toList = a.toList ++ ['\n', '\n'] := by simp
  rw [sourceRules, joined, sections_joined, List.map_append, List.map_map, sourceRules, sourceRules,
    List.map_map, Text.lineEnds, first]
  rfl

/-- The rules of two sources with an empty line between them are the rules of the one and those of
the other, as they are alone but for their lines: however a text between two others is broken, the
rules of those stay what they are. -/
theorem loadString_joined (loader : Loader) :
    let rules (text : String) := (loader.loadString catalog root text).value.rules
    (∀ a b, rules (a ++ "\n\n" ++ b) =
      rules a ++ (rules b).map (Rule.shifted (Text.lineEnds (a ++ "\n\n")))) ∧
    ∀ a broken b, rules (a ++ "\n\n" ++ broken ++ "\n\n" ++ b) =
      rules a ++ (rules broken).map (Rule.shifted (Text.lineEnds (a ++ "\n\n"))) ++
        (rules b).map (Rule.shifted (Text.lineEnds (a ++ "\n\n" ++ broken ++ "\n\n"))) := by
  have two := sourceRules_joined catalog root
  refine ⟨two, fun a broken b => ?_⟩
  have three := two (a ++ "\n\n" ++ broken) b
  rw [two a broken] at three
  exact three

end Loader

end RecordRules
