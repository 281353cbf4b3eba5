import RecordRules.Proofs.Parsing.Completeness
import RecordRules.Proofs.Parsing.Soundness

namespace RecordRules

open Grammar
open RecordRules.Expr (HasTree)

namespace Parser

theorem rule_gives : Gives rule 0 fun cs e _ =>
    (∃ tree rest, Derives maxNesting .expression cs tree rest ∧ Text.skip rest = [] ∧
      HasTree tree e) ∧ e.height ≤ maxHeight := by
  have sound : (deeper maxNesting).Sound 1 63 := deeper_sound rfl
  refine ((expression_gives sound).bind fun e => Gives.space.bind fun _ =>
    (Gives.endOfText.cut.expecting .endOfRule).bind fun _ => Gives.pure e).imp ?_
  rintro cs _ _ ⟨e, rest, ⟨⟨tree, derived, same⟩, fits⟩, _, _, rfl, _, _, ⟨atEnd, rfl⟩, rfl, rfl⟩
  exact ⟨⟨tree, rest, derived, atEnd, same⟩, fits⟩

/-- What the grammar derives from a whole text is made of it, unless one of the limits is in the
way. -/
theorem rule_yields_within {limits : List Expectation} {room : Nat} {cs rest : List Char}
    {tree : Expr} (derived : Derives room .expression cs tree rest) (atEnd : Text.skip rest = [])
    (roomy : room ≤ maxNesting ∨ .lessNesting ∈ limits) (low : Low limits tree) :
    Yields limits rule 0 cs (HasTree tree) [] := by
  have found := found_of_derives derived (Nat.zero_add _) roomy (stops_of_skip_eq_nil atEnd) low rfl
  have space : Yields limits space 0 rest (fun _ => True) (Text.skip rest) := .space rest
  rw [atEnd] at space
  exact found.bind fun _ same => space.bind fun _ _ =>
    (Yields.endOfText.cut.expecting .endOfRule).bind fun _ _ => .pure same

theorem rule_yields {cs rest : List Char} {tree : Expr}
    (derived : Derives maxNesting .expression cs tree rest) (atEnd : Text.skip rest = [])
    (fits : tree.depth ≤ maxHeight) (offset : Nat) :
    ∃ e stop, rule ⟨cs, offset, 0⟩ = .ok e ⟨[], stop, 0⟩ ∧ HasTree tree e :=
  (rule_yields_within derived atEnd (.inl (Nat.le_refl _)) (.inl fits)).ok offset

end Parser

theorem parse_eq_ok {text : String} {e : Expr} :
    parse text = .ok e ↔ ∃ stop, Parser.rule ⟨text.toList, 0, 0⟩ = .ok e stop := by
  unfold parse
  constructor
  · intro ok
    split at ok
    next stop taken =>
      cases ok
      exact ⟨stop, taken⟩
    next => cases ok
    next => cases ok
  · rintro ⟨stop, taken⟩
    rw [taken]

theorem hasTree_of_parse {text : String} {e : Expr} (ok : parse text = .ok e) :
    ∃ tree, IsText text tree ∧ tree.depth ≤ Parser.maxHeight ∧ HasTree tree e := by
  obtain ⟨stop, taken⟩ := parse_eq_ok.mp ok
  obtain ⟨⟨⟨tree, rest, derived, atEnd, hasTree⟩, fits⟩, -⟩ := Parser.rule_gives rfl taken
  rw [hasTree.height] at fits
  exact ⟨tree, ⟨rest, derived, atEnd⟩, fits, hasTree⟩

theorem parse_of_isText {text : String} {tree : Expr} (isText : IsText text tree)
    (fits : tree.depth ≤ Parser.maxHeight) : ∃ e, parse text = .ok e ∧ HasTree tree e := by
  obtain ⟨rest, derived, atEnd⟩ := isText
  obtain ⟨e, stop, taken, hasTree⟩ := Parser.rule_yields derived atEnd fits 0
  exact ⟨e, parse_eq_ok.mpr ⟨_, taken⟩, hasTree⟩

/-- A text that the grammar derives is parsed, unless one of the limits is in the way and is named
in the error. -/
theorem parse_within {limits : List Expectation} {room : Nat} {text : String} {rest : List Char}
    {tree : Expr} (derived : Derives room .expression text.toList tree rest)
    (atEnd : Text.skip rest = []) (roomy : room ≤ Parser.maxNesting ∨ .lessNesting ∈ limits)
    (low : Parser.Low limits tree) :
    (∃ e, parse text = .ok e ∧ HasTree tree e) ∨
      ∃ error, parse text = .error error ∧ ∃ limit ∈ limits, limit ∈ error.expected := by
  have yields := Parser.rule_yields_within derived atEnd roomy low
  cases yields 0 with
  | inl made =>
    obtain ⟨e, stop, taken, hasTree⟩ := made
    have ok : ∃ stop, Parser.rule ⟨text.toList, 0, 0⟩ = .ok e stop := ⟨_, taken⟩
    exact .inl ⟨e, parse_eq_ok.mpr ok, hasTree⟩
  | inr halts =>
    obtain ⟨expected, after, halt, named⟩ := halts
    refine .inr ⟨⟨expected, after.offset⟩, ?_, named⟩
    unfold parse
    rw [halt]

/-- A text is parsed to an expression, whatever its marks, exactly if the grammar derives the
expression from the whole text and it is not too high. -/
theorem parse_eq_ok_iff (text : String) (e : Expr) :
    (∃ parsed, parse text = .ok parsed ∧ parsed.unmarked = e.unmarked) ↔
      IsText text e.unmarked ∧ e.depth ≤ Parser.maxHeight := by
  constructor
  · rintro ⟨parsed, ok, same⟩
    obtain ⟨stop, taken⟩ := parse_eq_ok.mp ok
    obtain ⟨⟨⟨tree, rest, derived, atEnd, hasTree⟩, fits⟩, -⟩ := Parser.rule_gives rfl taken
    rw [← e.depth_unmarked, ← same, hasTree.unmarked]
    refine ⟨⟨rest, derived, atEnd⟩, ?_⟩
    rw [← hasTree.height]
    exact fits
  · rintro ⟨⟨rest, derived, atEnd⟩, fits⟩
    rw [← e.depth_unmarked] at fits
    obtain ⟨parsed, stop, taken, hasTree⟩ := Parser.rule_yields derived atEnd fits 0
    exact ⟨parsed, parse_eq_ok.mpr ⟨_, taken⟩, hasTree.unmarked⟩

end RecordRules
