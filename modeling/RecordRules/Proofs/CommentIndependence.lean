import RecordRules.Loader
import RecordRules.Proofs.Conformance
import RecordRules.Proofs.Parsing.Exactness
import RecordRules.Proofs.Parsing.Surrounding
import RecordRules.Proofs.PlaceIndependence
import RecordRules.Proofs.Sections
import RecordRules.Regex.Library

namespace RecordRules

open RecordRules.Text (isBlank allBlank)

theorem Except.toOption_eq_of_ok_iff {ε ε' α : Type} {x : Except ε α} {y : Except ε' α}
    (h : ∀ a, x = .ok a ↔ y = .ok a) : x.toOption = y.toOption := by
  cases x with
  | ok a =>
    rw [(h a).mp rfl]
    rfl
  | error e =>
    cases y with
    | ok a => cases (h a).mpr rfl
    | error e' => rfl

section Surrounded

variable {before after : List Char} {text surrounded : String}

theorem allBlank_surrounded (hbefore : ∀ c ∈ before, isBlank c) (hafter : ∀ c ∈ after, isBlank c)
    (cs : List Char) : allBlank (before ++ cs ++ after) = allBlank cs := by
  have first : before.all isBlank = true := List.all_eq_true.mpr hbefore
  have last : after.all isBlank = true := List.all_eq_true.mpr hafter
  rw [allBlank, List.all_append, List.all_append, first, last, Bool.true_and, Bool.and_true]
  rfl

variable (hbefore : ∀ c ∈ before, isBlank c) (hafter : ∀ c ∈ after, isBlank c)
  (whole : surrounded.toList = before ++ text.toList ++ after)
include hbefore hafter whole

theorem parse_surrounded {e : Expr} (ok : parse text = .ok e) :
    ∃ e', parse surrounded = .ok e' ∧ e'.unmarked = e.unmarked := by
  obtain ⟨tree, isText, fits, hasTree⟩ := hasTree_of_parse ok
  have isText' := (Grammar.isText_surrounded hbefore hafter whole tree).mpr isText
  obtain ⟨e', ok', hasTree'⟩ := parse_of_isText isText' fits
  exact ⟨e', ok', hasTree'.unmarked.trans hasTree.unmarked.symm⟩

theorem parse_of_surrounded {e : Expr} (ok : parse surrounded = .ok e) :
    ∃ e', parse text = .ok e' ∧ e'.unmarked = e.unmarked := by
  obtain ⟨tree, isText, fits, hasTree⟩ := hasTree_of_parse ok
  have isText' := (Grammar.isText_surrounded hbefore hafter whole tree).mp isText
  obtain ⟨e', ok', hasTree'⟩ := parse_of_isText isText' fits
  exact ⟨e', ok', hasTree'.unmarked.trans hasTree.unmarked.symm⟩

variable [Patterns] (catalog : Catalog) (root : Schema)

/-- White space around a text makes no difference to the rule in it. -/
theorem compile_surrounded (predicate : Predicate) :
    compile catalog root surrounded = .ok predicate ↔
      compile catalog root text = .ok predicate := by
  rw [compile_eq_ok_iff, compile_eq_ok_iff, whole, allBlank_surrounded hbefore hafter]
  refine and_congr_right fun _ => ?_
  constructor
  · rintro ⟨e, parsed, resolved⟩
    obtain ⟨e', parsed', same⟩ := parse_of_surrounded hbefore hafter whole parsed
    exact ⟨e', parsed', resolved.of_unmarked same⟩
  · rintro ⟨e, parsed, resolved⟩
    obtain ⟨e', parsed', same⟩ := parse_surrounded hbefore hafter whole parsed
    exact ⟨e', parsed', resolved.of_unmarked same⟩

/-- White space around an expression makes no difference to why it is no rule. -/
theorem compile_fault_surrounded {e : Expr} (parsed : parse text = .ok e) :
    (compile catalog root surrounded).mapError CompileError.fault =
      (compile catalog root text).mapError CompileError.fault := by
  obtain ⟨e', parsed', same⟩ := parse_surrounded hbefore hafter whole parsed
  -- the white space before the expression moves its marks, and so the place of an error
  have bound := bind_alike same ⟨catalog, root, []⟩
  rw [compile, compile, whole, allBlank_surrounded hbefore hafter, parsed, parsed']
  split
  · rfl
  · simp only
    generalize e.bind ⟨catalog, root, []⟩ = result at bound
    generalize e'.bind ⟨catalog, root, []⟩ = result' at bound
    cases result with
    | error reason =>
      cases result' with
      | error reason' => exact congrArg Except.error (Except.error.inj bound)
      | ok typed => cases bound
    | ok typed =>
      cases result' with
      | error reason => cases bound
      | ok typed' =>
        obtain rfl := Except.ok.inj bound
        simp only
        split
        · rfl
        · rfl

namespace Rule

theorem predicate?_surrounded (raw raw' : String) (line line' : Nat) :
    (compile catalog root surrounded raw line).predicate? =
      (compile catalog root text raw' line').predicate? := by
  simp only [predicate?, compile]
  exact Except.toOption_eq_of_ok_iff (compile_surrounded hbefore hafter whole catalog root)

theorem fault_surrounded {e : Expr} (parsed : parse text = .ok e) (raw raw' : String)
    (line line' : Nat) :
    (compile catalog root surrounded raw line).error?.map CompileError.fault =
      (compile catalog root text raw' line').error?.map CompileError.fault := by
  have faults := compile_fault_surrounded hbefore hafter whole catalog root parsed
  simp only [error?, compile]
  generalize RecordRules.compile catalog root surrounded = result at faults
  generalize RecordRules.compile catalog root text = result' at faults
  cases result with
  | ok p =>
    cases result' with
    | ok p' => rfl
    | error e => cases faults
  | error e =>
    cases result' with
    | ok p => cases faults
    | error e' => exact congrArg some (Except.error.inj faults)

end Rule

end Surrounded

namespace Rule

variable {rule listed : Rule} (same : rule.predicate? = listed.predicate?) {ο : Type} (record : ο)
include same

theorem outcome_of_predicate? : rule.outcome record = listed.outcome record := by
  rw [outcome, outcome, same]

theorem evaluate_of_predicate? : rule.evaluate record = listed.evaluate record := by
  have found (rule : Rule) : rule.evaluate record =
      (rule.predicate?.elim (pure (.ok false)) fun p => (p.test record).guarded) := by
    unfold evaluate predicate?
    cases rule.compiled <;> rfl
  rw [found, found, same]

end Rule

namespace Section

theorem uncommented_cons {c : Char} {rest : List Char}
    (h : ¬ (c = '/' ∧ rest.head? = some '/')) :
    uncommented (c :: rest) = c :: uncommented rest := by
  rw [uncommented]
  rintro others rfl rfl
  exact h ⟨rfl, rfl⟩

/-- A line goes on after characters without a comment, unless a comment starts where they end. -/
theorem uncommented_append {cs : List Char} (plain : ¬ ['/', '/'] <:+: cs) {rest : List Char}
    (seam : ¬ (cs.getLast? = some '/' ∧ rest.head? = some '/')) :
    uncommented (cs ++ rest) = cs ++ uncommented rest := by
  -- two slashes are both among the characters, or one is the last of them
  induction cs with
  | nil => rfl
  | cons c cs ih =>
    have notHere : ¬ (c = '/' ∧ (cs ++ rest).head? = some '/') := by
      rintro ⟨rfl, head⟩
      cases cs with
      | nil => exact seam ⟨rfl, head⟩
      | cons d ds =>
        obtain rfl := Option.some.inj head
        exact plain (List.prefix_append ['/', '/'] ds).isInfix
    have seam' : ¬ (cs.getLast? = some '/' ∧ rest.head? = some '/') := by
      rintro ⟨last, head⟩
      refine seam ⟨?_, head⟩
      rw [List.getLast?_cons, last]
      rfl
    rw [List.cons_append, uncommented_cons notHere,
      ih (fun found => plain (found.trans (List.suffix_cons c cs).isInfix)) seam', List.cons_append]

theorem uncommented_of_plain {line : List Char} (plain : ¬ ['/', '/'] <:+: line) :
    uncommented line = line := by
  have whole : uncommented (line ++ []) = line ++ uncommented [] :=
    uncommented_append plain fun h => by cases h.2
  rwa [List.append_nil, uncommented, List.append_nil] at whole

end Section

/-- The line is a comment after the white space. -/
structure IsComment (blank : List Char) (line : String) : Prop where
  isBlank : ∀ c ∈ blank, isBlank c
  comment : ∃ comment, line.toList = blank ++ '/' :: '/' :: comment
  unbroken : '\n' ∉ line.toList ∧ '\r' ∉ line.toList

/-- The line is not blank, and there is no comment in it. -/
structure IsRuleLine (line : String) : Prop where
  some : ¬ allBlank line.toList
  plain : ¬ ['/', '/'] <:+: line.toList
  unbroken : '\n' ∉ line.toList ∧ '\r' ∉ line.toList

/-- The end of a line is nothing, or white space and a comment. -/
def IsEnding (suffix : String) : Prop :=
  suffix = "" ∨ ∃ blank, blank ≠ [] ∧ IsComment blank suffix

theorem plain_of_blank {blank : List Char} (h : ∀ c ∈ blank, isBlank c) :
    ¬ ['/', '/'] <:+: blank := by
  intro found
  cases h '/' (found.subset List.mem_cons_self)

theorem IsComment.uncommented {blank : List Char} {line : String} (h : IsComment blank line) :
    Section.uncommented line.toList = blank := by
  obtain ⟨comment, eq⟩ := h.comment
  have seam : ¬ (blank.getLast? = some '/' ∧ ('/' :: '/' :: comment).head? = some '/') := by
    rintro ⟨last, -⟩
    cases h.isBlank '/' (List.mem_of_getLast? last)
  rw [eq, Section.uncommented_append (plain_of_blank h.isBlank) seam, Section.uncommented,
    List.append_nil]

theorem IsComment.solid {blank : List Char} {line : String} (h : IsComment blank line) :
    ¬ allBlank line.toList := by
  obtain ⟨comment, eq⟩ := h.comment
  intro all
  rw [allBlank, List.all_eq_true, eq] at all
  cases all '/' (by simp)

namespace IsRuleLine

variable {line suffix : String}

theorem uncommented (h : IsRuleLine line) : Section.uncommented line.toList = line.toList :=
  Section.uncommented_of_plain h.plain

/-- Of the end of a line only white space is left. -/
theorem uncommented_ending (h : IsRuleLine line) (ending : IsEnding suffix) :
    ∃ blank, (∀ c ∈ blank, isBlank c) ∧
      Section.uncommented (line ++ suffix).toList = line.toList ++ blank := by
  rw [String.toList_append]
  rcases ending with rfl | ⟨blank, some, comment⟩
  · refine ⟨[], by simp, ?_⟩
    rw [String.toList_empty, List.append_nil, h.uncommented]
  · refine ⟨blank, comment.isBlank, ?_⟩
    have seam : ¬ (line.toList.getLast? = Option.some '/' ∧
        suffix.toList.head? = Option.some '/') := by
      rintro ⟨-, head⟩
      obtain ⟨after, eq⟩ := comment.comment
      obtain ⟨c, others, rfl⟩ := List.exists_cons_of_ne_nil some
      rw [eq] at head
      obtain rfl := Option.some.inj head
      cases comment.isBlank '/' List.mem_cons_self
    rw [Section.uncommented_append h.plain seam, comment.uncommented]

theorem solid_ending (h : IsRuleLine line) : ¬ allBlank (line ++ suffix).toList := by
  rw [String.toList_append, allBlank, List.all_append, Bool.and_eq_true]
  exact fun all => h.some all.1

theorem unbroken_ending (h : IsRuleLine line) (ending : IsEnding suffix) :
    '\n' ∉ (line ++ suffix).toList ∧ '\r' ∉ (line ++ suffix).toList := by
  have unbroken : '\n' ∉ suffix.toList ∧ '\r' ∉ suffix.toList := by
    rcases ending with rfl | ⟨blank, -, comment⟩
    · exact ⟨List.not_mem_nil, List.not_mem_nil⟩
    · exact comment.unbroken
  rw [String.toList_append, List.mem_append, List.mem_append, not_or, not_or]
  exact ⟨⟨h.unbroken.1, unbroken.1⟩, h.unbroken.2, unbroken.2⟩

end IsRuleLine

namespace Section

/-- Lines that are not blank make one section, unless nothing but comments is in them. -/
theorem split_of_solid {ls : List (List Char)}
    (each : ∀ line ∈ ls, ¬ allBlank line ∧ '\n' ∉ line ∧ '\r' ∉ line)
    (some : ¬ allBlank (ofLines 1 ls).text) :
    split (Text.lines (Text.feedLines (['\n'].intercalate ls))) = [ofLines 1 ls] := by
  have noReturn : '\r' ∉ ['\n'].intercalate ls :=
    Text.not_mem_intercalate (by decide) fun line mem => (each line mem).2.2
  have unbroken : ∀ line ∈ ls, '\n' ∉ line ∧ line ≠ [] := by
    intro line mem
    refine ⟨(each line mem).2.1, ?_⟩
    rintro rfl
    exact (each [] mem).1 rfl
  rw [Text.feedLines_of_no_return noReturn, Text.lines_intercalate unbroken, split,
    splitFrom_of_solid fun line mem => (each line mem).1]
  have made : ofBlock? 1 ls = Option.some (ofLines 1 ls) := if_neg some
  exact congrArg Option.toList made

theorem blank_of_comments {ls : List String} (comments : ∀ line ∈ ls, ∃ blank, IsComment blank line)
    (number : Nat) : ∀ c ∈ (ofLines number (ls.map String.toList)).text, isBlank c := by
  intro c mem
  obtain ⟨_, listed, mem⟩ := List.mem_flatMap.mp mem
  obtain ⟨line, hline, rfl⟩ := List.mem_map.mp listed
  obtain ⟨blank, comment⟩ := comments line hline
  rw [comment.uncommented] at mem
  rcases List.mem_append.mp mem with mem | mem
  · exact comment.isBlank c mem
  · rw [List.mem_singleton.mp mem]
    rfl

theorem text_of_ruleLines {ls : List String} (plain : ∀ line ∈ ls, IsRuleLine line) (number : Nat)
    (last : List Char) : (ofLines number (ls.map String.toList)).text ++ last =
      ['\n'].intercalate (ls.map String.toList ++ [last]) := by
  induction ls with
  | nil => exact List.intercalate_singleton.symm
  | cons line rest ih =>
    obtain ⟨first, others⟩ := List.forall_mem_cons.mp plain
    have some : rest.map String.toList ++ [last] ≠ [] := by simp
    rw [List.map_cons, List.cons_append, List.intercalate_cons_of_ne_nil some, ← ih others]
    simp only [ofLines, List.flatMap_cons, first.uncommented, List.append_assoc]

end Section

/-- A rule of one or more lines, with lines of comments around them and an end to the last one. -/
structure CommentedRule where
  before : List String
  init : List String
  last : String
  suffix : String
  after : List String
  isBefore : ∀ line ∈ before, ∃ blank, IsComment blank line
  isRule : ∀ line ∈ init ++ [last], IsRuleLine line
  isEnding : IsEnding suffix
  isAfter : ∀ line ∈ after, ∃ blank, IsComment blank line

namespace CommentedRule

variable (r : CommentedRule)

/-- The rule without the comments. -/
def text : String :=
  "\n".intercalate (r.init ++ [r.last])

def lines : List String :=
  r.before ++ r.init ++ [r.last ++ r.suffix] ++ r.after

def source : String :=
  "\n".intercalate r.lines

theorem isRule_last : IsRuleLine r.last :=
  r.isRule r.last (by simp)

theorem toList_source : r.source.toList = ['\n'].intercalate (r.lines.map String.toList) :=
  String.toList_intercalate

theorem solid : ∀ line ∈ r.lines.map String.toList,
    ¬ allBlank line ∧ '\n' ∉ line ∧ '\r' ∉ line := by
  intro _ listed
  obtain ⟨line, mem, rfl⟩ := List.mem_map.mp listed
  simp only [lines, List.mem_append, List.mem_singleton, or_assoc] at mem
  rcases mem with mem | mem | rfl | mem
  · obtain ⟨blank, comment⟩ := r.isBefore line mem
    exact ⟨comment.solid, comment.unbroken⟩
  · have plain := r.isRule line (List.mem_append_left _ mem)
    exact ⟨plain.some, plain.unbroken⟩
  · exact ⟨r.isRule_last.solid_ending, r.isRule_last.unbroken_ending r.isEnding⟩
  · obtain ⟨blank, comment⟩ := r.isAfter line mem
    exact ⟨comment.solid, comment.unbroken⟩

theorem text_eq : r.text.toList =
    (Section.ofLines 1 (r.init.map String.toList)).text ++ r.last.toList := by
  have plain := fun line mem => r.isRule line (List.mem_append_left [r.last] mem)
  rw [Section.text_of_ruleLines plain, text, String.toList_intercalate, List.map_append]
  rfl

/-- Without the comments there is white space around the rule. -/
theorem text_ofLines : ∃ before after, (∀ c ∈ before, isBlank c) ∧ (∀ c ∈ after, isBlank c) ∧
    (Section.ofLines 1 (r.lines.map String.toList)).text = before ++ r.text.toList ++ after := by
  obtain ⟨blank, isBlank, ending⟩ := r.isRule_last.uncommented_ending r.isEnding
  -- after the rule comes the white space in front of the last comment, and then what is left of
  -- the lines below
  refine ⟨(Section.ofLines 1 (r.before.map String.toList)).text,
    blank ++ '\n' :: (Section.ofLines 1 (r.after.map String.toList)).text,
    Section.blank_of_comments r.isBefore 1, ?_, ?_⟩
  · intro c mem
    rcases List.mem_append.mp mem with mem | mem
    · exact isBlank c mem
    · rcases List.mem_cons.mp mem with rfl | mem
      · rfl
      · exact Section.blank_of_comments r.isAfter 1 c mem
  · rw [text_eq]
    simp only [Section.ofLines, lines, List.map_append, List.flatMap_append, List.map_cons,
      List.flatMap_cons, ending, List.append_assoc, List.singleton_append]

theorem notBlank : ¬ allBlank (Section.ofLines 1 (r.lines.map String.toList)).text := by
  obtain ⟨before, after, hbefore, hafter, whole⟩ := r.text_ofLines
  rw [whole, allBlank_surrounded hbefore hafter, text_eq, allBlank, List.all_append,
    Bool.and_eq_true]
  exact fun all => r.isRule_last.some all.2

theorem split_source : Section.split (Text.lines (Text.feedLines r.source.toList)) =
    [Section.ofLines 1 (r.lines.map String.toList)] := by
  rw [toList_source, Section.split_of_solid r.solid r.notBlank]

theorem sourceRules_source [Patterns] (catalog : Catalog) (root : Schema) :
    Loader.sourceRules catalog root r.source =
      [.compile catalog root (String.ofList (Section.ofLines 1 (r.lines.map String.toList)).text)
        (String.ofList (Section.ofLines 1 (r.lines.map String.toList)).raw) 1] := by
  rw [Loader.sourceRules, r.split_source]
  rfl

end CommentedRule

namespace Loader

/-- Comments around the lines of a rule and after the last one, and also the way in which the rule
is loaded, make no difference to the rule. -/
theorem loadString_commented [Patterns] (catalog : Catalog) (root : Schema)
    (loader listLoader : Loader) (r : CommentedRule) :
    ∃ rule listed, (loader.loadString catalog root r.source).value.rules = [rule] ∧
      (listLoader.loadList catalog root [r.text]).value.rules = [listed] ∧
      rule.line = 1 ∧ rule.raw = r.source ∧ rule.predicate? = listed.predicate? ∧
      (∀ (ο : Type) (record : ο), rule.outcome record = listed.outcome record ∧
        rule.evaluate record = listed.evaluate record) ∧
      ((parse r.text).isOk →
        rule.error?.map CompileError.fault = listed.error?.map CompileError.fault) := by
  obtain ⟨before, after, hbefore, hafter, whole⟩ := r.text_ofLines
  have whole : (String.ofList (Section.ofLines 1 (r.lines.map String.toList)).text).toList =
      before ++ r.text.toList ++ after := by
    rw [String.toList_ofList, whole]
  have raw : String.ofList (Section.ofLines 1 (r.lines.map String.toList)).raw = r.source := by
    rw [← String.ofList_toList (s := r.source), r.toList_source, Section.ofLines]
  have same := Rule.predicate?_surrounded hbefore hafter whole catalog root
  refine ⟨_, _, r.sourceRules_source catalog root, rfl, rfl, raw, same _ _ _ _, fun ο record => ?_,
    fun parses => ?_⟩
  · exact ⟨Rule.outcome_of_predicate? (same _ _ _ _) record,
      Rule.evaluate_of_predicate? (same _ _ _ _) record⟩
  · obtain ⟨e, parsed⟩ := exists_eq_ok parses
    exact Rule.fault_surrounded hbefore hafter whole catalog root parsed _ _ _ _

end Loader

/-- A rule on two lines, with comments before, beside and after them. -/
def Box.commented : CommentedRule where
  before := ["// heavy"]
  init := ["weights.len()"]
  last := "  > 1"
  suffix := " // at least two"
  after := ["\t// end"]
  isBefore := List.forall_mem_singleton.mpr ⟨[], by simp, ⟨_, rfl⟩, by decide⟩
  isRule := List.forall_mem_cons.mpr ⟨⟨by decide, by decide +kernel, by decide⟩,
    List.forall_mem_singleton.mpr ⟨by decide, by decide +kernel, by decide⟩⟩
  isEnding := .inr ⟨[' '], by simp, List.forall_mem_singleton.mpr rfl, ⟨_, rfl⟩, by decide⟩
  isAfter := List.forall_mem_singleton.mpr
    ⟨['\t'], List.forall_mem_singleton.mpr rfl, ⟨_, rfl⟩, by decide⟩

theorem Box.loadString_commented_heavy :
    let loader : Loader := ⟨none, none⟩
    let source := "// heavy\nweights.len()\n  > 1 // at least two\n\t// end"
    ∃ rule listed, (loader.loadString catalog schema source).value.rules = [rule] ∧
      (loader.loadList catalog schema ["weights.len()\n  > 1"]).value.rules = [listed] ∧
      rule.line = 1 ∧ rule.raw = source ∧ rule.predicate? = listed.predicate? := by
  intro loader source
  have written : commented.source = source := by decide +kernel
  have text : commented.text = "weights.len()\n  > 1" := by decide +kernel
  obtain ⟨rule, listed, loaded, loaded', line, raw, same, -⟩ :=
    Loader.loadString_commented catalog schema loader loader commented
  rw [written] at loaded raw
  rw [text] at loaded'
  exact ⟨rule, listed, loaded, loaded', line, raw, same⟩

end RecordRules
