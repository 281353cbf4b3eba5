import Mathlib.Logic.ExistsUnique
import RecordRules.Proofs.Sections

namespace RecordRules

/-- At this place of the text there is a line, and it is not blank. -/
def SolidAt (text : List (List Char)) (i : Nat) : Prop :=
  ∃ line, text[i]? = some line ∧ ¬ Text.allBlank line

/-- Lines of a text, one after the other: how many come before them, and how many up to the last
of them. -/
structure Run where
  start : Nat
  stop : Nat

/-- What is left of a line that is cut where two slashes come for the first time. -/
def IsCut (line cut : List Char) : Prop :=
  (∃ comment, line = cut ++ '/' :: '/' :: comment ∧ ¬ ['/', '/'] <:+: cut ++ ['/']) ∨
    cut = line ∧ ¬ ['/', '/'] <:+: line

namespace Run

variable (text : List (List Char))

/-- No line of the run is blank, and there is no longer run around it. -/
structure IsMaximal (run : Run) : Prop where
  some : run.start < run.stop
  solid : ∀ i, run.start ≤ i → i < run.stop → SolidAt text i
  before : ∀ i, i + 1 = run.start → ¬ SolidAt text i
  after : ¬ SolidAt text run.stop

def lines (run : Run) : List (List Char) :=
  (text.drop run.start).take (run.stop - run.start)

/-- There is more in the lines than white space and comments. -/
def hasRule (run : Run) : Bool :=
  (run.lines text).any fun line => !Text.allBlank (Section.uncommented line)

def toSection (run : Run) : Section where
  text := (run.lines text).flatMap fun line => Section.uncommented line ++ ['\n']
  raw := ['\n'].intercalate (run.lines text)
  line := run.start + 1

variable {text} {a b : Run}

/-- Two maximal runs with a line in common are one. -/
theorem IsMaximal.eq_of_meets (ha : a.IsMaximal text) (hb : b.IsMaximal text)
    (le : a.start ≤ b.start) (lt : b.start < a.stop) : a = b := by
  have starts : a.start = b.start := by
    rcases Nat.eq_or_lt_of_le le with same | later
    · exact same
    · have inside := ha.solid (b.start - 1) (by omega) (by omega)
      exact absurd inside (hb.before (b.start - 1) (by omega))
  have stops : a.stop = b.stop := by
    have hsome := hb.some
    rcases Nat.lt_trichotomy a.stop b.stop with short | same | long
    · exact absurd (hb.solid a.stop (by omega) short) ha.after
    · exact same
    · exact absurd (ha.solid b.stop (by omega) long) hb.after
  obtain ⟨start, stop⟩ := a
  rw [Run.mk.injEq]
  exact ⟨starts, stops⟩

end Run

theorem lt_length_of_solidAt {text : List (List Char)} {i : Nat} (h : SolidAt text i) :
    i < text.length := by
  obtain ⟨line, found, -⟩ := h
  exact (List.getElem?_eq_some_iff.mp found).1

namespace Section

theorem isCut_uncommented (line : List Char) : IsCut line (uncommented line) := by
  fun_induction uncommented line with
  | case1 comment =>
    refine .inl ⟨comment, rfl, ?_⟩
    decide
  | case2 c rest other ih =>
    -- two slashes that begin with the first character would have ended the line
    have notHere {tail : List Char} (h : ['/', '/'] <+: c :: tail)
        (same : tail.head? = rest.head?) :
        False := by
      obtain ⟨hc, hrest⟩ := List.cons_prefix_cons.mp h
      obtain ⟨more, eq⟩ := hrest
      rw [← eq] at same
      obtain ⟨others, heq⟩ := List.head?_eq_some_iff.mp same.symm
      exact other others hc.symm heq
    rcases ih with ⟨comment, eq, first⟩ | ⟨eq, none⟩
    · refine .inl ⟨comment, congrArg (c :: ·) eq, fun found => ?_⟩
      rcases List.infix_cons_iff.mp found with here | later
      · refine notHere here ?_
        conv => rhs; rw [eq]
        cases uncommented rest <;> rfl
      · exact first later
    · refine .inr ⟨congrArg (c :: ·) eq, fun found => ?_⟩
      rcases List.infix_cons_iff.mp found with here | later
      · exact notHere here rfl
      · exact none later
  | case3 => exact .inr ⟨rfl, by simp⟩

theorem ofBlock?_lines (text : List (List Char)) (run : Run) :
    (ofBlock? (run.start + 1) (run.lines text)).toList =
      ([run].filter (·.hasRule text)).map (·.toSection text) := by
  have blank : Text.allBlank (run.toSection text).text = !run.hasRule text := by
    rw [Run.hasRule, List.not_any_eq_all_not, Run.toSection, Text.allBlank, List.all_flatMap]
    refine congrArg (List.all _) (funext fun line => ?_)
    rw [List.all_append, Bool.not_not, Text.allBlank]
    exact Bool.and_true _
  have unfolded : ofBlock? (run.start + 1) (run.lines text) =
      if Text.allBlank (run.toSection text).text then none else some (run.toSection text) := rfl
  rw [unfolded, blank]
  cases h : run.hasRule text with
  | true => simp [h]
  | false => simp [h]

/-- These are the maximal runs of the text from that place on, in order, and with their lines. -/
structure Lists (text : List (List Char)) (start : Nat) (runs : List Run) : Prop where
  mem : ∀ run, run ∈ runs ↔ run.IsMaximal text ∧ start ≤ run.start
  ordered : runs.Pairwise fun a b => a.stop < b.start
  covers : ∀ i, start ≤ i → SolidAt text i → ∃ run ∈ runs, run.start ≤ i ∧ i < run.stop
  lines : runs.flatMap (·.lines text) = (text.drop start).filter fun line => !Text.allBlank line

section Block

variable {text block rest : List (List Char)} {start : Nat}
  (here : text.drop start = block ++ rest) (solid : ∀ line ∈ block, ¬ Text.allBlank line)
  (before : ∀ i, i + 1 = start → ¬ SolidAt text i)
include here

theorem getElem?_block (i : Nat) : text[start + i]? = (block ++ rest)[i]? := by
  rw [← here, List.getElem?_drop]

theorem not_solidAt_rest (after : ∀ line ∈ rest.head?, Text.allBlank line) :
    ¬ SolidAt text (start + block.length) := by
  rintro ⟨line, found, hsolid⟩
  rw [getElem?_block here, List.getElem?_append_right (Nat.le_refl _), Nat.sub_self,
    ← List.head?_eq_getElem?] at found
  exact hsolid (after line found)

include solid before in
/-- A block of lines that are not blank is a maximal run if no such line stands around it. -/
theorem isMaximal_block (some : block ≠ []) (after : ∀ line ∈ rest.head?, Text.allBlank line) :
    Run.IsMaximal text ⟨start, start + block.length⟩ := by
  have length := List.length_pos_iff.mpr some
  refine ⟨Nat.lt_add_of_pos_right length, fun i ge lt => ?_, before, not_solidAt_rest here after⟩
  change start ≤ i at ge
  change i < start + block.length at lt
  have inside : i - start < block.length := by omega
  have place : start + (i - start) = i := by omega
  have found := getElem?_block here (i - start)
  rw [place, List.getElem?_append_left inside, List.getElem?_eq_getElem inside] at found
  exact ⟨_, found, solid _ (List.getElem_mem inside)⟩

theorem lines_block : Run.lines text ⟨start, start + block.length⟩ = block := by
  have length : start + block.length - start = block.length := by omega
  rw [Run.lines, here, length, List.take_left]

end Block

/-- No run is there where no line is left. -/
theorem lists_nil {text : List (List Char)} {start : Nat} (here : text.drop start = []) :
    Lists text start [] := by
  have beyond : text.length ≤ start := List.drop_eq_nil_iff.mp here
  have none {i : Nat} (ge : start ≤ i) : ¬ SolidAt text i := by
    intro hsolid
    have lt := lt_length_of_solidAt hsolid
    omega
  refine ⟨fun run => ⟨fun mem => absurd mem List.not_mem_nil, ?_⟩, .nil, ?_, by rw [here]; rfl⟩
  · rintro ⟨hmax, ge⟩
    exact absurd (hmax.solid run.start (Nat.le_refl _) hmax.some) (none ge)
  · exact fun i ge hsolid => absurd hsolid (none ge)

/-- A blank line is in no run. -/
theorem Lists.blank {text rest : List (List Char)} {line : List Char} {start : Nat}
    {runs : List Run} (h : Lists text (start + 1) runs) (here : text.drop start = line :: rest)
    (blank : Text.allBlank line) : Lists text start runs := by
  have notHere : ¬ SolidAt text start := by
    have empty : text.drop start = [] ++ line :: rest := here
    exact not_solidAt_rest empty (by simpa using blank)
  have later {i : Nat} (ge : start ≤ i) (hsolid : SolidAt text i) : start + 1 ≤ i := by
    have other : i ≠ start := by
      rintro rfl
      exact notHere hsolid
    omega
  refine ⟨fun run => ?_, h.ordered, fun i ge hsolid => h.covers i (later ge hsolid) hsolid, ?_⟩
  · rw [h.mem]
    refine and_congr_right fun hmax => ⟨fun ge => by omega, fun ge => ?_⟩
    exact later ge (hmax.solid run.start (Nat.le_refl _) hmax.some)
  · have tail : text.drop (start + 1) = rest := by rw [← List.drop_drop, here]; rfl
    rw [h.lines, tail, here, List.filter_cons_of_neg (by simpa using blank)]

/-- A block of lines is one run more, if a blank line or the end of the text comes after it. -/
theorem Lists.block {text block rest : List (List Char)} {start : Nat} {runs : List Run}
    (h : Lists text (start + block.length + 1) runs) (here : text.drop start = block ++ rest)
    (solid : ∀ line ∈ block, ¬ Text.allBlank line)
    (before : ∀ i, i + 1 = start → ¬ SolidAt text i) (some : block ≠ [])
    (after : ∀ line ∈ rest.head?, Text.allBlank line) :
    Lists text start (⟨start, start + block.length⟩ :: runs) := by
  have hmax := isMaximal_block here solid before some after
  have end_ := not_solidAt_rest here after
  refine ⟨fun run => ?_, ?_, fun i ge hsolid => ?_, ?_⟩
  · rw [List.mem_cons, h.mem]
    constructor
    · rintro (rfl | ⟨hrun, ge⟩)
      · exact ⟨hmax, Nat.le_refl _⟩
      · exact ⟨hrun, by omega⟩
    · rintro ⟨hrun, ge⟩
      rcases Nat.lt_trichotomy run.start (start + block.length) with lt | same | gt
      · exact .inl (hmax.eq_of_meets hrun ge lt).symm
      · have first := hrun.solid run.start (Nat.le_refl _) hrun.some
        rw [same] at first
        exact absurd first end_
      · exact .inr ⟨hrun, gt⟩
  · refine List.pairwise_cons.mpr ⟨fun run mem => ?_, h.ordered⟩
    exact ((h.mem run).mp mem).2
  · by_cases inside : i < start + block.length
    · exact ⟨_, List.mem_cons_self, ge, inside⟩
    · have other : i ≠ start + block.length := by
        rintro rfl
        exact end_ hsolid
      obtain ⟨run, mem, covered⟩ := h.covers i (by omega) hsolid
      exact ⟨run, List.mem_cons_of_mem _ mem, covered⟩
  · have tail : text.drop (start + block.length + 1) = rest.tail := by
      rw [← List.drop_drop, ← List.drop_drop, here, List.drop_left, List.drop_one]
    have whole : block.filter (fun line => !Text.allBlank line) = block :=
      List.filter_eq_self.mpr fun line mem => by simpa using solid line mem
    have more : rest.filter (fun line => !Text.allBlank line) =
        rest.tail.filter fun line => !Text.allBlank line := by
      cases rest with
      | nil => rfl
      | cons line others =>
        have blank := after line rfl
        rw [List.filter_cons_of_neg (by simpa using blank), List.tail_cons]
    rw [List.flatMap_cons, lines_block here, h.lines, tail, here, List.filter_append, whole, more]

/-- What the open block and the runs after it come to, where the block ends. -/
theorem Lists.closed {text block rest : List (List Char)} {start : Nat} {runs : List Run}
    (h : Lists text (start + block.length + 1) runs)
    (here : text.drop start = block.reverse ++ rest)
    (solid : ∀ line ∈ block, ¬ Text.allBlank line)
    (before : ∀ i, i + 1 = start → ¬ SolidAt text i)
    (after : ∀ line ∈ rest.head?, Text.allBlank line) (alone : block = [] → Lists text start runs) :
    ∃ all, Lists text start all ∧ splitFrom (start + block.length + 1) block [] ++
        (runs.filter (·.hasRule text)).map (·.toSection text) =
      (all.filter (·.hasRule text)).map (·.toSection text) := by
  by_cases none : block = []
  · subst none
    exact ⟨runs, alone rfl, rfl⟩
  · have some : block.reverse ≠ [] := by simpa using none
    have solid' : ∀ line ∈ block.reverse, ¬ Text.allBlank line :=
      fun line mem => solid line (List.mem_reverse.mp mem)
    have first : start + block.length + 1 - block.length = start + 1 := by omega
    have one := ofBlock?_lines text ⟨start, start + block.reverse.length⟩
    rw [lines_block here] at one
    rw [← List.length_reverse] at h
    refine ⟨_, h.block here solid' before some after, ?_⟩
    rw [splitFrom, first, one, ← List.map_append, ← List.filter_append, List.singleton_append]

/-- Splitting goes through the maximal runs, where the open block is the beginning of one. -/
theorem exists_lists (text lines block : List (List Char)) (start : Nat)
    (here : text.drop start = block.reverse ++ lines)
    (solid : ∀ line ∈ block, ¬ Text.allBlank line)
    (before : ∀ i, i + 1 = start → ¬ SolidAt text i) :
    ∃ runs, Lists text start runs ∧ splitFrom (start + block.length + 1) block lines =
      (runs.filter (·.hasRule text)).map (·.toSection text) := by
  induction lines generalizing block start with
  | nil =>
    have whole : block.reverse.length ≤ block.length := Nat.le_of_eq List.length_reverse
    have beyond : text.drop (start + block.length + 1) = [] := by
      rw [← List.drop_drop, ← List.drop_drop, here, List.append_nil, List.drop_eq_nil_of_le whole]
      rfl
    obtain ⟨all, listed, eq⟩ := (lists_nil beyond).closed here solid before (by simp)
      (fun none => lists_nil (by simpa [none] using here))
    rw [List.filter_nil, List.map_nil, List.append_nil] at eq
    exact ⟨all, listed, eq⟩
  | cons line rest ih =>
    by_cases blank : Text.allBlank line
    · -- the block ends here, and the next one may begin after the blank line
      have next : text.drop (start + block.length + 1) = [].reverse ++ rest := by
        rw [← List.drop_drop, ← List.drop_drop, here, ← List.length_reverse, List.drop_left]
        rfl
      have after : ∀ other ∈ (line :: rest).head?, Text.allBlank other := by
        intro other mem
        obtain rfl := Option.some.inj mem
        exact blank
      have notSolid : ∀ i, i + 1 = start + block.length + 1 → ¬ SolidAt text i := by
        intro i eq
        obtain rfl : i = start + block.length := by omega
        rw [← List.length_reverse]
        exact not_solidAt_rest here after
      obtain ⟨runs, listed, eq⟩ := ih [] _ next (by simp) notSolid
      obtain ⟨all, listed', eq'⟩ := listed.closed here solid before after fun none => by
        subst none
        exact listed.blank here blank
      refine ⟨all, listed', ?_⟩
      rw [splitFrom_blank blank, ← eq', ← eq]
      rfl
    · have longer : text.drop start = (line :: block).reverse ++ rest := by
        rw [here, List.reverse_cons, List.append_assoc, List.singleton_append]
      have solid' : ∀ other ∈ line :: block, ¬ Text.allBlank other :=
        List.forall_mem_cons.mpr ⟨blank, solid⟩
      obtain ⟨runs, listed, eq⟩ := ih (line :: block) start longer solid' before
      refine ⟨runs, listed, ?_⟩
      rw [splitFrom_line blank, ← eq]
      rfl

/-- The sections of a text are those of its maximal runs of lines that are not blank, in their
order, but for runs of comments alone. Every line that is not blank is in one run, no line is lost,
and there is a blank line between two runs. -/
theorem split_eq_maximalRuns (text : List (List Char)) :
    ∃ runs : List Run,
      (∀ run, run ∈ runs ↔ run.IsMaximal text) ∧
      split text = (runs.filter (·.hasRule text)).map (·.toSection text) ∧
      (∀ line, IsCut line (uncommented line)) ∧
      (∀ i, SolidAt text i → ∃! run, run ∈ runs ∧ run.start ≤ i ∧ i < run.stop) ∧
      runs.flatMap (·.lines text) = text.filter (fun line => !Text.allBlank line) ∧
      runs.Pairwise fun a b =>
        a.stop < b.start ∧ ∃ line, text[a.stop]? = some line ∧ Text.allBlank line := by
  obtain ⟨runs, listed, eq⟩ := exists_lists text text [] 0 rfl (by simp) (by simp)
  have maximal : ∀ run, run ∈ runs ↔ run.IsMaximal text := by
    intro run
    rw [listed.mem]
    exact and_iff_left (Nat.zero_le _)
  refine ⟨runs, maximal, eq, isCut_uncommented, fun i hsolid => ?_, listed.lines, ?_⟩
  · obtain ⟨run, mem, ge, lt⟩ := listed.covers i (Nat.zero_le _) hsolid
    refine ⟨run, ⟨mem, ge, lt⟩, ?_⟩
    rintro other ⟨mem', ge', lt'⟩
    have hrun := (maximal run).mp mem
    have hother := (maximal other).mp mem'
    rcases Nat.le_total run.start other.start with le | le
    · exact (hrun.eq_of_meets hother le (by omega)).symm
    · exact hother.eq_of_meets hrun le (by omega)
  · refine listed.ordered.imp_of_mem fun {a b} ha hb lt => ⟨lt, ?_⟩
    have hstop := ((maximal a).mp ha).after
    have hstart := ((maximal b).mp hb).solid b.start (Nat.le_refl _) ((maximal b).mp hb).some
    have bound := lt_length_of_solidAt hstart
    have inside : a.stop < text.length := by omega
    have found : text[a.stop]? = some text[a.stop] := List.getElem?_eq_getElem inside
    refine ⟨_, found, ?_⟩
    by_cases blank : Text.allBlank text[a.stop]
    · exact blank
    · exact absurd ⟨_, found, blank⟩ hstop

end Section

end RecordRules
