import RecordRules.Proofs.Answers
import RecordRules.Regex.Library
import RecordRules.RuleSet

namespace RecordRules

variable {ο σ α β : Type}

namespace Rule

/-- What comes of the predicate of the rule inside the boundary, if the rule compiles. -/
def verdict? (answers : Answers ο) (record : ο) (rule : Rule) : Option (Except Fault Bool) :=
  rule.predicate?.map fun predicate =>
    ((predicate.test record).run (.ofAnswers answers) ()).1.mapError Stop.caught

/-- The rule compiles, and its predicate holds. -/
def hit (answers : Answers ο) (record : ο) (rule : Rule) : Bool :=
  match rule.verdict? answers record with
  | some (.ok holds) => holds
  | _ => false

/-- The line of a rule that compiles and has no answer. -/
def failure? (answers : Answers ο) (record : ο) (rule : Rule) : Option Nat :=
  match rule.verdict? answers record with
  | some (.error _) => some rule.line
  | _ => none

theorem failed_eq (answers : Answers ο) (record : ο) (rule : Rule) :
    rule.failed = (rule.verdict? answers record).isNone := by
  rw [failed, error?, verdict?, predicate?]
  cases rule.compiled with
  | ok predicate => rfl
  | error reason => rfl

/-- The calls of the predicate, if the rule compiles. -/
def calls (answers : Answers ο) (record : ο) (rule : Rule) : List (Call ο) :=
  match rule.predicate? with
  | some predicate => ((predicate.test record).transcript (.ofAnswers answers) ()).map Exchange.call
  | none => []

theorem calls_of_verdict?_eq_none {answers : Answers ο} {record : ο} {rule : Rule}
    (h : rule.verdict? answers record = none) : rule.calls answers record = [] := by
  rw [verdict?, Option.map_eq_none_iff] at h
  rw [calls, h]

theorem evaluate_ends (answers : Answers ο) (record : ο) (rule : Rule) :
    Reading.Ends (.ofAnswers answers) () (rule.evaluate record)
      ((rule.verdict? answers record).getD (.ok false)) (rule.calls answers record) := by
  rw [evaluate, verdict?, calls, predicate?]
  cases rule.compiled with
  | ok predicate => exact .guarded _
  | error reason => exact .pure _

/-- What the rule is counted as. -/
def outcomeOf : Option (Except Fault Bool) → Outcome
  | none => .inert
  | some (.ok true) => .hit
  | some (.ok false) => .miss
  | some (.error reason) => .fault reason

theorem outcome_ends (answers : Answers ο) (record : ο) (rule : Rule) :
    Reading.Ends (.ofAnswers answers) () (rule.outcome record)
      (outcomeOf (rule.verdict? answers record)) (rule.calls answers record) := by
  rw [outcome, verdict?, calls]
  cases rule.predicate? with
  | none => exact .pure _
  | some predicate =>
    refine (Reading.Ends.guarded (predicate.test record)).bind_nil ?_
    rw [Option.map_some]
    rcases Except.mapError Stop.caught ((predicate.test record).run _ _).1 with reason | _ | _
    · exact .pure _
    · exact .pure _
    · exact .pure _

end Rule

namespace Noting

/-- Whatever was noted before, the computation ends with the value after exactly these calls. -/
def Ends (answers : Answers ο) (x : Noting ο α) (value : α) (calls : List (Call ο)) : Prop :=
  ∀ events, ∃ later, Reading.Ends (.ofAnswers answers) () (x.run events) (value, later) calls

namespace Ends

variable {answers : Answers ο} {x : Noting ο α} {a : α} {calls : List (Call ο)}

theorem pure (a : α) : Ends answers (pure a : Noting ο α) a [] :=
  fun events => ⟨events, .pure _⟩

theorem bind {f : α → Noting ο β} {b : β} {calls' : List (Call ο)} (h : Ends answers x a calls)
    (hf : Ends answers (f a) b calls') : Ends answers (x >>= f) b (calls ++ calls') := by
  intro events
  obtain ⟨mid, first⟩ := h events
  obtain ⟨later, second⟩ := hf mid
  exact ⟨later, first.bind second⟩

theorem bind_nil {f : α → Noting ο β} {b : β} (h : Ends answers x a calls)
    (hf : Ends answers (f a) b []) : Ends answers (x >>= f) b calls := by
  have ends := h.bind hf
  rwa [List.append_nil] at ends

theorem lift {x : Reading ο α} (h : Reading.Ends (.ofAnswers answers) () x a calls) :
    Ends answers (liftM x : Noting ο α) a calls :=
  fun events => ⟨events, h.bind_nil (.pure _)⟩

theorem note (event : Event) : Ends answers (note event : Noting ο Unit) () [] :=
  fun _ => ⟨_, .pure _⟩

theorem reported (h : Ends answers x a calls) (sink : Option SinkId) :
    Reading.Ends (.ofAnswers answers) () (Reported.value <$> reported sink x) a calls := by
  obtain ⟨later, ends⟩ := h []
  have reported : Reading.Ends (.ofAnswers answers) () (Noting.reported sink x) ⟨a, sink, later⟩
      calls := ends.bind_nil (.pure _)
  exact reported.map

end Ends

end Noting

/-- The rules that are tried: those up to the first that holds, or all of them. -/
def Rule.tried (answers : Answers ο) (record : ο) (rules : List Rule) : List Rule :=
  match rules.findIdx? (hit answers record) with
  | some i => rules.take (i + 1)
  | none => rules

theorem Rule.tried_cons (answers : Answers ο) (record : ο) (rule : Rule) (rest : List Rule) :
    tried answers record (rule :: rest) =
      if rule.hit answers record then [rule] else rule :: tried answers record rest := by
  rw [tried, List.findIdx?_cons]
  by_cases holds : rule.hit answers record
  · rw [if_pos holds, if_pos holds]
    rfl
  · rw [if_neg holds, if_neg holds, tried]
    cases rest.findIdx? (hit answers record) with
    | some i => rfl
    | none => rfl

/-- The report with one rule more. -/
def Report.after (answers : Answers ο) (record : ο) (report : Report) (rule : Rule) : Report :=
  match rule.verdict? answers record with
  | none => report
  | some (.ok false) => { report with evaluated := report.evaluated + 1 }
  | some (.error _) => { report with
      evaluated := report.evaluated + 1, failures := report.failures ++ [rule.line] }
  | some (.ok true) => { report with evaluated := report.evaluated + 1, line := some rule.line }

theorem Report.foldl_after (answers : Answers ο) (record : ο) (rules : List Rule)
    (report : Report) :
    (Rule.tried answers record rules).foldl (after answers record) report =
      { line := ((rules.find? (Rule.hit answers record)).map Rule.line).or report.line
        evaluated := report.evaluated + (Rule.tried answers record rules).countP (! ·.failed)
        failures := report.failures ++
          (Rule.tried answers record rules).filterMap (Rule.failure? answers record) } := by
  induction rules generalizing report with
  | nil => simp [Rule.tried]
  | cons rule rest ih =>
    have failed := rule.failed_eq answers record
    rw [Rule.tried_cons, List.find?_cons]
    cases verdict : rule.verdict? answers record with
    | none =>
      rw [verdict] at failed
      simp [Rule.hit, Rule.failure?, after, verdict, failed, ih]
    | some result =>
      rw [verdict] at failed
      rcases result with reason | _ | _
      · simp [Rule.hit, Rule.failure?, after, verdict, failed, ih, Nat.add_assoc, Nat.add_comm]
      · simp [Rule.hit, Rule.failure?, after, verdict, failed, ih, Nat.add_assoc, Nat.add_comm]
      · simp [Rule.hit, Rule.failure?, after, verdict, failed]

namespace RuleSet

section Loops

variable (answers : Answers ο) (rules : RuleSet) (subject : Subject ο) (debug : Bool)

theorem attempt_ends (rule : Rule) : Noting.Ends answers (rules.attempt subject debug rule)
    (Rule.outcomeOf (rule.verdict? answers subject.record)) (rule.calls answers subject.record) := by
  refine (Noting.Ends.lift (rule.outcome_ends answers subject.record)).bind_nil ?_
  rcases rule.verdict? answers subject.record with _ | (reason | _ | _)
  · exact .pure _
  · exact (Noting.Ends.note _).bind (.pure _)
  · exact .pure _
  · cases debug with
    | true => exact (Noting.Ends.note _).bind (.pure _)
    | false => exact .pure _

theorem hits_ends (rule : Rule) : Noting.Ends answers (rules.hits subject debug rule)
    (rule.hit answers subject.record) (rule.calls answers subject.record) := by
  refine (rules.attempt_ends answers subject debug rule).bind_nil ?_
  rw [Rule.hit]
  rcases rule.verdict? answers subject.record with _ | (reason | _ | _) <;> exact .pure _

/-- The search ends with the first rule that holds. -/
theorem findM?_ends (rs : List Rule) :
    Noting.Ends answers (rs.findM? (rules.hits subject debug))
      (rs.find? (Rule.hit answers subject.record))
      ((Rule.tried answers subject.record rs).flatMap (Rule.calls answers subject.record)) := by
  induction rs with
  | nil => exact .pure _
  | cons rule rest ih =>
    have first := rules.hits_ends answers subject debug rule
    rw [List.findM?, Rule.tried_cons, List.find?_cons]
    cases holds : rule.hit answers subject.record with
    | true =>
      rw [holds] at first
      rw [if_pos rfl, List.flatMap_singleton]
      exact first.bind_nil (.pure _)
    | false =>
      rw [holds] at first
      rw [if_neg (by simp), List.flatMap_cons]
      exact first.bind ih

/-- A round of the loop that counts adds the rule, and is the last one if the rule holds. -/
theorem count_ends (rule : Rule) (report : Report) :
    Noting.Ends answers (rules.count subject rule report)
      (if rule.hit answers subject.record then .done (report.after answers subject.record rule)
        else .yield (report.after answers subject.record rule))
      (rule.calls answers subject.record) := by
  refine (rules.attempt_ends answers subject false rule).bind_nil ?_
  rw [Rule.hit, Report.after]
  rcases rule.verdict? answers subject.record with _ | (reason | _ | _) <;> exact .pure _

/-- The loop adds the rules that are tried. -/
theorem forIn_ends (rs : List Rule) (report : Report) :
    Noting.Ends answers (forIn rs report (rules.count subject))
      ((Rule.tried answers subject.record rs).foldl (Report.after answers subject.record) report)
      ((Rule.tried answers subject.record rs).flatMap (Rule.calls answers subject.record)) := by
  induction rs generalizing report with
  | nil => exact .pure _
  | cons rule rest ih =>
    have round := rules.count_ends answers subject rule report
    rw [List.forIn_cons, Rule.tried_cons]
    by_cases holds : rule.hit answers subject.record
    · rw [if_pos holds] at round ⊢
      rw [List.flatMap_singleton]
      exact round.bind_nil (.pure _)
    · rw [if_neg holds] at round ⊢
      rw [List.flatMap_cons]
      exact round.bind (ih _)

theorem findMatch_ends :
    Reading.Ends (.ofAnswers answers) () (Reported.value <$> rules.findMatch subject debug)
      (rules.rules.find? (Rule.hit answers subject.record))
      ((Rule.tried answers subject.record rules.rules).flatMap
        (Rule.calls answers subject.record)) :=
  (rules.findM?_ends answers subject debug rules.rules).reported rules.sink

theorem holds_ends :
    Reading.Ends (.ofAnswers answers) () (Reported.value <$> rules.holds subject debug)
      (rules.rules.find? (Rule.hit answers subject.record)).isSome
      ((Rule.tried answers subject.record rules.rules).flatMap
        (Rule.calls answers subject.record)) := by
  have same : Reported.value <$> rules.holds subject debug =
      Option.isSome <$> Reported.value <$> rules.findMatch subject debug := by
    simp only [holds, map_eq_pure_bind, bind_assoc, pure_bind]
  rw [same]
  exact (rules.findMatch_ends answers subject debug).map

theorem report_ends :
    Reading.Ends (.ofAnswers answers) () (Reported.value <$> rules.report subject)
      { line := (rules.rules.find? (Rule.hit answers subject.record)).map Rule.line
        evaluated := (Rule.tried answers subject.record rules.rules).countP (! ·.failed)
        failures := (Rule.tried answers subject.record rules.rules).filterMap
          (Rule.failure? answers subject.record) }
      ((Rule.tried answers subject.record rules.rules).flatMap
        (Rule.calls answers subject.record)) := by
  have ends := (rules.forIn_ends answers subject rules.rules ⟨none, 0, []⟩).reported rules.sink
  rw [Report.foldl_after, Option.or_none, Nat.zero_add, List.nil_append] at ends
  exact ends

theorem evaluate_ends (rule : Rule) :
    Reading.Ends (.ofAnswers answers) () (Reported.value <$> rules.evaluate rule subject debug)
      (rule.hit answers subject.record) (rule.calls answers subject.record) :=
  (rules.hits_ends answers subject debug rule).reported rules.sink

end Loops

/-- Every way to match a record whose answers do not depend on earlier questions finds the first
rule that compiles and holds, and puts exactly the calls of the rules up to that one, in order: of
those that do not compile there are none. -/
theorem matching_of_steady {records : Records ο σ} {answers : Answers ο} {state : σ}
    (steady : records.Steady answers state) (rules : RuleSet) (subject : Subject ο) (debug : Bool) :
    let first := rules.rules.findIdx? (Rule.hit answers subject.record)
    let tried := match first with
      | some i => rules.rules.take (i + 1)
      | none => rules.rules
    let calls := tried.flatMap (Rule.calls answers subject.record)
    Reading.Ends records state (Reported.value <$> rules.findMatch subject debug)
      (first.bind (rules.rules[·]?)) calls ∧
    Reading.Ends records state (Reported.value <$> rules.holds subject debug) first.isSome calls ∧
    Reading.Ends records state (Reported.value <$> rules.report subject)
      { line := (first.bind (rules.rules[·]?)).map Rule.line
        evaluated := tried.countP (! ·.failed)
        failures := tried.filterMap (Rule.failure? answers subject.record) } calls ∧
    ∀ rule, ∃ verdict hit,
      Reading.Ends records state (rule.evaluate subject.record) verdict
        (rule.calls answers subject.record) ∧
      Reading.Ends records state (Reported.value <$> rules.evaluate rule subject debug) hit
        (rule.calls answers subject.record) ∧
      (hit = true ↔ verdict = .ok true) ∧
      (rule.failed → verdict = .ok false ∧ rule.calls answers subject.record = []) := by
  intro first tried calls
  have found : rules.rules.find? (Rule.hit answers subject.record) =
      first.bind (rules.rules[·]?) := List.find?_eq_bind_findIdx?_getElem?
  have isSome : (rules.rules.find? (Rule.hit answers subject.record)).isSome = first.isSome := by
    rw [List.isSome_find?, List.findIdx?_isSome]
  refine ⟨?_, ?_, ?_, fun rule => ?_⟩
  · rw [← found]
    exact (rules.findMatch_ends answers subject debug).of_steady steady
  · rw [← isSome]
    exact (rules.holds_ends answers subject debug).of_steady steady
  · rw [← found]
    exact (rules.report_ends answers subject).of_steady steady
  · refine ⟨_, _, (rule.evaluate_ends answers subject.record).of_steady steady,
      (rules.evaluate_ends answers subject debug rule).of_steady steady, ?_, fun failed => ?_⟩
    · rw [Rule.hit]
      rcases rule.verdict? answers subject.record with _ | (reason | _ | _) <;> simp
    · rw [rule.failed_eq answers subject.record, Option.isNone_iff_eq_none] at failed
      rw [failed]
      exact ⟨rfl, Rule.calls_of_verdict?_eq_none failed⟩

end RuleSet

/-- A rule that does not compile, one that asks for a box that is not there, one that does not hold,
and two that hold of a box with one weight. -/
def Box.rules : RuleSet :=
  ⟨"boxes", [
    .compile catalog schema "weights.len() >" "weights.len() >" 1,
    .compile catalog schema "inner.weights.len() > 0" "inner.weights.len() > 0" 2,
    .compile catalog schema "weights.len() > 1" "weights.len() > 1" 3,
    .compile catalog schema "weights.len() > 0" "weights.len() > 0" 4,
    .compile catalog schema "true" "true" 5], none⟩

def Box.subject : Subject Box :=
  ⟨closed [7] none, "box"⟩

/-- The fourth rule is the first that holds, and the third that is evaluated. -/
theorem Box.matching_fourth :
    (Records.ofAnswers answer).Steady answer () ∧
      Reading.Ends (.ofAnswers answer) () (Reported.value <$> rules.report subject) ⟨some 4, 3, [2]⟩
        ((rules.rules.take 4).flatMap (Rule.calls answer subject.record)) := by
  have steady := Records.steady_ofAnswers answer
  obtain ⟨-, -, report, -⟩ := RuleSet.matching_of_steady steady rules subject false
  have first : rules.rules.findIdx? (Rule.hit answer subject.record) = some 3 := by
    decide +kernel
  rw [first] at report
  have line : ((some 3).bind (rules.rules[·]?)).map Rule.line = some 4 := by decide +kernel
  have evaluated : (rules.rules.take 4).countP (! ·.failed) = 3 := by decide +kernel
  have failures : (rules.rules.take 4).filterMap (Rule.failure? answer subject.record) = [2] := by
    decide +kernel
  rw [line, evaluated, failures] at report
  exact ⟨steady, report⟩

end RecordRules
