import RecordRules.Proofs.Answers
import RecordRules.RuleSet

namespace RecordRules

variable {ο σ α β : Type}

/-- What a pass over rules comes to: the rules that had no answer, each with the reason, and the
rule with which it stopped. -/
structure Pass where
  faulted : List (Rule × Fault)
  matching : Option Rule

namespace Rule

/-- What comes of the rule on the record, and the state in which it leaves the records. -/
def trial (records : Records ο σ) (record : ο) (rule : Rule) (state : σ) : Outcome × σ :=
  match rule.predicate? with
  | none => (.inert, state)
  | some predicate =>
    match (predicate.test record).run records state with
    | (.ok true, after) => (.hit, after)
    | (.ok false, after) => (.miss, after)
    | (.error reason, after) => (.fault reason.caught, after)

/-- The rules are tried in order, up to the first that holds. -/
def pass (records : Records ο σ) (record : ο) : List Rule → σ → Pass × σ
  | [], state => (⟨[], none⟩, state)
  | rule :: rest, state =>
    match rule.trial records record state with
    | (.hit, after) => (⟨[], some rule⟩, after)
    | (.fault reason, after) =>
      let (later, final) := pass records record rest after
      (⟨(rule, reason) :: later.faulted, later.matching⟩, final)
    | (_, after) => pass records record rest after

end Rule

namespace RuleSet

/-- The event for a rule that had no answer. -/
def faultEvent (rules : RuleSet) (subject : Subject ο) (failure : Rule × Fault) : Event :=
  .faulted rules.label failure.1.line subject.label failure.2 failure.1.raw failure.1.source

/-- The event for the rule that held. -/
def matchEvent (rules : RuleSet) (subject : Subject ο) (rule : Rule) : Event :=
  .matched rules.label rule.line subject.label rule.raw

/-- The events of a pass: those for the rules that had no answer, and at the end the one for the
rule that held, if it is wanted. -/
def passEvents (rules : RuleSet) (subject : Subject ο) (debug : Bool) (p : Pass) : List Event :=
  p.faulted.map (rules.faultEvent subject) ++
    (if debug then p.matching.map (rules.matchEvent subject) else none).toList

/-- The events of one rule. -/
def trialEvents (rules : RuleSet) (subject : Subject ο) (debug : Bool) (rule : Rule) :
    Outcome → List Event
  | .hit => if debug then [rules.matchEvent subject rule] else []
  | .fault reason => [rules.faultEvent subject (rule, reason)]
  | _ => []

end RuleSet

namespace Noting

/-- Run from the state, the computation gives the value and leaves the final state, and adds exactly
these events to those noted before. -/
def Runs (records : Records ο σ) (x : Noting ο α) (state : σ) (value : α) (noted : List Event)
    (final : σ) : Prop :=
  ∀ events, (x.run events).run records state = (.ok (value, events ++ noted), final)

namespace Runs

variable {records : Records ο σ} {x : Noting ο α} {state mid final : σ} {a : α}
  {noted later : List Event}

theorem pure (a : α) : Runs records (pure a : Noting ο α) state a [] state := by
  intro events
  rw [List.append_nil]
  rfl

theorem bind {f : α → Noting ο β} {b : β} (h : Runs records x state a noted mid)
    (hf : Runs records (f a) mid b later final) :
    Runs records (x >>= f) state b (noted ++ later) final := by
  intro events
  rw [StateT.run_bind, Reading.run_bind, h events, ← List.append_assoc]
  exact hf (events ++ noted)

theorem bind_nil {f : α → Noting ο β} {b : β} (h : Runs records x state a noted mid)
    (hf : Runs records (f a) mid b [] final) : Runs records (x >>= f) state b noted final := by
  have runs := h.bind hf
  rwa [List.append_nil] at runs

theorem lift {x : Reading ο α} (h : x.run records state = (.ok a, final)) :
    Runs records (liftM x : Noting ο α) state a [] final := by
  intro events
  have run : (liftM x : Noting ο α).run events = x >>= fun a => Pure.pure (a, events) := rfl
  rw [run, Reading.run_bind, h, List.append_nil]
  rfl

theorem note (event : Event) : Runs records (note event : Noting ο Unit) state () [event] state :=
  fun _ => rfl

theorem reported (h : Runs records x state a noted final) (sink : Option SinkId) :
    (Noting.reported sink x).run records state = (.ok ⟨a, sink, noted⟩, final) := by
  rw [Noting.reported, Reading.run_bind, h []]
  rfl

end Runs

end Noting

theorem Rule.outcome_run (records : Records ο σ) (record : ο) (rule : Rule) (state : σ) :
    (rule.outcome record).run records state =
      (.ok (rule.trial records record state).1, (rule.trial records record state).2) := by
  rw [outcome, trial]
  cases rule.predicate? with
  | none => rfl
  | some predicate =>
    simp only
    rw [Reading.run_bind, Reading.run_guarded]
    rcases (predicate.test record).run records state with ⟨reason | _ | _, after⟩ <;> rfl

/-- A round of the loop that counts. -/
def Report.round (report : Report) (rule : Rule) : Outcome → ForInStep Report
  | .inert => .yield report
  | .miss => .yield { report with evaluated := report.evaluated + 1 }
  | .fault _ => .yield { report with
      evaluated := report.evaluated + 1, failures := report.failures ++ [rule.line] }
  | .hit => .done { report with evaluated := report.evaluated + 1, line := some rule.line }

namespace RuleSet

section Loops

variable (records : Records ο σ) (rules : RuleSet) (subject : Subject ο) (debug : Bool)

theorem attempt_runs (rule : Rule) (state : σ) :
    Noting.Runs records (rules.attempt subject debug rule) state
      (rule.trial records subject.record state).1
      (rules.trialEvents subject debug rule (rule.trial records subject.record state).1)
      (rule.trial records subject.record state).2 := by
  refine (Noting.Runs.lift (rule.outcome_run records subject.record state)).bind ?_
  generalize rule.trial records subject.record state = result
  rcases result with ⟨_ | _ | _ | reason, after⟩
  · exact .pure _
  · exact .pure _
  · cases debug with
    | true => exact (Noting.Runs.note _).bind (.pure _)
    | false => exact .pure _
  · exact (Noting.Runs.note _).bind (.pure _)

theorem hits_runs (rule : Rule) (state : σ) :
    Noting.Runs records (rules.hits subject debug rule) state
      ((rule.trial records subject.record state).1 = .hit)
      (rules.trialEvents subject debug rule (rule.trial records subject.record state).1)
      (rule.trial records subject.record state).2 :=
  (rules.attempt_runs records subject debug rule state).bind_nil (.pure _)

/-- The search is a pass that gives the rule with which it stops. -/
theorem findM?_runs (rs : List Rule) (state : σ) :
    Noting.Runs records (rs.findM? (rules.hits subject debug)) state
      (Rule.pass records subject.record rs state).1.matching
      (rules.passEvents subject debug (Rule.pass records subject.record rs state).1)
      (Rule.pass records subject.record rs state).2 := by
  -- what a rule does to the state of the records is what the rules after it are tried in
  induction rs generalizing state with
  | nil =>
    cases debug <;> exact .pure _
  | cons rule rest ih =>
    have first := rules.hits_runs records subject debug rule state
    rw [List.findM?, Rule.pass]
    generalize rule.trial records subject.record state = result at first
    rcases result with ⟨_ | _ | _ | reason, after⟩
    · exact first.bind (ih after)
    · exact first.bind (ih after)
    · -- no rule after the one that holds is tried, so nothing more is noted
      cases debug with
      | true => exact first.bind_nil (.pure _)
      | false => exact first.bind_nil (.pure _)
    · exact first.bind (ih after)

theorem count_runs (rule : Rule) (report : Report) (state : σ) :
    Noting.Runs records (rules.count subject rule report) state
      (report.round rule (rule.trial records subject.record state).1)
      (rules.trialEvents subject false rule (rule.trial records subject.record state).1)
      (rule.trial records subject.record state).2 := by
  refine (rules.attempt_runs records subject false rule state).bind_nil ?_
  generalize rule.trial records subject.record state = result
  rcases result with ⟨_ | _ | _ | reason, after⟩ <;> exact .pure _

/-- The loop that counts is a pass too, with nothing noted of the rule that holds. -/
theorem forIn_runs (rs : List Rule) (report : Report) (state : σ) :
    ∃ evaluated, Noting.Runs records (forIn rs report (rules.count subject)) state
      { line := ((Rule.pass records subject.record rs state).1.matching.map Rule.line).or
          report.line
        evaluated := evaluated
        failures := report.failures ++
          (Rule.pass records subject.record rs state).1.faulted.map (·.1.line) }
      (rules.passEvents subject false (Rule.pass records subject.record rs state).1)
      (Rule.pass records subject.record rs state).2 := by
  -- a round starts with what the rounds before it counted
  induction rs generalizing report state with
  | nil =>
    refine ⟨report.evaluated, ?_⟩
    rw [Rule.pass, List.map_nil, List.append_nil]
    exact .pure _
  | cons rule rest ih =>
    have first := rules.count_runs records subject rule report state
    rw [List.forIn_cons, Rule.pass]
    generalize rule.trial records subject.record state = result at first
    rcases result with ⟨_ | _ | _ | reason, after⟩
    · obtain ⟨evaluated, others⟩ := ih report after
      exact ⟨evaluated, first.bind others⟩
    · obtain ⟨evaluated, others⟩ := ih { report with evaluated := report.evaluated + 1 } after
      exact ⟨evaluated, first.bind others⟩
    · refine ⟨report.evaluated + 1, ?_⟩
      rw [List.map_nil, List.append_nil]
      exact first.bind_nil (.pure _)
    · obtain ⟨evaluated, others⟩ := ih { report with
        evaluated := report.evaluated + 1, failures := report.failures ++ [rule.line] } after
      simp only [List.append_assoc, List.singleton_append] at others
      exact ⟨evaluated, first.bind others⟩

theorem findMatch_run (state : σ) : (rules.findMatch subject debug).run records state =
    (.ok ⟨(Rule.pass records subject.record rules.rules state).1.matching, rules.sink,
      rules.passEvents subject debug (Rule.pass records subject.record rules.rules state).1⟩,
      (Rule.pass records subject.record rules.rules state).2) :=
  (rules.findM?_runs records subject debug rules.rules state).reported rules.sink

theorem holds_run (state : σ) : (rules.holds subject debug).run records state =
    (.ok ⟨(Rule.pass records subject.record rules.rules state).1.matching.isSome, rules.sink,
      rules.passEvents subject debug (Rule.pass records subject.record rules.rules state).1⟩,
      (Rule.pass records subject.record rules.rules state).2) := by
  rw [holds, Reading.run_bind, findMatch_run]
  rfl

/-- One rule is tried as a pass over it alone. -/
theorem evaluate_run (rule : Rule) (state : σ) :
    (rules.evaluate rule subject debug).run records state =
    (.ok ⟨(Rule.pass records subject.record [rule] state).1.matching.isSome, rules.sink,
      rules.passEvents subject debug (Rule.pass records subject.record [rule] state).1⟩,
      (Rule.pass records subject.record [rule] state).2) := by
  have runs := (rules.hits_runs records subject debug rule state).reported rules.sink
  rw [evaluate, runs, Rule.pass]
  rcases rule.trial records subject.record state with ⟨_ | _ | _ | reason, after⟩ <;>
    cases debug <;> rfl

theorem report_run (state : σ) : ∃ report, (rules.report subject).run records state =
      (.ok ⟨report, rules.sink,
        rules.passEvents subject false (Rule.pass records subject.record rules.rules state).1⟩,
        (Rule.pass records subject.record rules.rules state).2) ∧
    report.failures =
      (Rule.pass records subject.record rules.rules state).1.faulted.map (·.1.line) := by
  obtain ⟨evaluated, runs⟩ := rules.forIn_runs records subject rules.rules ⟨none, 0, []⟩ state
  exact ⟨_, runs.reported rules.sink, List.nil_append _⟩

end Loops

end RuleSet

namespace Rule

variable (records : Records ο σ) (record : ο)

theorem trial_of_failed {rule : Rule} (failed : rule.failed) (state : σ) :
    rule.trial records record state = (.inert, state) := by
  rw [Rule.failed, error?] at failed
  rw [trial, predicate?]
  cases compiled : rule.compiled with
  | ok predicate =>
    rw [compiled] at failed
    cases failed
  | error reason => rfl

/-- Rules that do not compile have no part in a pass. -/
theorem pass_filter (rules : List Rule) (state : σ) :
    pass records record (rules.filter (! ·.failed)) state = pass records record rules state := by
  induction rules generalizing state with
  | nil => rfl
  | cons rule rest ih =>
    cases failed : rule.failed with
    | true =>
      rw [List.filter_cons_of_neg (by rw [failed]; decide), pass,
        trial_of_failed records record failed]
      exact ih state
    | false =>
      rw [List.filter_cons_of_pos (by rw [failed]; rfl), pass, pass]
      rcases rule.trial records record state with ⟨_ | _ | _ | reason, after⟩
      · exact ih after
      · exact ih after
      · rfl
      · simp only [ih after]

end Rule

end RecordRules
