import RecordRules.Loader
import RecordRules.Proofs.Passes
import RecordRules.Regex.Library

namespace RecordRules

variable {ο σ : Type}

/-- What rules are loaded from. -/
inductive Source where
  | text (text : String)
  | list (lines : List String)
  | file (path : String) (contents : Option ByteArray)

def Source.load [Patterns] (source : Source) (loader : Loader) (catalog : Catalog)
    (root : Schema) : Except LoadError (Reported RuleSet) :=
  match source with
  | text source => .ok (loader.loadString catalog root source)
  | list lines => .ok (loader.loadList catalog root lines)
  | file path contents => loader.loadFile catalog root path contents

/-- What a rule set is asked about a record. -/
inductive Question where
  | holds (debug : Bool)
  | findMatch (debug : Bool)
  | evaluate (rule : Rule) (debug : Bool)
  | report

inductive Answer where
  | holds (holds : Bool)
  | found (rule : Option Rule)
  | report (report : Report)

namespace Question

def put (question : Question) (rules : RuleSet) (subject : Subject ο) :
    Reading ο (Reported Answer) := do
  match question with
  | holds debug => do
    let r ← rules.holds subject debug
    return { r with value := .holds r.value }
  | findMatch debug => do
    let r ← rules.findMatch subject debug
    return { r with value := .found r.value }
  | evaluate rule debug => do
    let r ← rules.evaluate rule subject debug
    return { r with value := .holds r.value }
  | report => do
    let r ← rules.report subject
    return { r with value := .report r.value }

/-- The rules that are tried until one of them holds. -/
def rules (set : RuleSet) : Question → List Rule
  | evaluate rule _ => [rule]
  | _ => set.rules

def debug : Question → Bool
  | holds debug | findMatch debug | evaluate _ debug => debug
  | report => false

end Question

/-- What is done in a session: rules are loaded, a rule set is asked, the number saying which of
those loaded so far, or the events at a sink are forgotten. -/
inductive Step (ο : Type) where
  | load (loader : Loader) (catalog : Catalog) (root : Schema) (source : Source)
  | ask (set : Nat) (question : Question) (subject : Subject ο)
  | clear (sink : SinkId)

/-- The rule sets loaded so far with their loaders, the events kept so far, and the state of the
records. -/
structure Session (σ : Type) where
  sets : List (Loader × RuleSet)
  journal : Journal
  state : σ

namespace Session

variable [Patterns]

def start (state : σ) : Session σ :=
  ⟨[], .empty, state⟩

def step (records : Records ο σ) (s : Session σ) : Step ο → Session σ
  | .load loader catalog root source =>
    match source.load loader catalog root with
    | .ok r => { s with sets := s.sets ++ [(loader, r.value)], journal := s.journal.receive r }
    | .error _ => s
  | .ask set question subject =>
    match s.sets[set]? with
    | none => s
    | some (_, rules) =>
      match (question.put rules subject).run records s.state with
      | (.ok r, after) => { s with journal := s.journal.receive r, state := after }
      | (.error _, after) => { s with state := after }
  | .clear sink => { s with journal := s.journal.clear sink }

def run (records : Records ο σ) (s : Session σ) (steps : List (Step ο)) : Session σ :=
  steps.foldl (step records) s

end Session

/-- The events that are due from a step, and the sink for them: first the failures, one by one, and
last what closes them. -/
structure Account where
  sink : Option SinkId
  failures : List Event
  closing : Option Event

namespace Account

def nothing : Account :=
  ⟨none, [], none⟩

/-- An event for every rule that does not compile, and one with the numbers of rules. -/
def ofLoad (loader : Loader) (rules : RuleSet) : Account where
  sink := loader.sink
  failures := rules.rules.filterMap fun rule =>
    rule.error?.map fun reason => .uncompiled rules.label rule.line reason rule.raw
  closing := some (.loaded rules.label rules.size rules.failedCount)

/-- An event for every rule that had no answer, and on demand one for the rule that held. -/
def ofPass (loader : Loader) (rules : RuleSet) (subject : Subject ο) (debug : Bool) (p : Pass) :
    Account where
  sink := loader.sink
  failures := p.faulted.map (rules.faultEvent subject)
  closing := if debug then p.matching.map (rules.matchEvent subject) else none

def events (account : Account) : List Event :=
  account.failures ++ account.closing.toList

/-- The events that are due at the sink. -/
def due (account : Account) (sink : SinkId) : List Event :=
  if account.sink = some sink then account.events else []

end Account

namespace Step

variable [Patterns]

/-- What is due from a step of the session. A file that cannot be read gives nothing. -/
def account (records : Records ο σ) (s : Session σ) : Step ο → Account
  | load loader catalog root source =>
    match source.load loader catalog root with
    | .ok r => .ofLoad loader r.value
    | .error _ => .nothing
  | ask set question subject =>
    match s.sets[set]? with
    | some (loader, rules) =>
      .ofPass loader rules subject question.debug
        (Rule.pass records subject.record (question.rules rules) s.state).1
    | none => .nothing
  | clear _ => .nothing

def clears (sink : SinkId) : Step ο → Bool
  | clear place => place = sink
  | _ => false

end Step

namespace Journal

variable (journal : Journal) (place sink : SinkId)

theorem events_append (es : List Event) : (journal.append place es).events sink =
    journal.events sink ++ if place = sink then es else [] := by
  rw [events, append, List.filterMap_append, List.filterMap_map]
  refine congrArg (journal.events sink ++ ·) ?_
  split
  next same => simp [same]
  next other => simp [other]

theorem events_receive {α : Type} (r : Reported α) : (journal.receive r).events sink =
    journal.events sink ++ if r.sink = some sink then r.events else [] := by
  rw [receive]
  cases r.sink with
  | none => simp
  | some place => simp [events_append]

theorem events_clear : (journal.clear place).events sink =
    if place = sink then [] else journal.events sink := by
  rw [events, clear, List.filterMap_filter, events]
  split
  next same =>
    refine List.filterMap_eq_nil_iff.mpr fun entry _ => ?_
    by_cases here : entry.1 = sink <;> simp [same, here]
  next other =>
    refine List.filterMap_congr fun entry _ => ?_
    by_cases here : entry.1 = sink
    · simp [here, Ne.symm other]
    · simp [here]

end Journal

theorem Source.load_eq_ok [Patterns] {source : Source} {loader : Loader} {catalog : Catalog}
    {root : Schema} {r : Reported RuleSet} (h : source.load loader catalog root = .ok r) :
    ∃ label rules, r = loader.finish label rules := by
  cases source with
  | text source | list lines =>
    cases h
    exact ⟨_, _, rfl⟩
  | file path contents =>
    change loader.loadFile catalog root path contents = .ok r at h
    unfold Loader.loadFile at h
    split at h
    next => cases h
    next bytes =>
      split at h
      next => cases h
      next text =>
        cases h
        exact ⟨_, _, rfl⟩

theorem Reading.run_answer {α : Type} {records : Records ο σ} {x : Reading ο (Reported α)} {a : α}
    {sink : Option SinkId} {events : List Event} {state final : σ}
    (h : x.run records state = (.ok ⟨a, sink, events⟩, final)) (answer : α → Answer) :
    (do
      let r ← x
      return { r with value := answer r.value } : Reading ο (Reported Answer)).run records state =
        (.ok ⟨answer a, sink, events⟩, final) := by
  rw [run_bind, h]
  rfl

theorem Question.put_run (records : Records ο σ) (question : Question) (rules : RuleSet)
    (subject : Subject ο) (state : σ) :
    ∃ answer, (question.put rules subject).run records state =
      (.ok ⟨answer, rules.sink, rules.passEvents subject question.debug
        (Rule.pass records subject.record (question.rules rules) state).1⟩,
        (Rule.pass records subject.record (question.rules rules) state).2) := by
  cases question with
  | holds debug =>
    exact ⟨_, Reading.run_answer (rules.holds_run records subject debug state) .holds⟩
  | findMatch debug =>
    exact ⟨_, Reading.run_answer (rules.findMatch_run records subject debug state) .found⟩
  | evaluate rule debug =>
    exact ⟨_, Reading.run_answer (rules.evaluate_run records subject debug rule state) .holds⟩
  | report =>
    obtain ⟨report, run, -⟩ := rules.report_run records subject state
    exact ⟨_, Reading.run_answer run .report⟩

namespace Session

/-- The rule sets report to the sinks of their loaders. -/
def Consistent (s : Session σ) : Prop :=
  ∀ p ∈ s.sets, p.2.sink = p.1.sink

variable [Patterns] (records : Records ο σ) {s : Session σ}

theorem Consistent.step (h : s.Consistent) (step : Step ο) : (s.step records step).Consistent := by
  cases step with
  | load loader catalog root source =>
    cases loaded : source.load loader catalog root with
    | error e =>
      simp only [Session.step, loaded]
      exact h
    | ok r =>
      obtain ⟨label, rules, rfl⟩ := Source.load_eq_ok loaded
      simp only [Session.step, loaded]
      intro p mem
      rcases List.mem_append.mp mem with mem | mem
      · exact h p mem
      · rw [List.mem_singleton.mp mem]
        rfl
  | ask set question subject =>
    cases found : s.sets[set]? with
    | none =>
      simp only [Session.step, found]
      exact h
    | some p =>
      obtain ⟨answer, run⟩ := question.put_run records p.2 subject s.state
      simp only [Session.step, found, run]
      exact h
  | clear sink => exact h

theorem Consistent.run (h : s.Consistent) (steps : List (Step ο)) :
    (s.run records steps).Consistent := by
  induction steps generalizing s with
  | nil => exact h
  | cons step rest ih => exact ih (h.step records step)

/-- A step adds to a sink what is due there, and nothing else. -/
theorem Consistent.events_step (h : s.Consistent) (step : Step ο) (sink : SinkId) :
    (s.step records step).journal.events sink =
      (if step.clears sink then [] else s.journal.events sink) ++
        (step.account records s).due sink := by
  cases step with
  | load loader catalog root source =>
    cases loaded : source.load loader catalog root with
    | error e =>
      simp only [Session.step, Step.account, loaded]
      exact (List.append_nil _).symm
    | ok r =>
      obtain ⟨label, rules, rfl⟩ := Source.load_eq_ok loaded
      simp only [Session.step, Step.account, loaded]
      exact s.journal.events_receive sink _
  | ask set question subject =>
    cases found : s.sets[set]? with
    | none =>
      simp only [Session.step, Step.account, found]
      exact (List.append_nil _).symm
    | some p =>
      have place := h p (List.mem_of_getElem? found)
      obtain ⟨answer, run⟩ := question.put_run records p.2 subject s.state
      simp only [Session.step, Step.account, found, run]
      rw [Journal.events_receive, Account.due, Account.ofPass, place]
      rfl
  | clear place =>
    have nothing : Account.nothing.due sink = [] := if_neg nofun
    simp only [Session.step, Step.account, Journal.events_clear, Step.clears, decide_eq_true_eq,
      nothing, List.append_nil]

/-- Events stay at their sink until it is cleared. -/
theorem Consistent.events_run (h : s.Consistent) {steps : List (Step ο)} {sink : SinkId}
    (kept : ∀ step ∈ steps, step.clears sink = false) :
    s.journal.events sink <+: (s.run records steps).journal.events sink := by
  induction steps generalizing s with
  | nil => exact List.prefix_refl _
  | cons step rest ih =>
    obtain ⟨first, others⟩ := List.forall_mem_cons.mp kept
    have added := h.events_step records step sink
    rw [if_neg (by rw [first]; decide)] at added
    exact (added ▸ List.prefix_append _ _).trans (ih (h.step records step) others)

end Session

/-- The message begins with the place of a rule. -/
def Event.Names (e : Event) (label : String) (line : Nat) : Prop :=
  ∃ rest, e.message = place label line ++ rest

theorem Event.names_uncompiled (label : String) (line : Nat) (reason : CompileError)
    (raw : String) : (uncompiled label line reason raw).Names label line :=
  ⟨" rule failed to compile: " ++ (reason.message ++ ("\n  rule: " ++ raw)), by
    simp only [message, String.append_assoc]⟩

theorem Event.names_faulted (label : String) (line : Nat) (record : String) (reason : Fault)
    (raw source : String) : (faulted label line record reason raw source).Names label line :=
  ⟨" evaluation failed for " ++ (record ++ (": " ++ (reason.message ++ ("\n  rule: " ++ (raw ++
    ("\n  compiled from: " ++ String.ofList (Text.trimEnd source.toList))))))), by
    simp only [message, String.append_assoc]⟩

theorem Event.names_matched (label : String) (line : Nat) (record raw : String) :
    (matched label line record raw).Names label line :=
  ⟨" matched " ++ (record ++ (": " ++ raw)), by simp only [message, String.append_assoc]⟩

/-- Of each rule that does not compile there is one failure, in the order of the rules. -/
theorem Account.forall₂_ofLoad (loader : Loader) (rules : RuleSet) :
    List.Forall₂ (fun rule e => ∃ reason, rule.error? = some reason ∧
        e = .uncompiled rules.label rule.line reason rule.raw)
      (rules.rules.filter (·.failed)) (ofLoad loader rules).failures := by
  rw [ofLoad]
  induction rules.rules with
  | nil => exact .nil
  | cons rule rest ih =>
    cases failed : rule.error? with
    | none =>
      rw [List.filter_cons_of_neg (by rw [Rule.failed, failed]; decide),
        List.filterMap_cons_none (by rw [failed]; rfl)]
      exact ih
    | some reason =>
      rw [List.filter_cons_of_pos (by rw [Rule.failed, failed]; rfl),
        List.filterMap_cons_some (by rw [failed]; rfl)]
      exact .cons ⟨reason, failed, rfl⟩ ih

theorem Step.level_of_mem_failures [Patterns] {records : Records ο σ} {s : Session σ}
    {step : Step ο} {e : Event} (mem : e ∈ (step.account records s).failures) :
    e.level = .error ∧ e.priority = 2 := by
  cases step with
  | load loader catalog root source =>
    cases loaded : source.load loader catalog root with
    | error e =>
      simp only [account, loaded] at mem
      cases mem
    | ok r =>
      simp only [account, loaded] at mem
      obtain ⟨rule, -, made⟩ := List.mem_filterMap.mp mem
      obtain ⟨reason, -, rfl⟩ := Option.map_eq_some_iff.mp made
      exact ⟨rfl, rfl⟩
  | ask set question subject =>
    cases found : s.sets[set]? with
    | none =>
      simp only [account, found] at mem
      cases mem
    | some p =>
      simp only [account, found] at mem
      obtain ⟨failure, -, rfl⟩ := List.mem_map.mp mem
      exact ⟨rfl, rfl⟩
  | clear sink => cases mem

/-- The events at every sink account for all that was done, and for nothing else. -/
structure Session.Accounts [Patterns] (records : Records ο σ) (s : Session σ) : Prop where
  /-- A step adds to a sink what is due there. Only clearing the sink takes something away. -/
  exact : ∀ (step : Step ο) (sink : SinkId), (s.step records step).journal.events sink =
    (if step.clears sink then [] else s.journal.events sink) ++ (step.account records s).due sink
  /-- Failures are errors, of the priority of failures. -/
  failures : ∀ step : Step ο, ∀ e ∈ (step.account records s).failures,
    e.level = .error ∧ e.priority = 2
  /-- Due from loading is a failure for each rule that does not compile, in the order of the rules,
  and then a summary with the numbers of the new rule set. -/
  load : ∀ loader catalog root source r, source.load loader catalog root = .ok r →
    let step : Step ο := .load loader catalog root source
    let account := step.account records s
    (s.step records step).sets = s.sets ++ [(loader, r.value)] ∧ account.sink = loader.sink ∧
      List.Forall₂ (fun rule e => ∃ reason, rule.error? = some reason ∧
          e = .uncompiled r.value.label rule.line reason rule.raw ∧ e.Names r.value.label rule.line)
        (r.value.rules.filter (·.failed)) account.failures ∧
      ∃ summary, account.closing = some summary ∧ summary.level = .info ∧ summary.priority = 1 ∧
        summary = .loaded r.value.label r.value.size r.value.failedCount
  /-- A file that cannot be read changes nothing. -/
  unreadable : ∀ loader catalog root source e, source.load loader catalog root = .error e →
    let step : Step ο := .load loader catalog root source
    s.step records step = s ∧ (step.account records s).events = []
  /-- A question is answered. Due from it is a failure for each rule that had no answer before the
  pass stopped, and then a trace of the rule that held, if that is wanted. -/
  ask : ∀ set loader rules, s.sets[set]? = some (loader, rules) →
    ∀ (question : Question) (subject : Subject ο),
      let account := (Step.ask set question subject).account records s
      let p := (Rule.pass records subject.record (question.rules rules) s.state).1
      account.sink = loader.sink ∧
      (∃ answer final, (question.put rules subject).run records s.state =
        (.ok ⟨answer, loader.sink, account.events⟩, final)) ∧
      List.Forall₂ (fun failure e => e = rules.faultEvent subject failure ∧
        e.Names rules.label failure.1.line) p.faulted account.failures ∧
      (account.closing.isSome ↔ question.debug ∧ p.matching.isSome) ∧
      ∀ trace ∈ account.closing, trace.level = .info ∧ trace.priority = 0 ∧
        ∃ rule ∈ p.matching, trace = rules.matchEvent subject rule ∧
          trace.Names rules.label rule.line
  /-- A report comes with the events of the search without a trace, one for each of its failures. -/
  report : ∀ set loader rules, s.sets[set]? = some (loader, rules) → ∀ subject : Subject ο,
    let account := (Step.ask set .report subject).account records s
    account = (Step.ask set (.findMatch false) subject).account records s ∧
      account.closing = none ∧
      ∃ report final, (rules.report subject).run records s.state =
          (.ok ⟨report, loader.sink, account.failures⟩, final) ∧
        List.Forall₂ (fun e line => e.Names rules.label line) account.failures report.failures
  /-- Rules that do not compile have no part in a pass. -/
  inert : ∀ (record : ο) rules state, Rule.pass records record (rules.filter (! ·.failed)) state =
    Rule.pass records record rules state
  /-- Events stay at their sink until it is cleared. -/
  grows : ∀ (steps : List (Step ο)) sink, (∀ step ∈ steps, step.clears sink = false) →
    s.journal.events sink <+: (s.run records steps).journal.events sink
  /-- The events at a sink are divided into infos and errors, which keep their order. -/
  divides : ∀ sink, (s.journal.infos sink).Sublist (s.journal.events sink) ∧
    (s.journal.errors sink).Sublist (s.journal.events sink) ∧
    (s.journal.infos sink ++ s.journal.errors sink).Perm (s.journal.events sink) ∧
    (∀ e ∈ s.journal.infos sink, e.level = .info) ∧ ∀ e ∈ s.journal.errors sink, e.level = .error

theorem Journal.divides (journal : Journal) (sink : SinkId) :
    (journal.infos sink).Sublist (journal.events sink) ∧
      (journal.errors sink).Sublist (journal.events sink) ∧
      (journal.infos sink ++ journal.errors sink).Perm (journal.events sink) ∧
      (∀ e ∈ journal.infos sink, e.level = .info) ∧
      ∀ e ∈ journal.errors sink, e.level = .error := by
  have other (e : Event) : decide (e.level = .error) = !decide (e.level = .info) := by
    cases e.level <;> rfl
  refine ⟨List.filter_sublist, List.filter_sublist, ?_, fun e mem => ?_, fun e mem => ?_⟩
  · simp only [infos, errors, atLevel, other]
    exact List.filter_append_perm _ _
  · exact of_decide_eq_true (List.mem_filter.mp mem).2
  · exact of_decide_eq_true (List.mem_filter.mp mem).2

namespace Account

variable (loader : Loader) (rules : RuleSet) (subject : Subject ο) (debug : Bool) (p : Pass)

/-- Of each rule that had no answer there is one failure, in the order of the pass. -/
theorem forall₂_ofPass : List.Forall₂ (fun failure e => e = rules.faultEvent subject failure ∧
      e.Names rules.label failure.1.line)
    p.faulted (ofPass loader rules subject debug p).failures := by
  refine List.forall₂_map_right_iff.mpr (List.forall₂_same.mpr fun failure _ => ?_)
  exact ⟨rfl, Event.names_faulted _ _ _ _ _ _⟩

theorem isSome_closing_ofPass : (ofPass loader rules subject debug p).closing.isSome ↔
    debug ∧ p.matching.isSome := by
  cases debug with
  | true => simp [ofPass]
  | false => simp [ofPass]

theorem trace_ofPass : ∀ trace ∈ (ofPass loader rules subject debug p).closing,
    trace.level = .info ∧ trace.priority = 0 ∧ ∃ rule ∈ p.matching,
      trace = rules.matchEvent subject rule ∧ trace.Names rules.label rule.line := by
  intro trace mem
  cases debug with
  | true =>
    obtain ⟨rule, held, rfl⟩ := Option.map_eq_some_iff.mp mem
    exact ⟨rfl, rfl, rule, held, rfl, Event.names_matched _ _ _ _⟩
  | false => cases mem

end Account

theorem Session.Consistent.ask [Patterns] {s : Session σ} (h : s.Consistent)
    (records : Records ο σ) {set : Nat} {loader : Loader} {rules : RuleSet}
    (found : s.sets[set]? = some (loader, rules)) (question : Question) (subject : Subject ο) :
    ∃ answer final, (question.put rules subject).run records s.state = (.ok ⟨answer, loader.sink,
      ((Step.ask set question subject).account records s).events⟩, final) := by
  have place := h _ (List.mem_of_getElem? found)
  obtain ⟨answer, run⟩ := question.put_run records rules subject s.state
  rw [place] at run
  simp only [Step.account, found]
  exact ⟨answer, _, run⟩

theorem Session.Consistent.report [Patterns] {s : Session σ} (h : s.Consistent)
    (records : Records ο σ) {set : Nat} {loader : Loader} {rules : RuleSet}
    (found : s.sets[set]? = some (loader, rules)) (subject : Subject ο) :
    ∃ report final, (rules.report subject).run records s.state = (.ok ⟨report, loader.sink,
        ((Step.ask set .report subject).account records s).failures⟩, final) ∧
      List.Forall₂ (fun e line => e.Names rules.label line)
        ((Step.ask set .report subject).account records s).failures report.failures := by
  have place := h _ (List.mem_of_getElem? found)
  obtain ⟨report, run, failures⟩ := rules.report_run records subject s.state
  have noTrace (p : Pass) : rules.passEvents subject false p =
      p.faulted.map (rules.faultEvent subject) := List.append_nil _
  rw [place, noTrace] at run
  simp only [Step.account, found]
  refine ⟨report, _, run, ?_⟩
  rw [failures]
  refine List.forall₂_map_left_iff.mpr (List.forall₂_map_right_iff.mpr ?_)
  exact List.forall₂_same.mpr fun failure _ => Event.names_faulted _ _ _ _ _ _

namespace Session

variable [Patterns] (records : Records ο σ)

/-- In every session that starts with nothing the events account for all that is done. -/
theorem accounts_run (state : σ) (steps : List (Step ο)) :
    ((start state).run records steps).Accounts records := by
  have consistent : ((start state).run records steps).Consistent :=
    Consistent.run records (fun p mem => absurd mem List.not_mem_nil) steps
  -- nothing else is needed of how the session came about
  generalize (start state).run records steps = s at consistent
  constructor
  case exact => exact consistent.events_step records
  case failures => exact fun step e mem => Step.level_of_mem_failures mem
  case load =>
    intro loader catalog root source r loaded step account
    have due : account = .ofLoad loader r.value := by
      simp only [account, step, Step.account, loaded]
    have failures := Account.forall₂_ofLoad loader r.value
    rw [due]
    refine ⟨by simp only [step, Session.step, loaded], rfl, failures.imp ?_, _, rfl, rfl, rfl, rfl⟩
    rintro rule e ⟨reason, failed, rfl⟩
    exact ⟨reason, failed, rfl, Event.names_uncompiled _ _ _ _⟩
  case unreadable =>
    intro loader catalog root source e loaded step
    refine ⟨by simp only [step, Session.step, loaded], ?_⟩
    simp only [step, Step.account, loaded]
    rfl
  case ask =>
    intro set loader rules found question subject
    let p := (Rule.pass records subject.record (question.rules rules) s.state).1
    have due : (Step.ask set question subject).account records s =
        .ofPass loader rules subject question.debug p := by
      simp only [p, Step.account, found]
    have answered := consistent.ask records found question subject
    rw [due] at answered ⊢
    exact ⟨rfl, answered, Account.forall₂_ofPass _ _ _ _ _, Account.isSome_closing_ofPass _ _ _ _ _,
      Account.trace_ofPass _ _ _ _ _⟩
  case report =>
    intro set loader rules found subject account
    refine ⟨?_, ?_, consistent.report records found subject⟩
    · simp only [account, Step.account, found]
      rfl
    · simp only [account, Step.account, found]
      rfl
  case inert => exact Rule.pass_filter records
  case grows => exact fun steps sink kept => consistent.events_run records kept
  case divides => exact s.journal.divides

end Session

/-- Loading three rules, of which one does not compile and one has no answer, and then looking for
one that holds. -/
def Box.steps : List (Step Box) :=
  [.load ⟨none, some ⟨0⟩⟩ catalog schema
      (.text "weights.len() >\n\ninner.weights.len() > 0\n\ntrue"),
    .ask 0 (.findMatch true) ⟨closed [7] none, "box"⟩]

/-- A failure and a summary from the first step, and a failure and a trace from the second. -/
theorem Box.accounts_run_steps :
    let s := (Session.start ()).run (Records.ofAnswers answer) steps
    s.Accounts (Records.ofAnswers answer) ∧
      (s.journal.events ⟨0⟩).map (fun e => (e.level, e.priority)) =
        [(.error, 2), (.info, 1), (.error, 2), (.info, 0)] :=
  ⟨Session.accounts_run _ () steps, by decide +kernel⟩

end RecordRules
