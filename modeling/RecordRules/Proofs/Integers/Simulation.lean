import RecordRules.Proofs.Answers
import RecordRules.Proofs.Integers.Unbounded
import RecordRules.Proofs.NameResolution
import RecordRules.Proofs.Soundness

namespace RecordRules

variable {ο σ α β : Type}

theorem presence_error (reason : Stop) :
    (∃ name, reason = .fault (.absent name)) ∨
      ∀ {α : Type}, presence (.error reason : Except Stop α) = .error reason := by
  cases reason with
  | fault fault =>
    cases fault with
    | absent name => exact .inl ⟨name, rfl⟩
    | _ => exact .inr rfl
  | panic payload => exact .inr rfl

namespace Reading

variable (records : Records ο σ) (state : σ)

theorem run_ofExcept (result : Except Stop α) :
    (ofExcept result).run records state = (result, state) := by
  cases result <;> rfl

theorem run_get (target : ο) (member : MemberId) (args : List (Value ο)) :
    (get target member args).run records state = records.get target member args state :=
  run_ofExcept records _ _

theorem transcript_get (target : ο) (member : MemberId) (args : List (Value ο)) :
    (get target member args).transcript records state =
      [⟨⟨target, member, args⟩, (records.get target member args state).1⟩] := by
  have last (result : Except Stop (Value ο)) (state : σ) :
      (ofExcept result).transcript records state = [] := by
    cases result <;> rfl
  exact congrArg (List.cons _) (last _ _)

theorem run_present (x : Reading ο α) :
    x.present.run records state =
      (presence (x.run records state).1, (x.run records state).2) := by
  induction x generalizing state with
  | done value => rfl
  | stop reason =>
    cases reason with
    | fault fault => cases fault <;> rfl
    | panic payload => rfl
  | read target member args next ih => exact ih _ _

theorem transcript_present (x : Reading ο α) :
    x.present.transcript records state = x.transcript records state := by
  induction x generalizing state with
  | done value => rfl
  | stop reason =>
    cases reason with
    | fault fault => cases fault <;> rfl
    | panic payload => rfl
  | read target member args next ih => exact congrArg (List.cons _) (ih _ _)

end Reading

/-- The fault of the first operation that has one. -/
def firstFault? (operations : List Operation) : Option Fault :=
  operations.findSome? Operation.fault?

/-- The operation is among them, and none before it has a fault. -/
def Reached (operations : List Operation) (operation : Operation) : Prop :=
  ∃ before later, operations = before ++ operation :: later ∧ ∀ o ∈ before, o.fault? = none

theorem firstFault?_eq_some_iff {operations : List Operation} {fault : Fault} :
    firstFault? operations = some fault ↔
      ∃ operation, Reached operations operation ∧ operation.fault? = some fault := by
  rw [firstFault?, List.findSome?_eq_some_iff]
  constructor
  · rintro ⟨before, operation, later, eq, found, sound⟩
    exact ⟨operation, ⟨before, later, eq, sound⟩, found⟩
  · rintro ⟨operation, ⟨before, later, eq, sound⟩, found⟩
    exact ⟨before, operation, later, eq, found, sound⟩

theorem firstFault?_eq_none_iff {operations : List Operation} :
    firstFault? operations = none ↔ ∀ operation ∈ operations, operation.fault? = none :=
  List.findSome?_eq_none_iff

theorem firstFault?_append (operations later : List Operation) :
    firstFault? (operations ++ later) = (firstFault? operations).or (firstFault? later) :=
  List.findSome?_append

theorem eq_divisionByZero_or_overflow {operations : List Operation} {fault : Fault}
    (h : firstFault? operations = some fault) : fault = .divisionByZero ∨ fault = .overflow := by
  obtain ⟨operation, -, found⟩ := List.exists_of_findSome?_eq_some h
  unfold Operation.fault? at found
  split at found
  · exact .inl (Option.some.inj found).symm
  · split at found
    · cases found
    · exact .inr (Option.some.inj found).symm

/-- No string whose length is asked for is longer than a string in memory can be. -/
def InMemory (operations : List Operation) : Prop :=
  ∀ s, Reached operations (.length s) → s.length ≤ Int64.maxValue.toInt

theorem InMemory.of_append_left {operations later : List Operation}
    (h : InMemory (operations ++ later)) : InMemory operations := by
  rintro s ⟨before, between, rfl, sound⟩
  exact h s ⟨before, between ++ later, by simp, sound⟩

theorem InMemory.of_append_right {operations later : List Operation}
    (h : InMemory (operations ++ later)) (none : firstFault? operations = none) :
    InMemory later := by
  rintro s ⟨before, after, rfl, sound⟩
  refine h s ⟨operations ++ before, after, by simp, fun o mem => ?_⟩
  rcases List.mem_append.mp mem with mem | mem
  · exact firstFault?_eq_none_iff.mp none o mem
  · exact sound o mem

/-- Evaluation stops at the first operation that has a fault, and with that fault. If there is none,
it ends as the exact computation does, in the same state: with a value that is related, or for a
reason that a record has given as an answer. -/
inductive Matches (records : Records ο σ) (x : Reading ο α) (state : σ) (R : α → β → Prop) :
    Ledger σ β → Prop
  | stops {result operations after fault} : firstFault? operations = some fault →
    (x.run records state).1 = .error (.fault fault) →
    Matches records x state R ⟨result, operations, after⟩
  | gives {a b operations after} : firstFault? operations = none →
    x.run records state = (.ok a, after) → R a b →
    Matches records x state R ⟨.ok b, operations, after⟩
  | fails {reason operations after exchange} : firstFault? operations = none →
    x.run records state = (.error reason, after) →
    exchange ∈ x.transcript records state → exchange.answer = .error reason →
    Matches records x state R ⟨.error reason, operations, after⟩

namespace Matches

variable {records : Records ο σ} {x : Reading ο α} {state : σ} {R : α → β → Prop}
  {ledger : Ledger σ β} (h : Matches records x state R ledger)
include h

theorem of_ok {a : α} {after : σ} (run : x.run records state = (.ok a, after)) :
    ∃ b, R a b ∧ ledger.result = .ok b ∧ ledger.state = after ∧
      firstFault? ledger.operations = none := by
  cases h with
  | stops _ stopped =>
    rw [run] at stopped
    cases stopped
  | gives sound ended related =>
    cases run.symm.trans ended
    exact ⟨_, related, rfl, rfl, sound⟩
  | fails _ ended => cases run.symm.trans ended

theorem of_fault {fault : Fault} (faulty : firstFault? ledger.operations = some fault) :
    (x.run records state).1 = .error (.fault fault) := by
  cases h with
  | stops found stopped =>
    cases found.symm.trans faulty
    exact stopped
  | gives sound => cases sound.symm.trans faulty
  | fails sound => cases sound.symm.trans faulty

theorem of_error {reason : Stop} (run : (x.run records state).1 = .error reason) :
    (∃ fault, firstFault? ledger.operations = some fault ∧ reason = .fault fault) ∨
      (firstFault? ledger.operations = none ∧ ledger.result = .error reason ∧
        ∃ exchange ∈ x.transcript records state, exchange.answer = .error reason) := by
  cases h with
  | stops faulty stopped =>
    cases run.symm.trans stopped
    exact .inl ⟨_, faulty, rfl⟩
  | gives _ ended =>
    rw [ended] at run
    cases run
  | fails sound ended mem answer =>
    rw [ended] at run
    cases run
    exact .inr ⟨sound, rfl, _, mem, answer⟩

end Matches

/-- From any state of the records, evaluation goes as the exact computation. -/
def Follows (records : Records ο σ) (x : Reading ο α) (y : Exactly σ β) (R : α → β → Prop) :
    Prop :=
  ∀ state, InMemory (y state).operations → Matches records x state R (y state)

namespace Exactly

variable {y : Exactly σ α} {g : α → Exactly σ β} {state mid : σ} {operations : List Operation}

theorem bind_of_ok {a : α} (h : y state = ⟨.ok a, operations, mid⟩) :
    (y >>= g) state =
      ⟨(g a mid).result, operations ++ (g a mid).operations, (g a mid).state⟩ := by
  change Exactly.bind y g state = _
  rw [Exactly.bind, h]

theorem bind_of_error {reason : Stop} (h : y state = ⟨.error reason, operations, mid⟩) :
    (y >>= g) state = ⟨.error reason, operations, mid⟩ := by
  change Exactly.bind y g state = _
  rw [Exactly.bind, h]

/-- What comes later adds to the operations. -/
theorem operations_bind :
    ∃ later, ((y >>= g) state).operations = (y state).operations ++ later := by
  rcases eq : y state with ⟨reason | a, operations, mid⟩
  · exact ⟨[], by rw [bind_of_error eq, List.append_nil]⟩
  · exact ⟨_, by rw [bind_of_ok eq]⟩

end Exactly

namespace Follows

variable {records : Records ο σ} {x : Reading ο α} {y : Exactly σ β} {R : α → β → Prop}

theorem pure {a : α} {b : β} (h : R a b) : Follows records (Pure.pure a) (Pure.pure b) R :=
  fun _ _ => .gives rfl rfl h

theorem imp {R' : α → β → Prop} (h : Follows records x y R) (le : ∀ a b, R a b → R' a b) :
    Follows records x y R' := by
  intro state memory
  have first := h state memory
  generalize y state = ledger at first ⊢
  cases first with
  | stops faulty run => exact .stops faulty run
  | gives sound run related => exact .gives sound run (le _ _ related)
  | fails sound run mem answer => exact .fails sound run mem answer

theorem bind {γ δ : Type} {f : α → Reading ο γ} {g : β → Exactly σ δ} {Q : γ → δ → Prop}
    (h : Follows records x y R) (hf : ∀ a b, R a b → Follows records (f a) (g b) Q) :
    Follows records (x >>= f) (y >>= g) Q := by
  intro state memory
  obtain ⟨later, added⟩ : ∃ later, ((y >>= g) state).operations = (y state).operations ++ later :=
    Exactly.operations_bind
  have first := h state (added ▸ memory).of_append_left
  rcases eq : y state with ⟨result, operations, mid⟩
  rw [eq] at first
  cases first with
  | @stops _ _ _ fault faulty run =>
    have stopped : ((x >>= f).run records state).1 = .error (.fault fault) := by
      rw [Reading.run_bind]
      rcases ended : x.run records state with ⟨outcome, after⟩
      rw [ended] at run
      obtain rfl : outcome = _ := run
      rfl
    cases result with
    | error reason =>
      rw [Exactly.bind_of_error eq]
      exact .stops faulty stopped
    | ok b =>
      rw [Exactly.bind_of_ok eq]
      refine .stops ?_ stopped
      rw [firstFault?_append, faulty, Option.some_or]
  | @gives a b _ _ sound run related =>
    rw [Exactly.bind_of_ok eq] at memory ⊢
    have run_bind : (x >>= f).run records state = (f a).run records mid := by
      rw [Reading.run_bind, run]
    have later := hf a b related mid (memory.of_append_right sound)
    have faults (more : List Operation) :
        firstFault? (operations ++ more) = firstFault? more := by
      rw [firstFault?_append, sound, Option.none_or]
    generalize g b mid = ledger at later ⊢
    cases later with
    | stops faulty stopped => exact .stops ((faults _).trans faulty) (by rw [run_bind, stopped])
    | gives sound ended related =>
      exact .gives ((faults _).trans sound) (run_bind.trans ended) related
    | fails sound ended mem answer =>
      refine .fails ((faults _).trans sound) (run_bind.trans ended) ?_ answer
      rw [Reading.transcript_bind, run]
      exact List.mem_append_right _ mem
  | @fails reason _ _ exchange sound run mem answer =>
    rw [Exactly.bind_of_error eq]
    refine .fails sound ?_ ?_ answer
    · rw [Reading.run_bind, run]
    · rw [Reading.transcript_bind]
      exact List.mem_append_left _ mem

theorem ofExcept_ok {a : α} {b : β} {outcome : Except Stop α} (eq : outcome = .ok a)
    (h : R a b) : Follows records (.ofExcept outcome) (Pure.pure b) R := by
  rw [eq]
  exact pure h

/-- An operation that evaluation carries out. -/
theorem perform {operation : Operation} {outcome : Except Stop (Value ο)}
    (carries : InMemory [operation] → Value.Carries operation outcome) :
    Follows records (.ofExcept outcome) (Exactly.perform operation)
      (fun v (w : Exact ο) => ∃ n, v = .int n ∧ w = .int n.toInt) := by
  intro state memory
  have only : (Exactly.perform operation state : Ledger σ (Exact ο)).operations = [operation] := by
    unfold Exactly.perform
    split <;> rfl
  rw [only] at memory
  have carried := carries memory
  have first : firstFault? [operation] = operation.fault? := by
    rw [firstFault?, List.findSome?_singleton]
  cases fault : operation.fault? with
  | some reason =>
    have stopped := carried.stops reason fault
    subst stopped
    unfold Exactly.perform
    split
    · exact .stops (first.trans fault) rfl
    · exact .stops (first.trans fault) rfl
  | none =>
    obtain ⟨n, result, rfl⟩ := carried.gives fault
    rw [Exactly.perform, result]
    exact .gives (first.trans fault) rfl ⟨n, rfl, rfl⟩

theorem ask (target : ο) (member : MemberId) (args : List (Value ο)) :
    Follows records (.get target member args) (.ask records target member args)
      fun v w => w = v ∧ ∃ state, (records.get target member args state).1 = .ok v := by
  intro state _
  have run := Reading.run_get records state target member args
  have transcript := Reading.transcript_get records state target member args
  unfold Exactly.ask
  rcases answered : records.get target member args state with ⟨reason | v, after⟩
  · rw [answered] at run transcript
    refine .fails rfl run (transcript ▸ List.mem_cons_self) rfl
  · exact .gives rfl (run.trans answered) ⟨rfl, state, by rw [answered]⟩

/-- A missing component is no fault of an operation. -/
theorem present (h : Follows records x y R) : Follows records x.present y.present Eq := by
  intro state memory
  have run := Reading.run_present records state x
  have transcript := Reading.transcript_present records state x
  have first := h state memory
  rcases eq : y state with ⟨result, operations, after⟩
  rw [eq] at first
  rw [Exactly.present, eq]
  cases first with
  | @stops _ _ _ fault faulty stopped =>
    refine .stops faulty ?_
    rw [run, stopped]
    rcases eq_divisionByZero_or_overflow faulty with rfl | rfl <;> rfl
  | gives sound ended related =>
    rw [ended] at run
    exact .gives sound run rfl
  | @fails reason _ _ exchange sound ended mem answer =>
    rw [ended] at run
    rw [← transcript] at mem
    rcases presence_error reason with ⟨name, rfl⟩ | remains
    · exact .gives sound run rfl
    · rw [remains] at run ⊢
      exact .fails sound run mem answer

end Follows

end RecordRules
