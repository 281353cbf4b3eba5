import RecordRules.Proofs.Conformance

namespace RecordRules

variable {ο σ α β : Type}

/-- What records answer to questions. -/
abbrev Answers (ο : Type) : Type :=
  ο → MemberId → List (Value ο) → Except Stop (Value ο)

/-- From the state on the records give these answers, whatever is asked before. -/
def Records.Steady (records : Records ο σ) (answers : Answers ο) (state : σ) : Prop :=
  ∃ reached : σ → Prop, reached state ∧ ∀ s, reached s → ∀ target member args,
    (records.get target member args s).1 = answers target member args ∧
      reached (records.get target member args s).2

theorem Records.Steady.get {records : Records ο σ} {answers : Answers ο} {state : σ}
    (h : records.Steady answers state) (target : ο) (member : MemberId) (args : List (Value ο)) :
    (records.get target member args state).1 = answers target member args ∧
      records.Steady answers (records.get target member args state).2 := by
  obtain ⟨reached, now, steady⟩ := h
  obtain ⟨same, later⟩ := steady state now target member args
  exact ⟨same, reached, later, steady⟩

theorem Records.steady_ofAnswers (answers : Answers ο) : (ofAnswers answers).Steady answers () :=
  ⟨fun _ => True, trivial, fun _ _ _ _ _ => ⟨rfl, trivial⟩⟩

namespace Reading

/-- The computation ends with the value after exactly these calls. -/
structure Ends (records : Records ο σ) (state : σ) (x : Reading ο α) (value : α)
    (calls : List (Call ο)) : Prop where
  result : (x.run records state).1 = .ok value
  calls : (x.transcript records state).map Exchange.call = calls

/-- What comes of a computation on steady records depends on their answers alone. -/
theorem run_of_steady {records : Records ο σ} {answers : Answers ο} {state : σ}
    (steady : records.Steady answers state) (x : Reading ο α) :
    (x.run records state).1 = (x.run (.ofAnswers answers) ()).1 ∧
      x.transcript records state = x.transcript (.ofAnswers answers) () := by
  induction x generalizing state with
  | done | stop => exact ⟨rfl, rfl⟩
  | read target member args next ih =>
    obtain ⟨same, later⟩ := steady.get target member args
    obtain ⟨result, calls⟩ := ih (answers target member args) later
    simp only [run, transcript, same]
    exact ⟨result, congrArg _ calls⟩

theorem Ends.of_steady {records : Records ο σ} {answers : Answers ο} {state : σ}
    {x : Reading ο α} {value : α} {calls : List (Call ο)}
    (h : Ends (.ofAnswers answers) () x value calls) (steady : records.Steady answers state) :
    Ends records state x value calls := by
  obtain ⟨result, transcript⟩ := run_of_steady steady x
  exact ⟨result.trans h.result, (congrArg _ transcript).trans h.calls⟩

theorem answer_of_mem_transcript {answers : Answers ο} {x : Reading ο α} {exchange : Exchange ο}
    (mem : exchange ∈ x.transcript (.ofAnswers answers) ()) :
    exchange.answer = answers exchange.call.target exchange.call.member exchange.call.args := by
  induction x with
  | done | stop => cases mem
  | read target member args next ih =>
    rcases List.mem_cons.mp mem with rfl | mem
    · rfl
    · exact ih _ mem

theorem transcript_bind (records : Records ο σ) (x : Reading ο α) (f : α → Reading ο β) (state : σ) :
    (x >>= f).transcript records state =
      x.transcript records state ++
        match x.run records state with
        | (.ok value, after) => (f value).transcript records after
        | (.error _, _) => [] := by
  induction x generalizing state with
  | done | stop => rfl
  | read target member args next ih => exact congrArg _ (ih _ _)

theorem run_guarded (records : Records ο σ) (x : Reading ο α) (state : σ) :
    x.guarded.run records state =
      (.ok ((x.run records state).1.mapError Stop.caught), (x.run records state).2) := by
  induction x generalizing state with
  | done | stop => rfl
  | read target member args next ih => exact ih _ _

theorem transcript_guarded (records : Records ο σ) (x : Reading ο α) (state : σ) :
    x.guarded.transcript records state = x.transcript records state := by
  induction x generalizing state with
  | done | stop => rfl
  | read target member args next ih => exact congrArg _ (ih _ _)

namespace Ends

variable {answers : Answers ο} {x : Reading ο α} {a : α} {calls : List (Call ο)}

theorem pure (a : α) : Ends (.ofAnswers answers) () (pure a : Reading ο α) a [] :=
  ⟨rfl, rfl⟩

theorem bind {f : α → Reading ο β} {b : β} {calls' : List (Call ο)}
    (h : Ends (.ofAnswers answers) () x a calls)
    (hf : Ends (.ofAnswers answers) () (f a) b calls') :
    Ends (.ofAnswers answers) () (x >>= f) b (calls ++ calls') := by
  have run : x.run (.ofAnswers answers) () = (.ok a, ()) := Prod.ext h.result rfl
  refine ⟨?_, ?_⟩
  · rw [run_bind, run]
    exact hf.result
  · rw [transcript_bind, run, List.map_append, h.calls, hf.calls]

theorem bind_nil {f : α → Reading ο β} {b : β} (h : Ends (.ofAnswers answers) () x a calls)
    (hf : Ends (.ofAnswers answers) () (f a) b []) :
    Ends (.ofAnswers answers) () (x >>= f) b calls := by
  have ends := h.bind hf
  rwa [List.append_nil] at ends

theorem map {f : α → β} (h : Ends (.ofAnswers answers) () x a calls) :
    Ends (.ofAnswers answers) () (f <$> x) (f a) calls := by
  rw [map_eq_pure_bind]
  exact h.bind_nil (pure (f a))

/-- A computation behind the boundary always ends. -/
theorem guarded (x : Reading ο α) : Ends (.ofAnswers answers) () x.guarded
    ((x.run (.ofAnswers answers) ()).1.mapError Stop.caught)
    ((x.transcript (.ofAnswers answers) ()).map Exchange.call) :=
  ⟨by rw [run_guarded], by rw [transcript_guarded]⟩

end Ends

end Reading

end RecordRules
