import RecordRules.Proofs.Connectives
import RecordRules.Proofs.Integers.Exactness

namespace RecordRules

variable {ο σ α β : Type}

/-- The value of a resolved expression on a record, with these values of the parameters around, the
outermost one first. -/
def Bound.evaluate (e : Bound) (record : ο) (stack : Array (Value ο)) : Reading ο (Value ο) :=
  (e.exec record).startOn stack

theorem Bound.evaluate_eq (e : Bound) (record : ο) (stack : Array (Value ο)) :
    e.evaluate record stack = e.eval record stack.toList.reverse := by
  have same := startOn_exec record e stack.toList.reverse
  rwa [List.reverse_reverse, Array.toArray_toList] at same

/-- What comes of a resolved expression on a record. -/
def Bound.outcome (records : Records ο σ) (state : σ) (e : Bound) (record : ο)
    (stack : Array (Value ο)) : Except Stop (Value ο) :=
  ((e.evaluate record stack).run records state).1

namespace Reading

/-- What comes of a computation on records that give these answers. -/
def result (answers : Answers ο) (x : Reading ο α) : Except Stop α :=
  (x.run (.ofAnswers answers) ()).1

variable {answers : Answers ο}

/-- On such records one part of a computation does not change what comes of the next one. -/
theorem result_bind (x : Reading ο α) (f : α → Reading ο β) :
    (x >>= f).result answers = x.result answers >>= fun a => (f a).result answers := by
  unfold result
  rw [run_bind]
  rcases x.run (.ofAnswers answers) () with ⟨_ | a, ⟨⟩⟩
  · rfl
  · rfl

theorem result_map (f : α → β) (x : Reading ο α) :
    (f <$> x).result answers = f <$> x.result answers := by
  rw [map_eq_pure_bind, result_bind, map_eq_pure_bind]
  rfl

theorem result_ofExcept (r : Except Stop α) :
    (ofExcept r : Reading ο α).result answers = r := by
  cases r <;> rfl

theorem result_bind_of_ok {x : Reading ο α} {f : α → Reading ο β} {a : α}
    (h : x.result answers = .ok a) : (x >>= f).result answers = (f a).result answers := by
  rw [result_bind, h]
  rfl

theorem result_bind_of_error {x : Reading ο α} {f : α → Reading ο β} {reason : Stop}
    (h : x.result answers = .error reason) : (x >>= f).result answers = .error reason := by
  rw [result_bind, h]
  rfl

end Reading

theorem Bound.outcome_of_steady {records : Records ο σ} {answers : Answers ο} {state : σ}
    (steady : records.Steady answers state) (e : Bound) (record : ο) (stack : Array (Value ο)) :
    e.outcome records state record stack =
      (e.eval record stack.toList.reverse).result answers := by
  rw [outcome, evaluate_eq]
  exact (Reading.run_of_steady steady _).1

end RecordRules
