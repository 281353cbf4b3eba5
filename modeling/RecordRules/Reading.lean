import RecordRules.Fault
import RecordRules.Schema
import RecordRules.Value

namespace RecordRules

/-- A computation that asks records for members, one after the other, and goes on with what they
answer. -/
inductive Reading (ο α : Type) where
  | done (value : α)
  | stop (reason : Stop)
  | read (target : ο) (member : MemberId) (args : List (Value ο))
      (next : Except Stop (Value ο) → Reading ο α)

namespace Reading

variable {ο α β σ : Type}

protected def bind : Reading ο α → (α → Reading ο β) → Reading ο β
  | done value, f => f value
  | stop reason, _ => stop reason
  | read target member args next, f => read target member args fun answer => (next answer).bind f

instance : Monad (Reading ο) where
  pure := done
  bind := Reading.bind

theorem bind_done (x : Reading ο α) : x.bind done = x := by
  induction x with
  | done | stop => rfl
  | read target member args next ih => simp [Reading.bind, ih]

theorem bind_bind {γ : Type} (x : Reading ο α) (f : α → Reading ο β) (g : β → Reading ο γ) :
    (x.bind f).bind g = x.bind fun a => (f a).bind g := by
  induction x with
  | done | stop => rfl
  | read target member args next ih => simp [Reading.bind, ih]

instance : LawfulMonad (Reading ο) :=
  LawfulMonad.mk' (Reading ο) bind_done (fun _ _ => rfl) bind_bind

def fault (reason : Fault) : Reading ο α :=
  stop (.fault reason)

def ofExcept : Except Stop α → Reading ο α
  | .ok value => done value
  | .error reason => stop reason

/-- Ask one record for one member. -/
def get (target : ο) (member : MemberId) (args : List (Value ο)) : Reading ο (Value ο) :=
  read target member args ofExcept

/-- The computation behind a boundary that catches every stop. -/
def guarded : Reading ο α → Reading ο (Except Fault α)
  | done value => done (.ok value)
  | stop reason => done (.error reason.caught)
  | read target member args next => read target member args fun answer => (next answer).guarded

end Reading

/-- How records answer. The state stands for all that answers may depend on beside the question. -/
structure Records (ο σ : Type) where
  get : ο → MemberId → List (Value ο) → σ → Except Stop (Value ο) × σ

/-- One question put to a record. -/
structure Call (ο : Type) where
  target : ο
  member : MemberId
  args : List (Value ο)

namespace Records

variable {ο α σ : Type}

/-- Records whose answers depend on the question alone. -/
def ofAnswers (answer : ο → MemberId → List (Value ο) → Except Stop (Value ο)) : Records ο Unit :=
  ⟨fun target member args state => (answer target member args, state)⟩

end Records

/-- The outcome of a computation on the given records, and the state it leaves them in. -/
def Reading.run {ο α σ : Type} (records : Records ο σ) : Reading ο α → σ → Except Stop α × σ
  | done value, state => (.ok value, state)
  | stop reason, state => (.error reason, state)
  | read target member args next, state =>
    let (answer, after) := records.get target member args state
    (next answer).run records after

/-- A computation runs on from the state in which the one before it leaves the records. -/
theorem Reading.run_bind {ο α β σ : Type} (records : Records ο σ) (x : Reading ο α)
    (f : α → Reading ο β) (state : σ) :
    (x >>= f).run records state =
      match x.run records state with
      | (.ok value, after) => (f value).run records after
      | (.error reason, after) => (.error reason, after) := by
  induction x generalizing state with
  | done | stop => rfl
  | read target member args next ih =>
    exact ih _ _

end RecordRules
