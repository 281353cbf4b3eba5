import RecordRules.Reading

namespace RecordRules

/-- Computations with a stack, on which the values of parameters are, the outermost one first. A
fault leaves the stack as it is. -/
abbrev Machine (ο : Type) : Type → Type :=
  ExceptT Fault (StateT (Array (Value ο)) (Reading ο))

namespace Machine

variable {ο α : Type}

/-- A fault may be handled, a panic breaks everything off. -/
def ofExcept : Except Stop α → Machine ο α
  | .ok value => pure value
  | .error (.fault reason) => throw reason
  | .error (.panic payload) => liftM (Reading.stop (.panic payload) : Reading ο α)

/-- Ask one record for one member. -/
def ask (target : ο) (member : MemberId) (args : List (Value ο)) : Machine ο (Value ο) := do
  ofExcept (← (Reading.read target member args .done : Reading ο (Except Stop (Value ο))))

/-- The value of the parameter of that number. -/
def param (slot : Nat) : Machine ο (Value ο) := do
  match (← get)[slot]? with
  | some value => pure value
  | none => throw (.record ("unbound lambda parameter " ++ toString slot))

/-- The computation with one more value on the stack, which is taken off before a fault is passed
on. -/
def withParam (value : Value ο) (body : Machine ο α) : Machine ο α := do
  modify (·.push value)
  let result ← observing body
  modify Array.pop
  liftExcept result

/-- Whether the computation gives a value: a missing component is an answer here, any other
fault remains one. -/
def present (x : Machine ο α) : Machine ο Bool :=
  tryCatch (do let _ ← x; return true) fun
    | .absent _ => return false
    | reason => throw reason

/-- The outcome from an empty stack. -/
def start (x : Machine ο α) : Reading ο α := do
  match ← x.run.run' #[] with
  | .ok value => pure value
  | .error reason => .fault reason

end Machine

end RecordRules
