import RecordRules.Evaluate
import RecordRules.Proofs.Induction

namespace RecordRules

variable {ο α β : Type}

namespace Reading

/-- Whether the computation gives a value: a missing component is an answer here, any other
reason to stop remains one. -/
def present : Reading ο α → Reading ο Bool
  | done _ => done true
  | stop (.fault (.absent _)) => done false
  | stop reason => stop reason
  | read target member args next => read target member args fun answer => (next answer).present

/-- The computation with faults as results. -/
def attempt : Reading ο α → Reading ο (Except Fault α)
  | done value => done (.ok value)
  | stop (.fault reason) => done (.error reason)
  | stop (.panic payload) => stop (.panic payload)
  | read target member args next => read target member args fun answer => (next answer).attempt

theorem attempt_bind (x : Reading ο α) (f : α → Reading ο β) :
    (x >>= f).attempt = x.attempt >>= fun
      | .ok value => (f value).attempt
      | .error reason => pure (.error reason) := by
  induction x with
  | done value => rfl
  | stop reason => cases reason <;> rfl
  | read target member args next ih =>
    exact congrArg (read target member args) (funext ih)

theorem attempt_present (x : Reading ο α) :
    x.present.attempt = x.attempt >>= fun
      | .ok _ => pure (.ok true)
      | .error (.absent _) => pure (.ok false)
      | .error reason => pure (.error reason) := by
  induction x with
  | done value => rfl
  | stop reason =>
    cases reason with
    | fault fault => cases fault <;> rfl
    | panic payload => rfl
  | read target member args next ih =>
    exact congrArg (read target member args) (funext ih)

/-- A computation is known from what it does with its faults as results. -/
theorem attempt_rethrow (x : Reading ο α) :
    (x.attempt >>= fun
      | .ok value => pure value
      | .error reason => .fault reason) = x := by
  induction x with
  | done value => rfl
  | stop reason => cases reason <;> rfl
  | read target member args next ih =>
    exact congrArg (read target member args) (funext ih)

end Reading

/-- The value of the parameter of that number, where the values are those of the parameters
around, the innermost one first. -/
def paramValue (slot : Nat) : List (Value ο) → Reading ο (Value ο)
  | [] => .fault (.record ("unbound lambda parameter " ++ toString slot))
  | v :: outer => if slot = outer.length then pure v else paramValue slot outer

mutual

/-- The value of a rule or of a part of it, without a stack. -/
def Bound.eval (root : ο) : Bound → List (Value ο) → Reading ο (Value ο)
  | .const value, _ => pure value.toValue
  | .root, _ => pure (.object root)
  | .param slot, params => paramValue slot params
  | .get target member args, params => do
    let o ← .ofExcept (← target.eval root params).asObject
    Reading.get o member (← evalEach root args params)
  | .not operand, params => do
    return .bool !(← .ofExcept (← operand.eval root params).asBool)
  | .neg operand, params => do .ofExcept (← operand.eval root params).negate
  | .and operands, params => .bool <$> evalAnd root operands params
  | .or operands, params => .bool <$> evalOr root operands params
  | .compare op lhs rhs, params => do
    let a ← lhs.eval root params
    let b ← rhs.eval root params
    return .bool (← .ofExcept (a.test op b))
  | .arith op lhs rhs, params => do
    let a ← lhs.eval root params
    let b ← rhs.eval root params
    .ofExcept (a.arith op b)
  | .within needle set, params => do
    let v ← needle.eval root params
    .bool <$> evalWithin root v set params
  | .quantify quantifier source body, params => do
    let values ← .ofExcept (← source.eval root params).asList
    quantifier.across (fun v => do .ofExcept (← body.eval root (v :: params)).asBool) values
  | .has operand, params => .bool <$> (operand.eval root params).present
  | .builtin function args, params => do .ofExcept (function.apply (← evalEach root args params))
  | .matching target pattern, params => do
    let s ← .ofExcept (← target.eval root params).asString
    return .bool (pattern.isMatch s)

def evalEach (root : ο) : List Bound → List (Value ο) → Reading ο (List (Value ο))
  | [], _ => pure []
  | e :: rest, params => do
    let v ← e.eval root params
    return v :: (← evalEach root rest params)

def evalAnd (root : ο) : List Bound → List (Value ο) → Reading ο Bool
  | [], _ => pure true
  | e :: rest, params => do
    if ← .ofExcept (← e.eval root params).asBool then evalAnd root rest params else pure false

def evalOr (root : ο) : List Bound → List (Value ο) → Reading ο Bool
  | [], _ => pure false
  | e :: rest, params => do
    if ← .ofExcept (← e.eval root params).asBool then pure true else evalOr root rest params

def evalWithin (root : ο) (v : Value ο) : List Bound → List (Value ο) → Reading ο Bool
  | [], _ => pure false
  | e :: rest, params => do
    let w ← e.eval root params
    if ← .ofExcept (v.test .eq w) then pure true else evalWithin root v rest params

end

theorem paramValue_eq (slot : Nat) (params : List (Value ο)) :
    paramValue slot params =
      match params.reverse[slot]? with
      | some v => pure v
      | none => .fault (.record ("unbound lambda parameter " ++ toString slot)) := by
  induction params with
  | nil => rfl
  | cons v outer ih =>
    rw [List.reverse_cons, paramValue]
    by_cases here : slot = outer.length
    · have last : (outer.reverse ++ [v])[slot]? = some v := by simp [here]
      rw [if_pos here, last]
    · have earlier : (outer.reverse ++ [v])[slot]? = outer.reverse[slot]? := by
        rw [List.getElem?_append]
        split
        next => rfl
        next out =>
          have beyond : outer.length < slot := by
            rw [List.length_reverse] at out
            omega
          rw [List.getElem?_eq_none (by simp; omega), List.getElem?_eq_none (by simp; omega)]
      rw [if_neg here, earlier, ih]

namespace Machine

theorem run_observing (machine : Machine ο α) (stack : Array (Value ο)) :
    (observing machine : Machine ο _).run.run stack =
      (do
        let (result, after) ← machine.run.run stack
        pure (.ok result, after)) := by
  simp only [observing, ExceptT.run_tryCatch, ExceptT.run_bind, StateT.run_bind, bind_assoc]
  refine congrArg _ (funext fun ⟨result, after⟩ => ?_)
  cases result <;> rfl

/-- The value is taken off the stack however the computation ends. -/
theorem run_withParam (v : Value ο) (machine : Machine ο α) (stack : Array (Value ο)) :
    (withParam v machine).run.run stack =
      (do
        let (result, after) ← machine.run.run (stack.push v)
        pure (result, after.pop)) := by
  have pushed : (withParam v machine).run.run stack =
      (observing machine >>= fun result => (do
        modify Array.pop
        liftExcept result) : Machine ο α).run.run (stack.push v) := rfl
  rw [pushed, ExceptT.run_bind, StateT.run_bind, run_observing, bind_assoc]
  refine congrArg _ (funext fun ⟨result, after⟩ => ?_)
  cases result <;> rfl

theorem run_present (machine : Machine ο α) (stack : Array (Value ο)) :
    machine.present.run.run stack =
      (do
        match ← machine.run.run stack with
        | (.ok _, after) => pure (.ok true, after)
        | (.error (.absent _), after) => pure (.ok false, after)
        | (.error reason, after) => pure (.error reason, after)) := by
  simp only [present, ExceptT.run_tryCatch, ExceptT.run_bind, StateT.run_bind, bind_assoc]
  refine congrArg _ (funext fun ⟨result, after⟩ => ?_)
  cases result with
  | ok a => rfl
  | error reason => cases reason <;> rfl

/-- On that stack the machine does the same as the computation, and leaves the stack as it was. -/
def Does (machine : Machine ο α) (x : Reading ο α) (stack : Array (Value ο)) : Prop :=
  machine.run.run stack = (·, stack) <$> x.attempt

namespace Does

variable {stack : Array (Value ο)} {machine : Machine ο α} {x : Reading ο α}

theorem pure (a : α) : Does (Pure.pure a) (Pure.pure a) stack :=
  rfl

theorem bind {f : α → Machine ο β} {g : α → Reading ο β} (h : Does machine x stack)
    (hf : ∀ a, Does (f a) (g a) stack) : Does (machine >>= f) (x >>= g) stack := by
  unfold Does at h hf ⊢
  rw [Reading.attempt_bind, ExceptT.run_bind, StateT.run_bind, h, bind_map_left, map_bind]
  refine congrArg _ (funext fun result => ?_)
  cases result with
  | ok a => exact hf a
  | error reason => rfl

theorem map (f : α → β) (h : Does machine x stack) : Does (f <$> machine) (f <$> x) stack := by
  rw [map_eq_pure_bind, map_eq_pure_bind]
  exact h.bind fun a => pure (f a)

theorem ofExcept (result : Except Stop α) :
    Does (Machine.ofExcept result) (Reading.ofExcept result) stack := by
  cases result with
  | ok value => rfl
  | error reason => cases reason <;> rfl

theorem ask (target : ο) (member : MemberId) (args : List (Value ο)) :
    Does (Machine.ask target member args) (Reading.get target member args) stack := by
  have read : Does (liftM (Reading.read target member args .done) : Machine ο _)
      (Reading.read target member args .done) stack := rfl
  exact read.bind fun answer => ofExcept answer

theorem param (slot : Nat) (params : List (Value ο)) :
    Does (Machine.param slot) (paramValue slot params) params.reverse.toArray := by
  have looked : (Machine.param slot).run.run params.reverse.toArray =
      (match params.reverse.toArray[slot]? with
        | some v => Pure.pure v
        | none => throw (.record ("unbound lambda parameter " ++ toString slot)) :
        Machine ο (Value ο)).run.run params.reverse.toArray := rfl
  rw [Does, looked, paramValue_eq, List.getElem?_toArray]
  cases params.reverse[slot]? with
  | some v => rfl
  | none => rfl

theorem withParam {v : Value ο} (h : Does machine x (stack.push v)) :
    Does (Machine.withParam v machine) x stack := by
  rw [Does] at h ⊢
  rw [run_withParam, h, bind_map_left, map_eq_pure_bind]
  simp only [Array.pop_push]

theorem present (h : Does machine x stack) : Does machine.present x.present stack := by
  rw [Does] at h ⊢
  rw [run_present, h, Reading.attempt_present, bind_map_left, map_bind]
  refine congrArg _ (funext fun result => ?_)
  cases result with
  | ok a => rfl
  | error reason => cases reason <;> rfl

section Each

variable {ask : Value ο → Machine ο Bool} {ask' : Value ο → Reading ο Bool}
  (h : ∀ v, Does (ask v) (ask' v) stack)
include h

theorem anyOf (vs : List (Value ο)) :
    Does (Quantifier.anyOf ask vs) (Quantifier.anyOf ask' vs) stack := by
  induction vs with
  | nil => rfl
  | cons v rest ih =>
    refine (h v).bind fun b => ?_
    cases b with
    | true => rfl
    | false => exact ih

theorem allOf (vs : List (Value ο)) :
    Does (Quantifier.allOf ask vs) (Quantifier.allOf ask' vs) stack := by
  induction vs with
  | nil => rfl
  | cons v rest ih =>
    refine (h v).bind fun b => ?_
    cases b with
    | true => exact ih
    | false => rfl

theorem countOf (counted : Nat) (vs : List (Value ο)) :
    Does (Quantifier.countOf ask counted vs) (Quantifier.countOf ask' counted vs) stack := by
  induction vs generalizing counted with
  | nil => rfl
  | cons v rest ih => exact (h v).bind fun b => ih _

theorem across (quantifier : Quantifier) (vs : List (Value ο)) :
    Does (quantifier.across ask vs) (quantifier.across ask' vs) stack := by
  cases quantifier with
  | any => exact (anyOf h vs).map _
  | all => exact (allOf h vs).map _
  | count => exact (countOf h 0 vs).map _

end Each

end Does

theorem start_eq {machine : Machine ο α} {x : Reading ο α} (h : machine.Does x #[]) :
    machine.start = x := by
  have outcome : machine.run.run' #[] = x.attempt := by
    rw [StateT.run'_eq, h, Functor.map_map, id_map']
  rw [start, outcome]
  exact x.attempt_rethrow

end Machine

open Machine

section

variable {root : ο} {es : List Bound} {params : List (Value ο)}
  (h : ∀ e ∈ es, ∀ params : List (Value ο),
    (e.exec root).Does (e.eval root params) params.reverse.toArray)
include h

theorem execEach_does :
    (execEach root es).Does (evalEach root es params) params.reverse.toArray := by
  induction es with
  | nil => rfl
  | cons e rest ih =>
    obtain ⟨he, hrest⟩ := List.forall_mem_cons.mp h
    exact (he params).bind fun v => (ih hrest).bind fun vs => .pure _

theorem execAnd_does :
    (execAnd root es).Does (evalAnd root es params) params.reverse.toArray := by
  induction es with
  | nil => rfl
  | cons e rest ih =>
    obtain ⟨he, hrest⟩ := List.forall_mem_cons.mp h
    refine (he params).bind fun v => (Does.ofExcept v.asBool).bind fun b => ?_
    cases b with
    | true => exact ih hrest
    | false => rfl

theorem execOr_does :
    (execOr root es).Does (evalOr root es params) params.reverse.toArray := by
  induction es with
  | nil => rfl
  | cons e rest ih =>
    obtain ⟨he, hrest⟩ := List.forall_mem_cons.mp h
    refine (he params).bind fun v => (Does.ofExcept v.asBool).bind fun b => ?_
    cases b with
    | true => rfl
    | false => exact ih hrest

theorem execWithin_does (v : Value ο) :
    (execWithin root v es).Does (evalWithin root v es params) params.reverse.toArray := by
  induction es with
  | nil => rfl
  | cons e rest ih =>
    obtain ⟨he, hrest⟩ := List.forall_mem_cons.mp h
    refine (he params).bind fun w => (Does.ofExcept (v.test .eq w)).bind fun b => ?_
    cases b with
    | true => rfl
    | false => exact ih hrest

end

/-- On the stack of the parameters around, the machine does what evaluation does. -/
theorem Bound.exec_does (root : ο) (e : Bound) (params : List (Value ο)) :
    (e.exec root).Does (e.eval root params) params.reverse.toArray := by
  induction e using Bound.ind generalizing params with
  | const | root => rfl
  | param slot => exact .param slot params
  | get target member args ih ihs =>
    refine (ih params).bind fun v => (Does.ofExcept v.asObject).bind fun o => ?_
    exact (execEach_does ihs).bind fun vs => .ask o member vs
  | not operand ih =>
    exact (ih params).bind fun v => (Does.ofExcept v.asBool).bind fun b => .pure _
  | neg operand ih => exact (ih params).bind fun v => .ofExcept v.negate
  | and operands ih => exact (execAnd_does ih).map _
  | or operands ih => exact (execOr_does ih).map _
  | compare op lhs rhs ihl ihr =>
    refine (ihl params).bind fun a => (ihr params).bind fun b => ?_
    exact (Does.ofExcept (a.test op b)).bind fun holds => .pure _
  | arith op lhs rhs ihl ihr =>
    exact (ihl params).bind fun a => (ihr params).bind fun b => .ofExcept (a.arith op b)
  | within needle set ih ihs =>
    exact (ih params).bind fun v => (execWithin_does ihs v).map _
  | quantify quantifier source body ihs ihb =>
    refine (ihs params).bind fun v => (Does.ofExcept v.asList).bind fun vs => ?_
    refine Does.across (fun w => ?_) quantifier vs
    have pushed := ihb (w :: params)
    rw [List.reverse_cons, ← List.push_toArray] at pushed
    exact pushed.withParam.bind fun b => .ofExcept b.asBool
  | has operand ih => exact (ih params).present.map _
  | builtin function args ih => exact (execEach_does ih).bind fun vs => .ofExcept (function.apply vs)
  | matching target pattern ih =>
    exact (ih params).bind fun v => (Does.ofExcept v.asString).bind fun s => .pure _

theorem Predicate.test_eq (predicate : Predicate) (record : ο) :
    predicate.test record = (do .ofExcept (← predicate.bound.eval record []).asBool) := by
  have does := predicate.bound.exec_does record []
  exact start_eq (does.bind fun v => .ofExcept v.asBool)

end RecordRules
