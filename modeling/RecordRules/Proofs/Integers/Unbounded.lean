import RecordRules.Proofs.ByName
import RecordRules.Proofs.Integers.Operation

namespace RecordRules

/-! The meaning of expressions as they are written, with integers that are not bounded. -/

/-- What a computation comes to: its result, the operations on integers that it asks for, the first
one first, and the state it leaves the records in. -/
structure Ledger (σ α : Type) where
  result : Except Stop α
  operations : List Operation
  state : σ

/-- Whether there is a value: a missing component is an answer here, any other reason to stop
remains one. -/
def presence {α : Type} : Except Stop α → Except Stop Bool
  | .ok _ => .ok true
  | .error (.fault (.absent _)) => .ok false
  | .error reason => .error reason

/-- Computations with integers that are not bounded. No operation stops them but the division by
zero, which has no result. -/
def Exactly (σ α : Type) : Type :=
  σ → Ledger σ α

/-- An integer that is not bounded, or a value of another kind. -/
inductive Exact (ο : Type) where
  | int (n : Int)
  | other (value : Value ο)

namespace Exactly

variable {ο σ α β : Type}

protected def pure (a : α) : Exactly σ α := fun state =>
  ⟨.ok a, [], state⟩

protected def bind (x : Exactly σ α) (f : α → Exactly σ β) : Exactly σ β := fun state =>
  match x state with
  | ⟨.ok a, operations, mid⟩ =>
    let later := f a mid
    ⟨later.result, operations ++ later.operations, later.state⟩
  | ⟨.error reason, operations, mid⟩ => ⟨.error reason, operations, mid⟩

instance : Monad (Exactly σ) where
  pure := Exactly.pure
  bind := Exactly.bind

/-- What becomes of an expression that does not compile. -/
def senseless : Exactly σ α := fun state =>
  ⟨.error (.panic none), [], state⟩

def ofExcept (result : Except Stop α) : Exactly σ α := fun state =>
  ⟨result, [], state⟩

/-- Carry out an operation. -/
def perform (operation : Operation) : Exactly σ (Exact ο) := fun state =>
  match operation.result? with
  | some n => ⟨.ok (.int n), [operation], state⟩
  | none => ⟨.error (.fault .divisionByZero), [operation], state⟩

/-- Ask one record for one member. -/
def ask (records : Records ο σ) (target : ο) (member : MemberId) (args : List (Value ο)) :
    Exactly σ (Value ο) := fun state =>
  let (answer, after) := records.get target member args state
  ⟨answer, [], after⟩

/-- Whether the computation gives a value, where a missing component is an answer. -/
def present (x : Exactly σ α) : Exactly σ Bool := fun state =>
  { x state with result := presence (x state).result }

def inOrder : List (Exactly σ α) → Exactly σ (List α)
  | [] => pure []
  | x :: rest => do return (← x) :: (← inOrder rest)

/-- Conditions after the first that does not hold are not asked for. -/
def conjunction : List (Exactly σ Bool) → Exactly σ Bool
  | [] => pure true
  | x :: rest => do if ← x then conjunction rest else pure false

/-- Conditions after the first that holds are not asked for. -/
def disjunction : List (Exactly σ Bool) → Exactly σ Bool
  | [] => pure false
  | x :: rest => do if ← x then pure true else disjunction rest

end Exactly

namespace Exact

variable {ο σ : Type}

def ofValue : Value ο → Exact ο
  | .int n => int n.toInt
  | v => other v

def bool (b : Bool) : Exact ο :=
  other (.bool b)

/-- The value for a record, which takes integers of 64 bits only. -/
def value? : Exact ο → Option (Value ο)
  | int n => (Number.int64? n).map .int
  | other v => some v

/-- The number nearest to it that is a float. -/
def float? : Exact ο → Option Float
  | int n => some (Float.ofInt n)
  | other v => v.asFloat?

/-- Whether the operator holds of two scalars. Integers are rounded beside a float only. -/
def holds (op : CompareOp) : Exact ο → Exact ο → Bool
  | int a, int b => (op.holds (some (compare a b))).getD false
  | other v, other w => (v.compare? op w).getD false
  | a, b =>
    match a.float?, b.float? with
    | some x, some y => (op.holds (Number.order? x y)).getD false
    | _, _ => false

/-- An operation on numbers of which one is a float. -/
def floats (f : Float → Float → Float) (a b : Exact ο) : Exactly σ (Exact ο) :=
  match a.float?, b.float? with
  | some x, some y => pure (other (.float (f x y)))
  | _, _ => .senseless

def negate : Exact ο → Exactly σ (Exact ο)
  | int n => .perform (.negate n)
  | other (.float x) => pure (other (.float (-x)))
  | _ => .senseless

def absolute : Exact ο → Exactly σ (Exact ο)
  | int n => .perform (.absolute n)
  | other (.float x) => pure (other (.float x.abs))
  | _ => .senseless

/-- An operation on two integers, or else one on two floats. -/
def numbers (operation : Int → Int → Operation) (f : Float → Float → Float) :
    Exact ο → Exact ο → Exactly σ (Exact ο)
  | int a, int b => .perform (operation a b)
  | a, b => floats f a b

def length : Exact ο → Exactly σ (Exact ο)
  | other (.string s) => .perform (.length s)
  | other (.list vs) => pure (int vs.length)
  | _ => .senseless

def asBool : Exact ο → Exactly σ Bool
  | other (.bool b) => pure b
  | _ => .senseless

def asString : Exact ο → Exactly σ String
  | other (.string s) => pure s
  | _ => .senseless

def asObject : Exact ο → Exactly σ ο
  | other (.object o) => pure o
  | _ => .senseless

def asList : Exact ο → Exactly σ (List (Value ο))
  | other (.list vs) => pure vs
  | _ => .senseless

/-- A function of strings, which is the same for integers of any size. -/
def ofStrings (function : Builtin) (args : List (Exact ο)) : Exactly σ (Exact ο) := do
  match args.mapM value? with
  | some vs => return ofValue (← .ofExcept (function.apply vs))
  | none => .senseless

def apply : Builtin → List (Exact ο) → Exactly σ (Exact ο)
  | .len, [x] => x.length
  | .abs, [x] => x.absolute
  | .min, [x, y] => numbers .least Number.least x y
  | .max, [x, y] => numbers .greatest Number.greatest x y
  | .contains, [other (.list vs), y] => pure (bool (vs.any fun v => (ofValue v).holds .eq y))
  | function, args => ofStrings function args

/-- What the quantifier makes of the answers for the values. -/
def across (quantifier : Quantifier) (ask : Value ο → Exactly σ Bool) (values : List (Value ο)) :
    Exactly σ (Exact ο) :=
  match quantifier with
  | .any => do return bool (← Quantifier.anyOf ask values)
  | .all => do return bool (← Quantifier.allOf ask values)
  | .count => do return int (← Quantifier.countOf ask 0 values)

end Exact

variable [Patterns]

namespace Exactly

variable {ο σ : Type}

def condition (x : Exactly σ (Exact ο)) : Exactly σ Bool := do
  (← x).asBool

/-- The target is asked for the member, if it has one of the name. -/
def member (records : Records ο σ) (target : Exactly σ (Exact ο))
    (args : List (Exactly σ (Exact ο))) : Option Member → Exactly σ (Exact ο)
  | some member => do
    let o ← (← target).asObject
    match (← inOrder args).mapM Exact.value? with
    | some vs => return .ofValue (← ask records o member.id vs)
    | none => senseless
  | none => senseless

def plain (function : Builtin) (args : List (Exactly σ (Exact ο))) : Exactly σ (Exact ο) := do
  Exact.apply function (← inOrder args)

def functionCall (name : String) (args : List (Exactly σ (Exact ο))) : Exactly σ (Exact ο) :=
  match numberFunctions.lookup name, args with
  | some function, _ => plain function args
  | none, [x] => if name = "has" then do return .bool (← x.present) else senseless
  | none, _ => senseless

/-- The string is compared with the pattern that is written as the argument. -/
def patternTest (target : Exactly σ (Exact ο)) : List Expr → Exactly σ (Exact ο)
  | [.literal _ (.string text)] => do
    let .ok pattern := Patterns.compile text | senseless
    return .bool (pattern.isMatch (← (← target).asString))
  | _ => senseless

def stringMethod (target : Exactly σ (Exact ο)) (name : String) (written : List Expr)
    (args : List (Exactly σ (Exact ο))) : Exactly σ (Exact ο) :=
  match plainMethods.lookup name with
  | some function => plain function (target :: args)
  | none => if name = "matches" then patternTest target written else senseless

def listMethod (target : Exactly σ (Exact ο)) (name : String)
    (args : List (Exactly σ (Exact ο))) (body : Value ο → Exactly σ (Exact ο)) :
    Exactly σ (Exact ο) :=
  match plainMethods.lookup name, lambdaMethods.lookup name with
  | some function, _ => plain function (target :: args)
  | none, some quantifier => do
    Exact.across quantifier (fun v => (body v).condition) (← (← target).asList)
  | none, none => senseless

end Exactly

namespace Setting

variable {ο σ : Type} (setting : Setting ο) (records : Records ο σ)

def identExactly (name : String) : Exactly σ (Exact ο) :=
  match setting.param? name with
  | some param => pure (.ofValue param.value)
  | none =>
    .member records (pure (.other (.object setting.record))) [] (setting.schema.member? name)

def memberExactly (type : Option Ty) (target : Exactly σ (Exact ο)) (name : String) :
    Exactly σ (Exact ο) :=
  match type with
  | some (.object schema) =>
    .member records target [] ((setting.catalog.schema schema).member? name)
  | _ => .senseless

def callExactly (name : String) (args : List (Exactly σ (Exact ο))) : Exactly σ (Exact ο) :=
  match setting.schema.member? name with
  | some member => .member records (pure (.other (.object setting.record))) args (some member)
  | none => .functionCall name args

def methodExactly (type : Option Ty) (target : Exactly σ (Exact ο)) (name : String)
    (written : List Expr) (args : List (Exactly σ (Exact ο)))
    (body : Ty → Value ο → Exactly σ (Exact ο)) : Exactly σ (Exact ο) :=
  match type with
  | some (.object schema) =>
    .member records target args ((setting.catalog.schema schema).member? name)
  | some .string => .stringMethod target name written args
  | some (.list element) => .listMethod target name args (body element)
  | _ => .senseless

end Setting

variable {ο σ : Type} (records : Records ο σ)

mutual

/-- The value of an expression as it is written, over the unbounded integers. -/
def Expr.exactly : Expr → Setting ο → Exactly σ (Exact ο)
  | .literal _ value, _ => pure (.ofValue value.toValue)
  | .ident _ name, setting => setting.identExactly records name
  | .member _ target name, setting =>
    setting.memberExactly records (target.staticType setting.scope) (target.exactly setting) name
  | .call _ name args, setting => setting.callExactly records name (exactlyEach args setting)
  | .method _ target name args, setting =>
    setting.methodExactly records (target.staticType setting.scope) (target.exactly setting) name
      args (exactlyEach args setting) (exactlyBody args setting)
  | .lambda _ _ _, _ => .senseless
  | .not _ operand, setting => do return .bool !(← (operand.exactly setting).condition)
  | .neg _ operand, setting => do (← operand.exactly setting).negate
  | .and _ operands, setting => do
    return .bool (← .conjunction ((exactlyEach operands setting).map .condition))
  | .or _ operands, setting => do
    return .bool (← .disjunction ((exactlyEach operands setting).map .condition))
  | .compare _ op lhs rhs, setting => do
    let a ← lhs.exactly setting
    let b ← rhs.exactly setting
    return .bool (a.holds op b)
  | .arith _ op lhs rhs, setting => do
    let a ← lhs.exactly setting
    let b ← rhs.exactly setting
    Exact.numbers (.arith op) (Value.arithFloat op) a b
  | .within _ needle set, setting => do
    let v ← needle.exactly setting
    return .bool (← .disjunction ((exactlyEach set setting).map fun x => do
      return v.holds .eq (← x)))

def exactlyEach : List Expr → Setting ο → List (Exactly σ (Exact ο))
  | [], _ => []
  | e :: rest, setting => e.exactly setting :: exactlyEach rest setting

/-- The value of the body of a lambda, which is the only argument, for an element of that type. -/
def exactlyBody : List Expr → Setting ο → Ty → Value ο → Exactly σ (Exact ο)
  | [.lambda _ param body], setting, element, v => body.exactly (setting.push ⟨param, element, v⟩)
  | _, _, _, _ => .senseless

end

end RecordRules
