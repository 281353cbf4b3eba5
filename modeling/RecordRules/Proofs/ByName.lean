import RecordRules.Binder
import RecordRules.Proofs.Conformance

namespace RecordRules

/-- The functions on numbers. -/
def numberFunctions : List (String × Builtin) :=
  [("abs", .abs), ("min", .min), ("max", .max)]

/-- The methods of strings and lists that need neither a lambda nor a pattern. -/
def plainMethods : List (String × Builtin) :=
  [("len", .len), ("lower", .lower), ("upper", .upper), ("contains", .contains),
    ("starts_with", .startsWith), ("ends_with", .endsWith)]

/-- The methods of lists that take a lambda. -/
def lambdaMethods : List (String × Quantifier) :=
  [("any", .any), ("all", .all), ("count", .count)]

/-- The type of a method of strings, by its name. -/
def Ty.ofStringMethod (name : String) : Ty :=
  if name = "len" then .int else if name = "lower" ∨ name = "upper" then .string else .bool

/-- The type of a method of lists, by its name. -/
def Ty.ofListMethod (name : String) : Ty :=
  if name = "len" ∨ name = "count" then .int else .bool

/-- The type of a number that is chosen from numbers of these types. -/
def Ty.join? : List Ty → Option Ty
  | [] => none
  | type :: others => some (others.foldl numericJoin type)

mutual

/-- The type of an expression, which is not checked. -/
def Expr.staticType (scope : Scope) : Expr → Option Ty
  | .literal _ value => some value.type
  | .ident _ name =>
    match scope.params.find? (·.1 = name) with
    | some (_, type) => some type
    | none => (scope.root.member? name).map Member.type
  | .member _ target name => do
    let .object schema ← target.staticType scope | none
    return (← (scope.catalog.schema schema).member? name).type
  | .call _ name args =>
    match scope.root.member? name with
    | some member => some member.type
    | none => if name = "has" then some .bool else (staticTypes scope args).bind Ty.join?
  | .method _ target name _ => do
    match ← target.staticType scope with
    | .object schema => return (← (scope.catalog.schema schema).member? name).type
    | .string => return .ofStringMethod name
    | .list _ => return .ofListMethod name
    | _ => none
  | .lambda _ _ _ => none
  | .neg _ operand => operand.staticType scope
  | .arith _ _ lhs rhs => do return (← lhs.staticType scope).numericJoin (← rhs.staticType scope)
  | .not _ _ | .and _ _ | .or _ _ | .compare _ _ _ _ | .within _ _ _ => some .bool

def staticTypes (scope : Scope) : List Expr → Option (List Ty)
  | [] => some []
  | e :: rest => do return (← e.staticType scope) :: (← staticTypes scope rest)

end

/-- A parameter around an expression, with the type and the value it has. -/
structure Parameter (ο : Type) where
  name : String
  type : Ty
  value : Value ο

/-- What names refer to while an expression is read: the members of the record, and the parameters
around, the innermost one first. -/
structure Setting (ο : Type) where
  catalog : Catalog
  schema : Schema
  record : ο
  params : List (Parameter ο)

variable [Patterns]

namespace Reading

variable {ο α : Type}

/-- What becomes of an expression that does not compile. -/
def senseless : Reading ο α :=
  .stop (.panic none)

def inOrder : List (Reading ο α) → Reading ο (List α)
  | [] => pure []
  | x :: rest => do return (← x) :: (← inOrder rest)

def condition (x : Reading ο (Value ο)) : Reading ο Bool := do
  .ofExcept (← x).asBool

/-- Both hold; the second one is not asked for if the first one fails. -/
def both (x y : Reading ο Bool) : Reading ο Bool := do
  if ← x then y else pure false

/-- One of the two holds; the second one is not asked for if the first one does. -/
def either (x y : Reading ο Bool) : Reading ο Bool := do
  if ← x then pure true else y

/-- A chain of conditions as nested conjunctions. -/
def conjunction : List (Reading ο Bool) → Reading ο Bool
  | [] => pure true
  | x :: rest => rest.foldl both x

/-- A chain of conditions as nested disjunctions. -/
def disjunction : List (Reading ο Bool) → Reading ο Bool
  | [] => pure false
  | x :: rest => rest.foldl either x

/-- The target is asked for the member, if it has one of the name. -/
def member (target : Reading ο (Value ο)) (args : List (Reading ο (Value ο))) :
    Option Member → Reading ο (Value ο)
  | some member => do
    let o ← .ofExcept (← target).asObject
    get o member.id (← inOrder args)
  | none => senseless

def plain (function : Builtin) (args : List (Reading ο (Value ο))) : Reading ο (Value ο) := do
  .ofExcept (function.apply (← inOrder args))

def functionCall (name : String) (args : List (Reading ο (Value ο))) : Reading ο (Value ο) :=
  match numberFunctions.lookup name, args with
  | some function, _ => plain function args
  | none, [x] => if name = "has" then .bool <$> x.present else senseless
  | none, _ => senseless

/-- The string is compared with the pattern that is written as the argument. -/
def patternTest (target : Reading ο (Value ο)) : List Expr → Reading ο (Value ο)
  | [.literal _ (.string text)] => do
    let .ok pattern := Patterns.compile text | senseless
    let s ← .ofExcept (← target).asString
    return .bool (pattern.isMatch s)
  | _ => senseless

def stringMethod (target : Reading ο (Value ο)) (name : String) (written : List Expr)
    (args : List (Reading ο (Value ο))) : Reading ο (Value ο) :=
  match plainMethods.lookup name with
  | some function => plain function (target :: args)
  | none => if name = "matches" then patternTest target written else senseless

def listMethod (target : Reading ο (Value ο)) (name : String) (args : List (Reading ο (Value ο)))
    (body : Value ο → Reading ο (Value ο)) : Reading ο (Value ο) :=
  match plainMethods.lookup name, lambdaMethods.lookup name with
  | some function, _ => plain function (target :: args)
  | none, some quantifier => do
    let values ← .ofExcept (← target).asList
    quantifier.across (fun v => (body v).condition) values
  | none, none => senseless

end Reading

namespace Setting

variable {ο : Type} (setting : Setting ο)

def scope : Scope :=
  ⟨setting.catalog, setting.schema, setting.params.map fun param => (param.name, param.type)⟩

def values : List (Value ο) :=
  setting.params.map Parameter.value

/-- The innermost parameter of that name. -/
def param? (name : String) : Option (Parameter ο) :=
  setting.params.find? (·.name = name)

def push (param : Parameter ο) : Setting ο :=
  { setting with params := param :: setting.params }

def ident (name : String) : Reading ο (Value ο) :=
  match setting.param? name with
  | some param => pure param.value
  | none => .member (pure (.object setting.record)) [] (setting.schema.member? name)

/-- A member of a target of that type. -/
def member (type : Option Ty) (target : Reading ο (Value ο)) (name : String) :
    Reading ο (Value ο) :=
  match type with
  | some (.object schema) => .member target [] ((setting.catalog.schema schema).member? name)
  | _ => .senseless

def call (name : String) (args : List (Reading ο (Value ο))) : Reading ο (Value ο) :=
  match setting.schema.member? name with
  | some member => .member (pure (.object setting.record)) args (some member)
  | none => .functionCall name args

/-- A method of a target of that type. -/
def method (type : Option Ty) (target : Reading ο (Value ο)) (name : String) (written : List Expr)
    (args : List (Reading ο (Value ο))) (body : Ty → Value ο → Reading ο (Value ο)) :
    Reading ο (Value ο) :=
  match type with
  | some (.object schema) => .member target args ((setting.catalog.schema schema).member? name)
  | some .string => .stringMethod target name written args
  | some (.list element) => .listMethod target name args (body element)
  | _ => .senseless

end Setting

variable {ο : Type}

mutual

/-- The value of an expression as it is written, its names looked up as it is read. -/
def Expr.interpret : Expr → Setting ο → Reading ο (Value ο)
  | .literal _ value, _ => pure value.toValue
  | .ident _ name, setting => setting.ident name
  | .member _ target name, setting =>
    setting.member (target.staticType setting.scope) (target.interpret setting) name
  | .call _ name args, setting => setting.call name (interpretEach args setting)
  | .method _ target name args, setting =>
    setting.method (target.staticType setting.scope) (target.interpret setting) name args
      (interpretEach args setting) (interpretBody args setting)
  | .lambda _ _ _, _ => .senseless
  | .not _ operand, setting => do return .bool !(← (operand.interpret setting).condition)
  | .neg _ operand, setting => do .ofExcept (← operand.interpret setting).negate
  | .and _ operands, setting =>
    .bool <$> .conjunction ((interpretEach operands setting).map .condition)
  | .or _ operands, setting =>
    .bool <$> .disjunction ((interpretEach operands setting).map .condition)
  | .compare _ op lhs rhs, setting => do
    let a ← lhs.interpret setting
    let b ← rhs.interpret setting
    return .bool (← .ofExcept (a.test op b))
  | .arith _ op lhs rhs, setting => do
    let a ← lhs.interpret setting
    let b ← rhs.interpret setting
    .ofExcept (a.arith op b)
  | .within _ needle set, setting => do
    let v ← needle.interpret setting
    .bool <$> .disjunction ((interpretEach set setting).map fun x => do
      .ofExcept (v.test .eq (← x)))

def interpretEach : List Expr → Setting ο → List (Reading ο (Value ο))
  | [], _ => []
  | e :: rest, setting => e.interpret setting :: interpretEach rest setting

/-- The value of the body of a lambda, which is the only argument, for an element of that type. -/
def interpretBody : List Expr → Setting ο → Ty → Value ο → Reading ο (Value ο)
  | [.lambda _ param body], setting, element, v => body.interpret (setting.push ⟨param, element, v⟩)
  | _, _, _, _ => .senseless

end

end RecordRules
