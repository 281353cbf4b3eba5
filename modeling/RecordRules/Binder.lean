import RecordRules.Bound
import RecordRules.CompileError
import RecordRules.Expr.Written

namespace RecordRules

structure BindError where
  fault : CompileFault
  offset : Nat
deriving DecidableEq

/-- A resolved expression and the type of its values. -/
structure Typed where
  bound : Bound
  type : Ty

/-- What names refer to: the members of the root record, and the parameters around, the innermost
one first. -/
structure Scope where
  catalog : Catalog
  root : Schema
  params : List (String × Ty)

/-- What an expression is resolved to, depending on the scope. -/
abbrev Binding := Scope → Except BindError Typed

/-- An argument of a call. If it is a lambda, its parameter, the place of its body and the
resolution of the body are known apart. -/
structure Argument where
  expr : Expr
  bind : Binding
  lambda : Option (String × Nat × Binding)

def Argument.offset (a : Argument) : Nat :=
  a.expr.span.start

def Literal.type : Literal → Ty
  | bool _ => .bool
  | int _ => .int
  | float _ => .float
  | string _ => .string

/-- The innermost parameter of that name: its number and its type. -/
def lookupParam (name : String) : List (String × Ty) → Option (Nat × Ty)
  | [] => none
  | (param, type) :: outer =>
    if param = name then some (outer.length, type) else lookupParam name outer

/-- The opposite number, computed at once if the number is written in the rule. -/
def Bound.negated : Bound → Bound
  | const (.int v) =>
    match Number.int64? (-v.toInt) with
    | some opposite => const (.int opposite)
    | none => neg (const (.int v))
  | const (.float v) => const (.float (-v))
  | e => neg e

variable [Patterns]

namespace Scope

variable (scope : Scope)

def mismatch {α : Type} (context expected : String) (found : Ty) (offset : Nat) :
    Except BindError α :=
  .error ⟨.typeMismatch context expected (found.render scope.catalog), offset⟩

def expect (wanted : Ty) (context : String) (offset : Nat) (found : Typed) :
    Except BindError Unit :=
  if found.type = wanted then .ok ()
  else scope.mismatch context (wanted.render scope.catalog) found.type offset

def expectNumber (context : String) (offset : Nat) (found : Typed) : Except BindError Unit :=
  if found.type.isNumeric then .ok () else scope.mismatch context "number" found.type offset

def unknownMember {α : Type} (owner : Ty) (name : String) (offset : Nat) : Except BindError α :=
  .error ⟨.unknownMember (owner.render scope.catalog) name, offset⟩

def checkArity (name : String) (expected : Nat) (args : List Argument) (offset : Nat) :
    Except BindError Unit :=
  if args.length = expected then .ok ()
  else .error ⟨.argumentCount name expected args.length, offset⟩

/-- The argument of a call that takes one. -/
def theArgument (name : String) (args : List Argument) (offset : Nat) :
    Except BindError Argument :=
  match args with
  | [arg] => .ok arg
  | _ => .error ⟨.argumentCount name 1 args.length, offset⟩

/-- The arguments of a call that takes two. -/
def twoArguments (name : String) (args : List Argument) (offset : Nat) :
    Except BindError (Argument × Argument) :=
  match args with
  | [first, second] => .ok (first, second)
  | _ => .error ⟨.argumentCount name 2 args.length, offset⟩

/-- Reading a field of a record. -/
def field (target : Bound) (member : Member) (offset : Nat) : Except BindError Typed :=
  match member.kind with
  | .field type => .ok ⟨.get target member.id [], type⟩
  | .method _ _ => .error ⟨.missingCall member.name, offset⟩

def ident (name : String) (offset : Nat) : Except BindError Typed :=
  match lookupParam name scope.params with
  | some (slot, type) => .ok ⟨.param slot, type⟩
  | none =>
    match scope.root.member? name with
    | some member => field .root member offset
    | none => .error ⟨.unknownIdentifier name, offset⟩

def member (target : Typed) (name : String) (offset : Nat) : Except BindError Typed :=
  match target.type with
  | .object schema =>
    match (scope.catalog.schema schema).member? name with
    | some member => field target.bound member offset
    | none => scope.unknownMember target.type name offset
  | _ => scope.unknownMember target.type name offset

/-- The arguments for parameters of these types. -/
def declaredArgs (name : String) : List Ty → List Argument → Except BindError (List Bound)
  | param :: params, arg :: args => do
    let first ← arg.bind scope
    if param.accepts first.type then pure ()
    else
      scope.mismatch ("argument of '" ++ name ++ "'") (param.render scope.catalog) first.type
        arg.offset
    return first.bound :: (← declaredArgs name params args)
  | _, _ => .ok []

/-- A call of a method that the schema declares, if it has a member of that name. -/
def declaredCall (target : Bound) (schema : Schema) (name : String) (args : List Argument)
    (offset : Nat) : Option (Except BindError Typed) :=
  (schema.member? name).map fun member =>
    match member.kind with
    | .field _ => .error ⟨.notCallable name, offset⟩
    | .method params returns => do
      checkArity name params.length args offset
      return ⟨.get target member.id (← scope.declaredArgs name params args), returns⟩

/-- The question whether a component is there: of one argument, which reads a member. -/
def hasCall (name : String) (args : List Argument) (offset : Nat) : Except BindError Typed := do
  let arg ← theArgument name args offset
  match arg.expr with
  | .ident .. | .member .. | .call .. | .method .. =>
    return ⟨.has (← arg.bind scope).bound, .bool⟩
  | e => .error ⟨.typeMismatch name "member access" e.render, arg.offset⟩

def absCall (name : String) (args : List Argument) (offset : Nat) : Except BindError Typed := do
  let arg ← theArgument name args offset
  let x ← arg.bind scope
  scope.expectNumber name arg.offset x
  return ⟨.builtin .abs [x.bound], x.type⟩

def choiceCall (function : Builtin) (name : String) (args : List Argument) (offset : Nat) :
    Except BindError Typed := do
  let (first, second) ← twoArguments name args offset
  let x ← first.bind scope
  scope.expectNumber name first.offset x
  let y ← second.bind scope
  scope.expectNumber name second.offset y
  return ⟨.builtin function [x.bound, y.bound], x.type.numericJoin y.type⟩

/-- A call without a target: of a method of the root record, or else of a built-in function. -/
def call (name : String) (args : List Argument) (offset : Nat) : Except BindError Typed :=
  match scope.declaredCall .root scope.root name args offset with
  | some typed => typed
  | none =>
    match name with
    | "has" => scope.hasCall name args offset
    | "abs" => scope.absCall name args offset
    | "min" => scope.choiceCall .min name args offset
    | "max" => scope.choiceCall .max name args offset
    | _ => .error ⟨.unknownFunction name, offset⟩

/-- A string method without arguments. -/
def stringProperty (function : Builtin) (returns : Ty) (target : Bound) (name : String)
    (args : List Argument) (offset : Nat) : Except BindError Typed := do
  checkArity name 0 args offset
  return ⟨.builtin function [target], returns⟩

/-- A question about a string and another one. -/
def stringTest (function : Builtin) (target : Bound) (name : String) (args : List Argument)
    (offset : Nat) : Except BindError Typed := do
  let arg ← theArgument name args offset
  let other ← arg.bind scope
  scope.expect .string ("argument of '" ++ name ++ "'") arg.offset other
  return ⟨.builtin function [target, other.bound], .bool⟩

/-- The question whether a string matches a pattern, which is written in the rule. -/
def patternTest (target : Bound) (name : String) (args : List Argument) (offset : Nat) :
    Except BindError Typed := do
  let arg ← theArgument name args offset
  match arg.expr with
  | .literal _ (.string text) =>
    match Patterns.compile text with
    | .ok pattern => return ⟨.matching target pattern, .bool⟩
    | .error reason => .error ⟨.invalidPattern reason, arg.offset⟩
  | e => .error ⟨.typeMismatch name "string literal" e.render, arg.offset⟩

def stringMethod (target : Bound) (name : String) (args : List Argument) (offset : Nat) :
    Except BindError Typed :=
  match name with
  | "len" => stringProperty .len .int target name args offset
  | "lower" => stringProperty .lower .string target name args offset
  | "upper" => stringProperty .upper .string target name args offset
  | "contains" => scope.stringTest .contains target name args offset
  | "starts_with" => scope.stringTest .startsWith target name args offset
  | "ends_with" => scope.stringTest .endsWith target name args offset
  | "matches" => patternTest target name args offset
  | _ => scope.unknownMember .string name offset

/-- The question whether a list has an element. -/
def listContains (target : Bound) (element : Ty) (name : String) (args : List Argument)
    (offset : Nat) : Except BindError Typed := do
  let arg ← theArgument name args offset
  let needle ← arg.bind scope
  if element.isScalar && element.comparableWith needle.type then
    return ⟨.builtin .contains [target, needle.bound], .bool⟩
  else
    scope.mismatch ("argument of '" ++ name ++ "'") (element.render scope.catalog) needle.type
      arg.offset

/-- A question about the elements of a list, which a lambda puts to each. -/
def quantified (quantifier : Quantifier) (returns : Ty) (target : Bound) (element : Ty)
    (name : String) (args : List Argument) (offset : Nat) : Except BindError Typed :=
  match args.map Argument.lambda with
  | [some (param, bodyOffset, bind)] => do
    let body ← bind { scope with params := (param, element) :: scope.params }
    scope.expect .bool ("body of '" ++ name ++ "'") bodyOffset body
    return ⟨.quantify quantifier target body.bound, returns⟩
  | _ => .error ⟨.expectedLambda name, offset⟩

def listMethod (target : Bound) (element : Ty) (name : String) (args : List Argument)
    (offset : Nat) : Except BindError Typed :=
  match name with
  | "any" => scope.quantified .any .bool target element name args offset
  | "all" => scope.quantified .all .bool target element name args offset
  | "count" => scope.quantified .count .int target element name args offset
  | "len" => stringProperty .len .int target name args offset
  | "contains" => scope.listContains target element name args offset
  | _ => scope.unknownMember (.list element) name offset

def method (target : Typed) (name : String) (args : List Argument) (offset : Nat) :
    Except BindError Typed :=
  match target.type with
  | .object schema =>
    match scope.declaredCall target.bound (scope.catalog.schema schema) name args offset with
    | some typed => typed
    | none => scope.unknownMember target.type name offset
  | .string => scope.stringMethod target.bound name args offset
  | .list element => scope.listMethod target.bound element name args offset
  | _ => scope.unknownMember target.type name offset

def comparison (op : CompareOp) (lhs rhs : Typed) (rhsOffset : Nat) : Except BindError Typed :=
  let comparable :=
    if op.isEquality then lhs.type.comparableWith rhs.type
    else (lhs.type.isNumeric && rhs.type.isNumeric) ||
      (lhs.type == .string && rhs.type == .string)
  if comparable then .ok ⟨.compare op lhs.bound rhs.bound, .bool⟩
  else scope.mismatch "comparison" (lhs.type.render scope.catalog) rhs.type rhsOffset

end Scope

mutual

def Expr.bind : Expr → Binding
  | .literal _ value, _ => .ok ⟨.const value, value.type⟩
  | .ident mark name, scope => scope.ident name mark.span.start
  | .member mark target name, scope => do
    scope.member (← target.bind scope) name mark.span.start
  | .call mark name args, scope => scope.call name (argumentsOf args) mark.span.start
  | .method mark target name args, scope => do
    scope.method (← target.bind scope) name (argumentsOf args) mark.span.start
  | .lambda mark _ _, _ => .error ⟨.malformed .strayLambda, mark.span.start⟩
  | .not _ operand, scope => do
    let x ← operand.bind scope
    scope.expect .bool "negation" operand.span.start x
    return ⟨.not x.bound, .bool⟩
  | .neg _ operand, scope => do
    let x ← operand.bind scope
    scope.expectNumber "negation" operand.span.start x
    return ⟨x.bound.negated, x.type⟩
  | .and _ operands, scope => do return ⟨.and (← conditionsOf operands scope), .bool⟩
  | .or _ operands, scope => do return ⟨.or (← conditionsOf operands scope), .bool⟩
  | .compare _ op lhs rhs, scope => do
    let x ← lhs.bind scope
    let y ← rhs.bind scope
    scope.comparison op x y rhs.span.start
  | .arith _ op lhs rhs, scope => do
    let x ← lhs.bind scope
    scope.expectNumber "arithmetic" lhs.span.start x
    let y ← rhs.bind scope
    scope.expectNumber "arithmetic" rhs.span.start y
    return ⟨.arith op x.bound y.bound, x.type.numericJoin y.type⟩
  | .within _ needle set, scope => do
    let x ← needle.bind scope
    if x.type.isScalar then pure ()
    else scope.mismatch "in" "scalar" x.type needle.span.start
    return ⟨.within x.bound (← membersOf x.type set scope), .bool⟩

/-- The parameter, the place of the body and the body's resolution, if it is a lambda. -/
def Expr.asLambda : Expr → Option (String × Nat × Binding)
  | .lambda _ param body => some (param, body.span.start, body.bind)
  | _ => none

def argumentsOf : List Expr → List Argument
  | [] => []
  | e :: rest => ⟨e, e.bind, e.asLambda⟩ :: argumentsOf rest

/-- The operands of a connective, which are truth values. -/
def conditionsOf : List Expr → Scope → Except BindError (List Bound)
  | [], _ => .ok []
  | e :: rest, scope => do
    let x ← e.bind scope
    scope.expect .bool "logical operator" e.span.start x
    return x.bound :: (← conditionsOf rest scope)

/-- The members of a set to which a value of the type is compared. -/
def membersOf (type : Ty) : List Expr → Scope → Except BindError (List Bound)
  | [], _ => .ok []
  | e :: rest, scope => do
    let x ← e.bind scope
    if type.comparableWith x.type then pure ()
    else scope.mismatch "in" (type.render scope.catalog) x.type e.span.start
    return x.bound :: (← membersOf type rest scope)

end

end RecordRules
