import Mathlib.Data.List.Forall2
import RecordRules.Compile
import RecordRules.Proofs.Induction

namespace RecordRules

/-- The functions that choose one of two numbers. -/
def choices : List (String × Builtin) :=
  [("min", .min), ("max", .max)]

/-- The string methods without arguments, and the types of their values. -/
def stringProperties : List (String × Builtin × Ty) :=
  [("len", .len, .int), ("lower", .lower, .string), ("upper", .upper, .string)]

/-- The questions about a string and another one. -/
def stringTests : List (String × Builtin) :=
  [("contains", .contains), ("starts_with", .startsWith), ("ends_with", .endsWith)]

/-- The list methods that take a lambda, and the types of their values. -/
def quantifiers : List (String × Quantifier × Ty) :=
  [("any", .any, .bool), ("all", .all, .bool), ("count", .count, .int)]

/-- The expression reads a member, or calls something. -/
def Expr.ReadsMember : Expr → Prop
  | ident .. | member .. | call .. | method .. => True
  | _ => False

/-- Values of the two types can be compared by the operator. -/
def CompareOp.applies (op : CompareOp) (lhs rhs : Ty) : Bool :=
  if op.isEquality then lhs.comparableWith rhs
  else (lhs.isNumeric && rhs.isNumeric) || (lhs == .string && rhs == .string)

/-- The scope of the body of a lambda. -/
def Scope.push (scope : Scope) (param : String) (type : Ty) : Scope :=
  { scope with params := (param, type) :: scope.params }

/-- What expressions are resolved to, rule by rule. -/
inductive Resolves [Patterns] : Scope → Expr → Typed → Prop
  | literal {scope mark value} :
    Resolves scope (.literal mark value) ⟨.const value, value.type⟩
  | param {scope mark name slot type} :
    lookupParam name scope.params = some (slot, type) →
    Resolves scope (.ident mark name) ⟨.param slot, type⟩
  | rootField {scope mark name member type} :
    lookupParam name scope.params = none →
    scope.root.member? name = some member → member.kind = .field type →
    Resolves scope (.ident mark name) ⟨.get .root member.id [], type⟩
  | field {scope mark target object schema name member type} :
    Resolves scope target ⟨object, .object schema⟩ →
    (scope.catalog.schema schema).member? name = some member → member.kind = .field type →
    Resolves scope (.member mark target name) ⟨.get object member.id [], type⟩
  | rootCall {scope mark name member params returns args xs} :
    scope.root.member? name = some member → member.kind = .method params returns →
    args.length = xs.length → (∀ p ∈ args.zip xs, Resolves scope p.1 p.2) →
    List.Forall₂ (fun param x => param.accepts x.type) params xs →
    Resolves scope (.call mark name args) ⟨.get .root member.id (xs.map Typed.bound), returns⟩
  | has {scope mark arg x} :
    scope.root.member? "has" = none → arg.ReadsMember → Resolves scope arg x →
    Resolves scope (.call mark "has" [arg]) ⟨.has x.bound, .bool⟩
  | abs {scope mark arg x} :
    scope.root.member? "abs" = none → Resolves scope arg x → x.type.isNumeric →
    Resolves scope (.call mark "abs" [arg]) ⟨.builtin .abs [x.bound], x.type⟩
  | choice {scope mark name function first second x y} :
    scope.root.member? name = none → (name, function) ∈ choices →
    Resolves scope first x → x.type.isNumeric → Resolves scope second y → y.type.isNumeric →
    Resolves scope (.call mark name [first, second])
      ⟨.builtin function [x.bound, y.bound], x.type.numericJoin y.type⟩
  | methodCall {scope mark target object schema name member params returns args xs} :
    Resolves scope target ⟨object, .object schema⟩ →
    (scope.catalog.schema schema).member? name = some member →
    member.kind = .method params returns →
    args.length = xs.length → (∀ p ∈ args.zip xs, Resolves scope p.1 p.2) →
    List.Forall₂ (fun param x => param.accepts x.type) params xs →
    Resolves scope (.method mark target name args)
      ⟨.get object member.id (xs.map Typed.bound), returns⟩
  | stringProperty {scope mark target string name function returns} :
    Resolves scope target ⟨string, .string⟩ → (name, function, returns) ∈ stringProperties →
    Resolves scope (.method mark target name []) ⟨.builtin function [string], returns⟩
  | stringTest {scope mark target string name function arg other} :
    Resolves scope target ⟨string, .string⟩ → (name, function) ∈ stringTests →
    Resolves scope arg ⟨other, .string⟩ →
    Resolves scope (.method mark target name [arg]) ⟨.builtin function [string, other], .bool⟩
  | matching {scope mark target string argMark text pattern} :
    Resolves scope target ⟨string, .string⟩ → Patterns.compile text = .ok pattern →
    Resolves scope (.method mark target "matches" [.literal argMark (.string text)])
      ⟨.matching string pattern, .bool⟩
  | listLength {scope mark target list element} :
    Resolves scope target ⟨list, .list element⟩ →
    Resolves scope (.method mark target "len" []) ⟨.builtin .len [list], .int⟩
  | listContains {scope mark target list element arg x} :
    Resolves scope target ⟨list, .list element⟩ → Resolves scope arg x →
    element.isScalar → element.comparableWith x.type →
    Resolves scope (.method mark target "contains" [arg])
      ⟨.builtin .contains [list, x.bound], .bool⟩
  | quantified {scope mark target list element name quantifier returns lambdaMark param body x} :
    Resolves scope target ⟨list, .list element⟩ → (name, quantifier, returns) ∈ quantifiers →
    Resolves (scope.push param element) body ⟨x, .bool⟩ →
    Resolves scope (.method mark target name [.lambda lambdaMark param body])
      ⟨.quantify quantifier list x, returns⟩
  | not {scope mark operand x} :
    Resolves scope operand ⟨x, .bool⟩ → Resolves scope (.not mark operand) ⟨.not x, .bool⟩
  | neg {scope mark operand x} :
    Resolves scope operand x → x.type.isNumeric →
    Resolves scope (.neg mark operand) ⟨x.bound.negated, x.type⟩
  | and {scope mark operands xs} :
    operands.length = xs.length → (∀ p ∈ operands.zip xs, Resolves scope p.1 p.2) →
    (∀ x ∈ xs, x.type = .bool) →
    Resolves scope (.and mark operands) ⟨.and (xs.map Typed.bound), .bool⟩
  | or {scope mark operands xs} :
    operands.length = xs.length → (∀ p ∈ operands.zip xs, Resolves scope p.1 p.2) →
    (∀ x ∈ xs, x.type = .bool) →
    Resolves scope (.or mark operands) ⟨.or (xs.map Typed.bound), .bool⟩
  | compare {scope mark op lhs rhs x y} :
    Resolves scope lhs x → Resolves scope rhs y → op.applies x.type y.type →
    Resolves scope (.compare mark op lhs rhs) ⟨.compare op x.bound y.bound, .bool⟩
  | arith {scope mark op lhs rhs x y} :
    Resolves scope lhs x → x.type.isNumeric → Resolves scope rhs y → y.type.isNumeric →
    Resolves scope (.arith mark op lhs rhs)
      ⟨.arith op x.bound y.bound, x.type.numericJoin y.type⟩
  | within {scope mark needle set x xs} :
    Resolves scope needle x → x.type.isScalar →
    set.length = xs.length → (∀ p ∈ set.zip xs, Resolves scope p.1 p.2) →
    (∀ y ∈ xs, x.type.comparableWith y.type) →
    Resolves scope (.within mark needle set) ⟨.within x.bound (xs.map Typed.bound), .bool⟩

theorem lookupParam_lt {name : String} {params : List (String × Ty)} {slot : Nat} {type : Ty}
    (h : lookupParam name params = some (slot, type)) : slot < params.length := by
  induction params with
  | nil => cases h
  | cons p outer ih =>
    unfold lookupParam at h
    split at h
    next => cases h; exact Nat.lt_succ_self _
    next => exact Nat.lt_succ_of_lt (ih h)

end RecordRules
