import RecordRules.Proofs.FreeNames
import RecordRules.Regex.Library

namespace RecordRules

/-- The third list is the first one with the elements of the second inserted anywhere; both keep
their order. -/
inductive Inserted {α : Type} : List α → List α → List α → Prop
  | nil : Inserted [] [] []
  | old {a as added all} : Inserted as added all → Inserted (a :: as) added (a :: all)
  | new {a as added all} : Inserted as added all → Inserted as (a :: added) (a :: all)

theorem Inserted.find?_eq {α : Type} {p : α → Bool} {as added all : List α}
    (h : Inserted as added all) (other : ∀ a ∈ added, ¬ p a) : all.find? p = as.find? p := by
  induction h with
  | nil => rfl
  | old _ ih => rw [List.find?_cons, List.find?_cons, ih other]
  | new _ ih =>
    obtain ⟨first, others⟩ := List.forall_mem_cons.mp other
    rw [List.find?_cons_of_neg first, ih others]

/-- The first schema has the members of the second one and the added ones among them. -/
def Schema.Extends (extended schema : Schema) (added : List Member) : Prop :=
  Inserted schema.members added extended.members

/-- Members of other names do not come between a name and its member. -/
theorem Schema.Extends.member?_eq {extended schema : Schema} {added : List Member} {name : String}
    (h : extended.Extends schema added) (other : ∀ member ∈ added, member.name ≠ name) :
    extended.member? name = schema.member? name :=
  Inserted.find?_eq h fun member mem found => other member mem (beq_iff_eq.mp found)

mutual

/-- The names of the calls without a target in an expression. -/
def Expr.calledNames : Expr → List String
  | .literal _ _ | .ident _ _ => []
  | .member _ target _ => target.calledNames
  | .call _ name args => name :: calledNamesOf args
  | .method _ target _ args => target.calledNames ++ calledNamesOf args
  | .lambda _ _ body => body.calledNames
  | .not _ operand | .neg _ operand => operand.calledNames
  | .and _ operands | .or _ operands => calledNamesOf operands
  | .compare _ _ lhs rhs | .arith _ _ lhs rhs => lhs.calledNames ++ rhs.calledNames
  | .within _ needle set => needle.calledNames ++ calledNamesOf set

def calledNamesOf : List Expr → List String
  | [] => []
  | e :: rest => e.calledNames ++ calledNamesOf rest

end

theorem calledNames_subset {e : Expr} {es : List Expr} (mem : e ∈ es) :
    e.calledNames ⊆ calledNamesOf es := by
  induction es with
  | nil => cases mem
  | cons first rest ih =>
    rw [calledNamesOf]
    rcases List.mem_cons.mp mem with rfl | mem
    · exact List.subset_append_left _ _
    · exact List.subset_append_of_subset_right _ (ih mem)

/-- The scope of the same parameters in which another schema is that of the root record. -/
def Scope.rootedIn (scope : Scope) (root : Schema) : Scope :=
  { scope with root }

/-- The names mean the same members of the other root: those that are free unless they mean a
parameter, and those that are called. -/
structure Scope.Keeps (scope : Scope) (root : Schema) (free called : List String) : Prop where
  free : ∀ name ∈ free, lookupParam name scope.params = none →
    root.member? name = scope.root.member? name
  called : ∀ name ∈ called, root.member? name = scope.root.member? name

namespace Scope.Keeps

variable {scope : Scope} {root : Schema} {free free' called called' : List String}

theorem mono (h : scope.Keeps root free called) (fewer : free' ⊆ free)
    (fewer' : called' ⊆ called) : scope.Keeps root free' called' :=
  ⟨fun name mem => h.free name (fewer mem), fun name mem => h.called name (fewer' mem)⟩

theorem left (h : scope.Keeps root (free ++ free') (called ++ called')) :
    scope.Keeps root free called :=
  h.mono (List.subset_append_left _ _) (List.subset_append_left _ _)

theorem right (h : scope.Keeps root (free ++ free') (called ++ called')) :
    scope.Keeps root free' called' :=
  h.mono (List.subset_append_right _ _) (List.subset_append_right _ _)

theorem part {e : Expr} {es : List Expr}
    (h : scope.Keeps root (freeNamesOf es) (calledNamesOf es)) (mem : e ∈ es) :
    scope.Keeps root e.freeNames e.calledNames :=
  h.mono (freeNames_subset mem) (calledNames_subset mem)

/-- In the body of a lambda its parameter has no meaning in the root any more. -/
theorem push {mark : Mark} {param : String} {body : Expr}
    (h : scope.Keeps root (Expr.lambda mark param body).freeNames body.calledNames) (type : Ty) :
    (scope.push param type).Keeps root body.freeNames body.calledNames := by
  refine ⟨fun name mem unbound => ?_, h.called⟩
  unfold Scope.push lookupParam at unbound
  split at unbound
  next => cases unbound
  next other => exact h.free name (mem_freeNames_lambda mem (Ne.symm other)) unbound

end Scope.Keeps

namespace Scope

variable {scope : Scope} {root : Schema} {args : List Expr}

section Calls

/-! Calls with arguments that are resolved as before. -/

variable [Patterns] (same : ∀ e ∈ args, e.bind (scope.rootedIn root) = e.bind scope)
  (name : String) (offset : Nat)

theorem theArgument_congr {ask ask' : Argument → Except BindError Typed}
    (h : ∀ e ∈ args, ask e.argument = ask' e.argument) :
    theArgument name (argumentsOf args) offset >>= ask =
      theArgument name (argumentsOf args) offset >>= ask' := by
  rcases args with _ | ⟨e, _ | ⟨f, rest⟩⟩
  · rfl
  · exact h e List.mem_cons_self
  · rfl

theorem twoArguments_congr {ask ask' : Argument × Argument → Except BindError Typed}
    (h : ∀ e ∈ args, ∀ f ∈ args, ask (e.argument, f.argument) = ask' (e.argument, f.argument)) :
    twoArguments name (argumentsOf args) offset >>= ask =
      twoArguments name (argumentsOf args) offset >>= ask' := by
  rcases args with _ | ⟨e, _ | ⟨f, _ | ⟨g, rest⟩⟩⟩
  · rfl
  · rfl
  · exact h e (by simp) f (by simp)
  · rfl

include same

theorem declaredArgs_rootedIn (params : List Ty) :
    (scope.rootedIn root).declaredArgs name params (argumentsOf args) =
      scope.declaredArgs name params (argumentsOf args) := by
  induction params generalizing args with
  | nil => rfl
  | cons param params ih =>
    cases args with
    | nil => rfl
    | cons e rest =>
      obtain ⟨first, others⟩ := List.forall_mem_cons.mp same
      rw [argumentsOf, declaredArgs, declaredArgs, ih others]
      exact congrArg (· >>= _) first

theorem declaredCall_rootedIn (target : Bound) (schema : Schema) :
    (scope.rootedIn root).declaredCall target schema name (argumentsOf args) offset =
      scope.declaredCall target schema name (argumentsOf args) offset := by
  simp only [declaredCall, declaredArgs_rootedIn same]

theorem hasCall_rootedIn : (scope.rootedIn root).hasCall name (argumentsOf args) offset =
    scope.hasCall name (argumentsOf args) offset := by
  refine theArgument_congr name offset fun e mem => ?_
  have bound := congrArg (· >>= fun x => .ok (⟨.has x.bound, .bool⟩ : Typed)) (same e mem)
  cases e with
  | ident | member | call | method => exact bound
  | _ => rfl

theorem absCall_rootedIn : (scope.rootedIn root).absCall name (argumentsOf args) offset =
    scope.absCall name (argumentsOf args) offset :=
  theArgument_congr name offset fun e mem => congrArg (· >>= _) (same e mem)

theorem choiceCall_rootedIn (function : Builtin) :
    (scope.rootedIn root).choiceCall function name (argumentsOf args) offset =
      scope.choiceCall function name (argumentsOf args) offset := by
  refine twoArguments_congr name offset fun e mem f mem' => ?_
  simp only [Expr.argument, same e mem, same f mem']
  rfl

theorem stringTest_rootedIn (function : Builtin) (target : Bound) :
    (scope.rootedIn root).stringTest function target name (argumentsOf args) offset =
      scope.stringTest function target name (argumentsOf args) offset :=
  theArgument_congr name offset fun e mem => congrArg (· >>= _) (same e mem)

theorem stringMethod_rootedIn (target : Bound) :
    (scope.rootedIn root).stringMethod target name (argumentsOf args) offset =
      scope.stringMethod target name (argumentsOf args) offset := by
  simp only [stringMethod, stringTest_rootedIn same]
  rfl

theorem listContains_rootedIn (target : Bound) (element : Ty) :
    (scope.rootedIn root).listContains target element name (argumentsOf args) offset =
      scope.listContains target element name (argumentsOf args) offset :=
  theArgument_congr name offset fun e mem => congrArg (· >>= _) (same e mem)

variable (bodies : ∀ mark param body, .lambda mark param body ∈ args → ∀ type,
  body.bind ((scope.push param type).rootedIn root) = body.bind (scope.push param type))

omit same in
include bodies in
theorem quantified_rootedIn (quantifier : Quantifier) (returns : Ty) (target : Bound)
    (element : Ty) :
    (scope.rootedIn root).quantified quantifier returns target element name (argumentsOf args)
        offset =
      scope.quantified quantifier returns target element name (argumentsOf args) offset := by
  rcases args with _ | ⟨e, _ | ⟨f, rest⟩⟩
  · rfl
  · cases e with
    | lambda mark param body =>
      exact congrArg (· >>= _) (bodies mark param body List.mem_cons_self element)
    | _ => rfl
  · cases e with
    | _ => rfl

include bodies in
theorem listMethod_rootedIn (target : Bound) (element : Ty) :
    (scope.rootedIn root).listMethod target element name (argumentsOf args) offset =
      scope.listMethod target element name (argumentsOf args) offset := by
  simp only [listMethod, quantified_rootedIn name offset bodies, listContains_rootedIn same]
  rfl

include bodies in
theorem method_rootedIn (target : Typed) :
    (scope.rootedIn root).method target name (argumentsOf args) offset =
      scope.method target name (argumentsOf args) offset := by
  simp only [method, stringMethod_rootedIn same, listMethod_rootedIn same name offset bodies,
    declaredCall_rootedIn same]
  rfl

/-- A call without a target is one of the same member of either root, or of the same function. -/
theorem call_rootedIn (known : root.member? name = scope.root.member? name) :
    (scope.rootedIn root).call name (argumentsOf args) offset =
      scope.call name (argumentsOf args) offset := by
  have declared : (scope.rootedIn root).declaredCall .root root name (argumentsOf args) offset =
      scope.declaredCall .root scope.root name (argumentsOf args) offset := by
    rw [declaredCall_rootedIn same, declaredCall, declaredCall, known]
  unfold call
  simp only [hasCall_rootedIn same, absCall_rootedIn same, choiceCall_rootedIn same]
  rw [← declared]
  rfl

end Calls

theorem ident_rootedIn {name : String} (offset : Nat)
    (known : lookupParam name scope.params = none → root.member? name = scope.root.member? name) :
    (scope.rootedIn root).ident name offset = scope.ident name offset := by
  unfold ident
  cases bound : lookupParam name scope.params with
  | some found => simp only [rootedIn, bound]
  | none => simp only [rootedIn, bound, known bound]

end Scope

section Parts

variable [Patterns] {scope : Scope} {root : Schema} {es : List Expr}
  (same : ∀ e ∈ es, e.bind (scope.rootedIn root) = e.bind scope)

include same

theorem conditionsOf_rootedIn : conditionsOf es (scope.rootedIn root) = conditionsOf es scope := by
  induction es with
  | nil => rfl
  | cons e rest ih =>
    obtain ⟨first, others⟩ := List.forall_mem_cons.mp same
    rw [conditionsOf, conditionsOf, first, ih others]
    rfl

theorem membersOf_rootedIn (type : Ty) :
    membersOf type es (scope.rootedIn root) = membersOf type es scope := by
  induction es with
  | nil => rfl
  | cons e rest ih =>
    obtain ⟨first, others⟩ := List.forall_mem_cons.mp same
    rw [membersOf, membersOf, first, ih others]
    rfl

end Parts

namespace Expr

variable [Patterns]

/-- Under another root that keeps the meaning of its names the expression is resolved as before. -/
def Rooted (root : Schema) (e : Expr) : Prop :=
  ∀ scope : Scope, scope.Keeps root e.freeNames e.calledNames →
    e.bind (scope.rootedIn root) = e.bind scope

/-- A lambda cannot be resolved by itself, but its body can. -/
def BodyRooted (root : Schema) : Expr → Prop
  | lambda _ _ body => body.Rooted root
  | _ => True

theorem rooted_and_bodyRooted (root : Schema) (e : Expr) : e.Rooted root ∧ e.BodyRooted root := by
  induction e using Expr.ind with
  | literal mark value => exact ⟨fun _ _ => rfl, trivial⟩
  | ident mark name =>
    refine ⟨fun scope keeps => ?_, trivial⟩
    exact Scope.ident_rootedIn _ (keeps.free name List.mem_cons_self)
  | member mark target name ih =>
    refine ⟨fun scope keeps => ?_, trivial⟩
    rw [bind, bind, ih.1 scope keeps]
    rfl
  | call mark name args ih =>
    refine ⟨fun scope keeps => ?_, trivial⟩
    have parts : scope.Keeps root (freeNamesOf args) (calledNamesOf args) :=
      keeps.mono (List.Subset.refl _) (List.subset_cons_self _ _)
    exact Scope.call_rootedIn (fun e mem => (ih e mem).1 scope (parts.part mem)) name _
      (keeps.called name List.mem_cons_self)
  | method mark target name args iht ih =>
    refine ⟨fun scope keeps => ?_, trivial⟩
    rw [bind, bind, iht.1 scope keeps.left]
    refine congrArg _ (funext fun x => Scope.method_rootedIn
      (fun e mem => (ih e mem).1 scope (keeps.right.part mem)) name _
      (fun mark param body mem type => ?_) x)
    exact (ih _ mem).2 _ ((keeps.right.part mem).push type)
  | lambda mark param body ih =>
    exact ⟨fun _ _ => rfl, ih.1⟩
  | not mark operand ih | neg mark operand ih =>
    refine ⟨fun scope keeps => ?_, trivial⟩
    rw [bind, bind, ih.1 scope keeps]
    rfl
  | and mark operands ih | or mark operands ih =>
    refine ⟨fun scope keeps => ?_, trivial⟩
    rw [bind, bind, conditionsOf_rootedIn fun e mem => (ih e mem).1 scope (keeps.part mem)]
  | compare mark op lhs rhs ihx ihy | arith mark op lhs rhs ihx ihy =>
    refine ⟨fun scope keeps => ?_, trivial⟩
    rw [bind, bind, ihx.1 scope keeps.left, ihy.1 scope keeps.right]
    rfl
  | within mark needle set ih ihs =>
    refine ⟨fun scope keeps => ?_, trivial⟩
    have members := membersOf_rootedIn fun e mem => (ihs e mem).1 scope (keeps.right.part mem)
    rw [bind, bind, ih.1 scope keeps.left]
    simp only [members]
    rfl

end Expr

/-- The names that are looked up among the members of the root record: those that no parameter
around is meant by, and those that are called without a target. -/
def Expr.rootNames (e : Expr) : List String :=
  e.freeNames ++ e.calledNames

/-- More members of the root record make no difference to a text in which their names are neither
free nor called without a target: it compiles to the same rule, or is refused for the same reason at
the same place. The names may be those of parameters and may follow a dot. -/
theorem compile_extended [Patterns] {catalog : Catalog} {root extended : Schema}
    {added : List Member} {text : String} (extends' : extended.Extends root added)
    (unused : ∀ e, parse text = .ok e → ∀ member ∈ added, member.name ∉ e.rootNames) :
    compile catalog extended text = compile catalog root text := by
  unfold compile
  split
  · rfl
  cases parsed : parse text with
  | error e => rfl
  | ok e =>
    have other (name : String) (mem : name ∈ e.rootNames) :
        extended.member? name = root.member? name := by
      refine extends'.member?_eq fun member added same => ?_
      exact unused e parsed member added (same ▸ mem)
    have keeps : Scope.Keeps ⟨catalog, root, []⟩ extended e.freeNames e.calledNames :=
      ⟨fun name mem _ => other name (List.mem_append_left _ mem),
        fun name mem => other name (List.mem_append_right _ mem)⟩
    have same := (e.rooted_and_bodyRooted extended).1 _ keeps
    unfold Scope.rootedIn at same
    simp only [same]

namespace Box

/-- Members that take names away from the root, if it is asked for them. -/
def added : List Member :=
  [⟨"weights", ⟨3⟩, .field .bool⟩, ⟨"any", ⟨4⟩, .method [] .int⟩, ⟨"w", ⟨5⟩, .field .string⟩]

def extended : Schema where
  name := schema.name
  members := [⟨"weights", ⟨3⟩, .field .bool⟩, ⟨"weights", ⟨0⟩, .field (.list .int)⟩,
    ⟨"any", ⟨4⟩, .method [] .int⟩, ⟨"inner", ⟨1⟩, .field (.object ⟨0⟩)⟩,
    ⟨"scaled", ⟨2⟩, .method [.float] .float⟩, ⟨"w", ⟨5⟩, .field .string⟩]

theorem extended_extends : extended.Extends schema added :=
  .new (.old (.new (.old (.old (.new .nil)))))

/-- The rule asks the inner box for its weights, whose name follows a dot, and has a parameter of a
name that was added. -/
theorem compile_extended_nested : extended.Extends schema added ∧
    ∃ predicate, compile catalog schema "inner.weights.any(w => scaled(w) > 10 / w)" =
        .ok predicate ∧
      compile catalog extended "inner.weights.any(w => scaled(w) > 10 / w)" = .ok predicate := by
  have names : (parse "inner.weights.any(w => scaled(w) > 10 / w)").toOption.map Expr.rootNames =
      some ["inner", "scaled"] := by
    decide +kernel
  obtain ⟨predicate, compiled⟩ :
      ∃ p, compile catalog schema "inner.weights.any(w => scaled(w) > 10 / w)" = .ok p :=
    exists_eq_ok (by decide +kernel)
  refine ⟨extended_extends, predicate, compiled, ?_⟩
  rw [← compiled]
  refine compile_extended extended_extends fun e parsed => ?_
  rw [parsed] at names
  rw [Option.some.inj names]
  decide

end Box

end RecordRules
