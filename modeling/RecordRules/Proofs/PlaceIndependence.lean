import RecordRules.Proofs.MarkIndependence
import RecordRules.Proofs.Parsing.Written

namespace RecordRules

/-- The two results are the same but for the place of an error. -/
def Alike {α : Type} (r r' : Except BindError α) : Prop :=
  r.mapError BindError.fault = r'.mapError BindError.fault

namespace Alike

variable {α β : Type} {r r' : Except BindError α}

theorem refl (r : Except BindError α) : Alike r r :=
  rfl

theorem error (fault : CompileFault) (offset offset' : Nat) :
    Alike (α := α) (.error ⟨fault, offset⟩) (.error ⟨fault, offset'⟩) :=
  rfl

theorem bind {f f' : α → Except BindError β} (h : Alike r r') (hf : ∀ a, Alike (f a) (f' a)) :
    Alike (r >>= f) (r' >>= f') := by
  cases r with
  | error e =>
    cases r' with
    | error e' => exact congrArg Except.error (Except.error.inj h)
    | ok a => cases h
  | ok a =>
    cases r' with
    | error e => cases h
    | ok a' =>
      obtain rfl := Except.ok.inj h
      exact hf a

theorem ite {c : Prop} [Decidable c] {a a' : Except BindError α} (h : Alike r r')
    (h' : Alike a a') : Alike (if c then r else a) (if c then r' else a') := by
  split
  · exact h
  · exact h'

end Alike

namespace Expr

section Written

variable {es : List Expr}

theorem writtenMore_unmarked (h : ∀ e ∈ es, e.unmarked.written = e.written)
    (separator : List Char) :
    writtenMore separator (unmarkedEach es) = writtenMore separator es := by
  induction es with
  | nil => rfl
  | cons e rest ih =>
    obtain ⟨first, others⟩ := List.forall_mem_cons.mp h
    rw [unmarkedEach, writtenMore_cons, writtenMore_cons, first, ih others]

theorem writtenList_unmarked (h : ∀ e ∈ es, e.unmarked.written = e.written)
    (separator : List Char) :
    writtenList separator (unmarkedEach es) = writtenList separator es := by
  cases es with
  | nil => rfl
  | cons e rest =>
    obtain ⟨first, others⟩ := List.forall_mem_cons.mp h
    rw [unmarkedEach, writtenList_cons, writtenList_cons, first, writtenMore_unmarked others]

/-- The text of an expression does not depend on its marks. -/
theorem written_unmarked (e : Expr) : e.unmarked.written = e.written := by
  induction e using Expr.ind with
  | literal | ident => rfl
  | member _ target name ih | lambda _ name target ih | not _ target ih | neg _ target ih =>
    simp [unmarked, ih]
  | call _ name args ih | and _ args ih | or _ args ih => simp [unmarked, writtenList_unmarked ih]
  | method _ target name args iht ih | within _ target args iht ih =>
    simp [unmarked, iht, writtenList_unmarked ih]
  | compare _ op lhs rhs ihl ihr | arith _ op lhs rhs ihl ihr => simp [unmarked, ihl, ihr]

theorem render_unmarked (e : Expr) : e.unmarked.render = e.render :=
  congrArg String.ofList e.written_unmarked

end Written

end Expr

namespace Scope

section Alike

variable (scope : Scope) (offset offset' : Nat)

theorem expect_alike (wanted : Ty) (context : String) (found : Typed) :
    Alike (scope.expect wanted context offset found)
      (scope.expect wanted context offset' found) :=
  .ite (.refl _) (.error _ _ _)

theorem expectNumber_alike (context : String) (found : Typed) :
    Alike (scope.expectNumber context offset found)
      (scope.expectNumber context offset' found) :=
  .ite (.refl _) (.error _ _ _)

theorem field_alike (target : Bound) (member : Member) :
    Alike (field target member offset) (field target member offset') := by
  unfold field
  split
  · exact .refl _
  · exact .error _ _ _

theorem ident_alike (name : String) :
    Alike (scope.ident name offset) (scope.ident name offset') := by
  unfold ident
  split
  · exact .refl _
  · split
    · exact field_alike _ _ _ _
    · exact .error _ _ _

theorem member_alike (target : Typed) (name : String) :
    Alike (scope.member target name offset) (scope.member target name offset') := by
  unfold member
  split
  · split
    · exact field_alike _ _ _ _
    · exact .error _ _ _
  · exact .error _ _ _

theorem comparison_alike (op : CompareOp) (lhs rhs : Typed) :
    Alike (scope.comparison op lhs rhs offset) (scope.comparison op lhs rhs offset') :=
  .ite (.refl _) (.error _ _ _)

/-- An argument of the wrong kind is named in the error by its text. -/
theorem refused_alike [Patterns] (name expected : String) (e : Expr) :
    Alike (α := Typed) (.error ⟨.typeMismatch name expected e.render, e.argument.offset⟩)
      (.error ⟨.typeMismatch name expected e.unmarked.render, e.unmarked.argument.offset⟩) := by
  rw [e.render_unmarked]
  exact .error _ _ _

end Alike

end Scope

variable [Patterns]

namespace Expr

/-- Without its marks the expression is resolved to the same, or not resolved for the same
reason. -/
def Placeless (e : Expr) : Prop :=
  ∀ scope, Alike (e.bind scope) (e.unmarked.bind scope)

/-- A lambda cannot be resolved by itself, but its body can. -/
def BodyPlaceless : Expr → Prop
  | lambda _ _ body => body.Placeless
  | _ => True

end Expr

namespace Scope

section Calls

/-! A call with arguments and the same call with the marks of its arguments taken off. -/

variable (scope : Scope) {args : List Expr} (alike : ∀ e ∈ args, e.Placeless) (name : String)
  (offset offset' : Nat)

theorem checkArity_alike (expected : Nat) :
    Alike (checkArity name expected (argumentsOf args) offset)
      (checkArity name expected (argumentsOf (unmarkedEach args)) offset') := by
  have lengths : (argumentsOf (unmarkedEach args)).length = (argumentsOf args).length := by
    simp only [argumentsOf_eq_map, List.length_map, length_unmarkedEach]
  unfold checkArity
  rw [lengths]
  exact .ite (.refl _) (.error _ _ _)

theorem theArgument_alike {ask ask' : Argument → Except BindError Typed}
    (h : ∀ e ∈ args, Alike (ask e.argument) (ask' e.unmarked.argument)) :
    Alike (theArgument name (argumentsOf args) offset >>= ask)
      (theArgument name (argumentsOf (unmarkedEach args)) offset' >>= ask') := by
  rcases args with _ | ⟨e, _ | ⟨f, rest⟩⟩
  · exact .error _ _ _
  · exact h e List.mem_cons_self
  · have lengths : (argumentsOf (unmarkedEach rest)).length = (argumentsOf rest).length := by
      simp only [argumentsOf_eq_map, List.length_map, length_unmarkedEach]
    simp only [theArgument, argumentsOf, unmarkedEach, List.length_cons, lengths]
    exact .error _ _ _

theorem twoArguments_alike {ask ask' : Argument × Argument → Except BindError Typed}
    (h : ∀ e ∈ args, ∀ f ∈ args,
      Alike (ask (e.argument, f.argument)) (ask' (e.unmarked.argument, f.unmarked.argument))) :
    Alike (twoArguments name (argumentsOf args) offset >>= ask)
      (twoArguments name (argumentsOf (unmarkedEach args)) offset' >>= ask') := by
  rcases args with _ | ⟨e, _ | ⟨f, _ | ⟨g, rest⟩⟩⟩
  · exact .error _ _ _
  · exact .error _ _ _
  · exact h e (by simp) f (by simp)
  · have lengths : (argumentsOf (unmarkedEach rest)).length = (argumentsOf rest).length := by
      simp only [argumentsOf_eq_map, List.length_map, length_unmarkedEach]
    simp only [twoArguments, argumentsOf, unmarkedEach, List.length_cons, lengths]
    exact .error _ _ _

include alike

theorem declaredArgs_alike (params : List Ty) :
    Alike (scope.declaredArgs name params (argumentsOf args))
      (scope.declaredArgs name params (argumentsOf (unmarkedEach args))) := by
  induction params generalizing args with
  | nil => exact .refl _
  | cons param params ih =>
    cases args with
    | nil => exact .refl _
    | cons e rest =>
      obtain ⟨first, others⟩ := List.forall_mem_cons.mp alike
      refine (first scope).bind fun x => .ite ?_ (.error _ _ _)
      exact (ih others).bind fun bounds => .refl _

/-- A declared member is found whatever the marks are, and so is its absence. -/
theorem declaredCall_alike (target : Bound) (schema : Schema) :
    (∃ result result', scope.declaredCall target schema name (argumentsOf args) offset = some result ∧
      scope.declaredCall target schema name (argumentsOf (unmarkedEach args)) offset' =
        some result' ∧ Alike result result') ∨
    scope.declaredCall target schema name (argumentsOf args) offset = none ∧
      scope.declaredCall target schema name (argumentsOf (unmarkedEach args)) offset' = none := by
  unfold declaredCall
  cases schema.member? name with
  | none => exact .inr ⟨rfl, rfl⟩
  | some member =>
    refine .inl ⟨_, _, rfl, rfl, ?_⟩
    cases kind : member.kind with
    | field type =>
      simp only [kind]
      exact .error _ _ _
    | method params returns =>
      simp only [kind]
      refine (checkArity_alike name offset offset' params.length).bind fun _ => ?_
      exact (declaredArgs_alike scope alike name params).bind fun bounds => .refl _

theorem hasCall_alike : Alike (scope.hasCall name (argumentsOf args) offset)
    (scope.hasCall name (argumentsOf (unmarkedEach args)) offset') := by
  refine theArgument_alike name offset offset' fun e mem => ?_
  have bound := (alike e mem scope).bind fun x =>
    Alike.refl (.ok (⟨.has x.bound, .bool⟩ : Typed))
  have refused := refused_alike name "member access" e
  -- taking the marks off does not make another kind of expression
  cases e with
  | ident | member | call | method => exact bound
  | _ => exact refused

theorem absCall_alike : Alike (scope.absCall name (argumentsOf args) offset)
    (scope.absCall name (argumentsOf (unmarkedEach args)) offset') :=
  theArgument_alike name offset offset' fun e mem => (alike e mem scope).bind fun x =>
    (scope.expectNumber_alike _ _ name x).bind fun _ => .refl _

theorem choiceCall_alike (function : Builtin) :
    Alike (scope.choiceCall function name (argumentsOf args) offset)
      (scope.choiceCall function name (argumentsOf (unmarkedEach args)) offset') :=
  twoArguments_alike name offset offset' fun e mem f mem' =>
    (alike e mem scope).bind fun x => (scope.expectNumber_alike _ _ name x).bind fun _ =>
      (alike f mem' scope).bind fun y => (scope.expectNumber_alike _ _ name y).bind fun _ => .refl _

theorem call_alike : Alike (scope.call name (argumentsOf args) offset)
    (scope.call name (argumentsOf (unmarkedEach args)) offset') := by
  unfold call
  rcases scope.declaredCall_alike alike name offset offset' .root scope.root with
    ⟨result, result', found, found', same⟩ | ⟨none, none'⟩
  · simp only [found, found']
    exact same
  · simp only [none, none']
    split
    · exact scope.hasCall_alike alike _ offset offset'
    · exact scope.absCall_alike alike _ offset offset'
    · exact scope.choiceCall_alike alike _ offset offset' .min
    · exact scope.choiceCall_alike alike _ offset offset' .max
    · exact .error _ _ _

section Methods

variable (target : Bound)

omit alike in
theorem stringProperty_alike (function : Builtin) (returns : Ty) :
    Alike (stringProperty function returns target name (argumentsOf args) offset)
      (stringProperty function returns target name (argumentsOf (unmarkedEach args)) offset') :=
  (checkArity_alike name offset offset' 0).bind fun _ => .refl _

theorem stringTest_alike (function : Builtin) :
    Alike (scope.stringTest function target name (argumentsOf args) offset)
      (scope.stringTest function target name (argumentsOf (unmarkedEach args)) offset') :=
  theArgument_alike name offset offset' fun e mem => (alike e mem scope).bind fun x =>
    (scope.expect_alike _ _ .string _ x).bind fun _ => .refl _

omit alike in
theorem patternTest_alike : Alike (patternTest target name (argumentsOf args) offset)
    (patternTest target name (argumentsOf (unmarkedEach args)) offset') := by
  refine theArgument_alike name offset offset' fun e mem => ?_
  have refused := refused_alike name "string literal" e
  cases e with
  | literal mark value =>
    cases value with
    | string text =>
      simp only [Expr.unmarked, Expr.argument]
      cases Patterns.compile text with
      | ok pattern => exact .refl _
      | error reason => exact .error _ _ _
    | _ => exact refused
  | _ => exact refused

theorem stringMethod_alike : Alike (scope.stringMethod target name (argumentsOf args) offset)
    (scope.stringMethod target name (argumentsOf (unmarkedEach args)) offset') := by
  unfold stringMethod
  split
  · exact stringProperty_alike _ _ _ target .len .int
  · exact stringProperty_alike _ _ _ target .lower .string
  · exact stringProperty_alike _ _ _ target .upper .string
  · exact scope.stringTest_alike alike _ _ _ target .contains
  · exact scope.stringTest_alike alike _ _ _ target .startsWith
  · exact scope.stringTest_alike alike _ _ _ target .endsWith
  · exact patternTest_alike _ _ _ target
  · exact .error _ _ _

variable (element : Ty)

theorem listContains_alike :
    Alike (scope.listContains target element name (argumentsOf args) offset)
      (scope.listContains target element name (argumentsOf (unmarkedEach args)) offset') :=
  theArgument_alike name offset offset' fun e mem => (alike e mem scope).bind fun _ =>
    .ite (.refl _) (.error _ _ _)

omit alike in
theorem quantified_alike (bodies : ∀ e ∈ args, e.BodyPlaceless) (quantifier : Quantifier)
    (returns : Ty) :
    Alike (scope.quantified quantifier returns target element name (argumentsOf args) offset)
      (scope.quantified quantifier returns target element name (argumentsOf (unmarkedEach args))
        offset') := by
  have refused := Alike.error (α := Typed) (.expectedLambda name) offset offset'
  rcases args with _ | ⟨e, _ | ⟨f, rest⟩⟩
  · exact refused
  · cases e with
    | lambda mark param body =>
      refine (bodies _ List.mem_cons_self _).bind fun x => ?_
      exact (scope.expect_alike _ _ .bool _ x).bind fun _ => .refl _
    | _ => exact refused
  · cases e with
    | _ => exact refused

theorem listMethod_alike (bodies : ∀ e ∈ args, e.BodyPlaceless) :
    Alike (scope.listMethod target element name (argumentsOf args) offset)
      (scope.listMethod target element name (argumentsOf (unmarkedEach args)) offset') := by
  unfold listMethod
  split
  · exact scope.quantified_alike _ _ _ target element bodies .any .bool
  · exact scope.quantified_alike _ _ _ target element bodies .all .bool
  · exact scope.quantified_alike _ _ _ target element bodies .count .int
  · exact stringProperty_alike _ _ _ target .len .int
  · exact scope.listContains_alike alike _ _ _ target element
  · exact .error _ _ _

theorem method_alike (bodies : ∀ e ∈ args, e.BodyPlaceless) (target : Typed) :
    Alike (scope.method target name (argumentsOf args) offset)
      (scope.method target name (argumentsOf (unmarkedEach args)) offset') := by
  unfold method
  split
  · rename_i schema _
    rcases scope.declaredCall_alike alike name offset offset' target.bound
      (scope.catalog.schema schema) with ⟨result, result', found, found', same⟩ | ⟨none, none'⟩
    · simp only [found, found']
      exact same
    · simp only [none, none']
      exact .error _ _ _
  · exact scope.stringMethod_alike alike _ _ _ target.bound
  · exact scope.listMethod_alike alike _ _ _ target.bound _ bodies
  · exact .error _ _ _

end Methods

end Calls

end Scope

theorem conditionsOf_alike {es : List Expr} (alike : ∀ e ∈ es, e.Placeless) (scope : Scope) :
    Alike (conditionsOf es scope) (conditionsOf (unmarkedEach es) scope) := by
  induction es with
  | nil => exact .refl _
  | cons e rest ih =>
    obtain ⟨first, others⟩ := List.forall_mem_cons.mp alike
    refine (first scope).bind fun x => (scope.expect_alike _ _ .bool _ x).bind fun _ => ?_
    exact (ih others).bind fun bounds => .refl _

theorem membersOf_alike {es : List Expr} (alike : ∀ e ∈ es, e.Placeless) (type : Ty)
    (scope : Scope) :
    Alike (membersOf type es scope) (membersOf type (unmarkedEach es) scope) := by
  induction es with
  | nil => exact .refl _
  | cons e rest ih =>
    obtain ⟨first, others⟩ := List.forall_mem_cons.mp alike
    refine (first scope).bind fun x => .ite ?_ (.error _ _ _)
    exact (ih others).bind fun bounds => .refl _

/-- Why an expression is not resolved does not depend on its marks. -/
theorem Expr.placeless_and_bodyPlaceless (e : Expr) : e.Placeless ∧ e.BodyPlaceless := by
  induction e using Expr.ind with
  | literal mark value => exact ⟨fun scope => .refl _, trivial⟩
  | ident mark name => exact ⟨fun scope => scope.ident_alike _ _ name, trivial⟩
  | member mark target name ih =>
    refine ⟨fun scope => ?_, trivial⟩
    exact (ih.1 scope).bind fun x => scope.member_alike _ _ x name
  | call mark name args ih =>
    refine ⟨fun scope => ?_, trivial⟩
    exact scope.call_alike (fun e mem => (ih e mem).1) name _ _
  | method mark target name args iht ih =>
    refine ⟨fun scope => ?_, trivial⟩
    exact (iht.1 scope).bind fun x => scope.method_alike (fun e mem => (ih e mem).1) name _ _
      (fun e mem => (ih e mem).2) x
  | lambda mark param body ih =>
    exact ⟨fun scope => .error _ _ _, ih.1⟩
  | not mark operand ih =>
    refine ⟨fun scope => ?_, trivial⟩
    exact (ih.1 scope).bind fun x => (scope.expect_alike _ _ .bool _ x).bind fun _ => .refl _
  | neg mark operand ih =>
    refine ⟨fun scope => ?_, trivial⟩
    exact (ih.1 scope).bind fun x => (scope.expectNumber_alike _ _ _ x).bind fun _ => .refl _
  | and mark operands ih =>
    refine ⟨fun scope => ?_, trivial⟩
    exact (conditionsOf_alike (fun e mem => (ih e mem).1) scope).bind fun _ => .refl _
  | or mark operands ih =>
    refine ⟨fun scope => ?_, trivial⟩
    exact (conditionsOf_alike (fun e mem => (ih e mem).1) scope).bind fun _ => .refl _
  | compare mark op lhs rhs ihl ihr =>
    refine ⟨fun scope => ?_, trivial⟩
    exact (ihl.1 scope).bind fun x => (ihr.1 scope).bind fun y => scope.comparison_alike _ _ op x y
  | arith mark op lhs rhs ihl ihr =>
    refine ⟨fun scope => ?_, trivial⟩
    refine (ihl.1 scope).bind fun x => (scope.expectNumber_alike _ _ _ x).bind fun _ => ?_
    exact (ihr.1 scope).bind fun y => (scope.expectNumber_alike _ _ _ y).bind fun _ => .refl _
  | within mark needle set ihn ih =>
    refine ⟨fun scope => ?_, trivial⟩
    refine (ihn.1 scope).bind fun x => .ite ?_ (.error _ _ _)
    exact (membersOf_alike (fun e mem => (ih e mem).1) x.type scope).bind fun _ => .refl _

theorem bind_alike {e e' : Expr} (same : e'.unmarked = e.unmarked) (scope : Scope) :
    Alike (e'.bind scope) (e.bind scope) := by
  have h := e.placeless_and_bodyPlaceless.1 scope
  have h' := e'.placeless_and_bodyPlaceless.1 scope
  rw [same] at h'
  exact h'.trans h.symm

end RecordRules
