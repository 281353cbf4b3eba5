import RecordRules.Proofs.Conformance
import RecordRules.Proofs.Parsing.Spans
import RecordRules.Regex.Library
import RecordRules.Rule

namespace RecordRules

variable {P : Nat → Prop}

/-- If the result is an error, that is one about something that is there, at one of the places. -/
def ErrsAt {α : Type} (P : Nat → Prop) (r : Except BindError α) : Prop :=
  ∀ reason, r = .error reason → P reason.offset ∧ reason.fault ≠ .empty

namespace ErrsAt

variable {α β : Type} {r r' : Except BindError α}

theorem ok (a : α) : ErrsAt P (.ok a) := by
  intro reason h
  cases h

theorem error {fault : CompileFault} {offset : Nat} (place : P offset) (some : fault ≠ .empty) :
    ErrsAt (α := α) P (.error ⟨fault, offset⟩) := by
  intro reason h
  cases h
  exact ⟨place, some⟩

theorem bind {f : α → Except BindError β} (h : ErrsAt P r) (hf : ∀ a, ErrsAt P (f a)) :
    ErrsAt P (r >>= f) := by
  cases r with
  | error reason =>
    intro reason' h'
    cases h'
    exact h reason rfl
  | ok a => exact hf a

theorem ite {c : Prop} [Decidable c] (h : ErrsAt P r) (h' : ErrsAt P r') :
    ErrsAt P (if c then r else r') := by
  split
  · exact h
  · exact h'

end ErrsAt

/-- The argument stands at one of the places, and so do the errors in it. -/
structure Argument.ErrsAt (P : Nat → Prop) (arg : Argument) : Prop where
  place : P arg.offset
  bind : ∀ scope, RecordRules.ErrsAt P (arg.bind scope)
  body : ∀ param offset body, arg.lambda = some (param, offset, body) →
    P offset ∧ ∀ scope, RecordRules.ErrsAt P (body scope)

namespace Scope

variable (scope : Scope) {offset : Nat} (place : P offset) (name : String)

section Checks

include place

theorem expect_errsAt (wanted : Ty) (context : String) (found : Typed) :
    ErrsAt P (scope.expect wanted context offset found) :=
  .ite (.ok _) (.error place nofun)

theorem expectNumber_errsAt (context : String) (found : Typed) :
    ErrsAt P (scope.expectNumber context offset found) :=
  .ite (.ok _) (.error place nofun)

theorem field_errsAt (target : Bound) (member : Member) :
    ErrsAt P (field target member offset) := by
  unfold field
  split
  · exact .ok _
  · exact .error place nofun

theorem ident_errsAt : ErrsAt P (scope.ident name offset) := by
  unfold ident
  split
  · exact .ok _
  · split
    · exact field_errsAt place _ _
    · exact .error place nofun

theorem member_errsAt (target : Typed) : ErrsAt P (scope.member target name offset) := by
  unfold member
  split
  · split
    · exact field_errsAt place _ _
    · exact .error place nofun
  · exact .error place nofun

theorem comparison_errsAt (op : CompareOp) (lhs rhs : Typed) :
    ErrsAt P (scope.comparison op lhs rhs offset) :=
  .ite (.ok _) (.error place nofun)

end Checks

section Calls

variable {args : List Argument} (located : ∀ arg ∈ args, arg.ErrsAt P)

section Arity

include place

theorem checkArity_errsAt (expected : Nat) : ErrsAt P (checkArity name expected args offset) :=
  .ite (.ok _) (.error place nofun)

theorem theArgument_errsAt {ask : Argument → Except BindError Typed}
    (h : ∀ arg ∈ args, ErrsAt P (ask arg)) : ErrsAt P (theArgument name args offset >>= ask) := by
  unfold theArgument
  split
  · exact h _ List.mem_cons_self
  · exact .error place nofun

theorem twoArguments_errsAt {ask : Argument × Argument → Except BindError Typed}
    (h : ∀ first ∈ args, ∀ second ∈ args, ErrsAt P (ask (first, second))) :
    ErrsAt P (twoArguments name args offset >>= ask) := by
  unfold twoArguments
  split
  · exact h _ List.mem_cons_self _ (List.mem_cons_of_mem _ List.mem_cons_self)
  · exact .error place nofun

end Arity

include located

theorem declaredArgs_errsAt (params : List Ty) :
    ErrsAt P (scope.declaredArgs name params args) := by
  induction params generalizing args with
  | nil => exact .ok _
  | cons param params ih =>
    cases args with
    | nil => exact .ok _
    | cons arg rest =>
      obtain ⟨first, others⟩ := List.forall_mem_cons.mp located
      refine (first.bind scope).bind fun x => .ite ?_ (.error first.place nofun)
      exact (ih others).bind fun bounds => .ok _

include place

theorem declaredCall_errsAt (target : Bound) (schema : Schema) {result : Except BindError Typed}
    (found : scope.declaredCall target schema name args offset = some result) :
    ErrsAt P result := by
  unfold declaredCall at found
  obtain ⟨member, -, rfl⟩ := Option.map_eq_some_iff.mp found
  cases member.kind with
  | field type => exact .error place nofun
  | method params returns =>
    refine (checkArity_errsAt place name params.length).bind fun _ => ?_
    exact (scope.declaredArgs_errsAt name located params).bind fun bounds => .ok _

theorem hasCall_errsAt : ErrsAt P (scope.hasCall name args offset) := by
  refine theArgument_errsAt place name fun arg mem => ?_
  have bound := ((located arg mem).bind scope).bind fun x =>
    ErrsAt.ok (⟨.has x.bound, .bool⟩ : Typed)
  split
  · exact bound
  · exact bound
  · exact bound
  · exact bound
  · exact .error (located arg mem).place nofun

theorem absCall_errsAt : ErrsAt P (scope.absCall name args offset) :=
  theArgument_errsAt place name fun arg mem => ((located arg mem).bind scope).bind fun x =>
    (scope.expectNumber_errsAt (located arg mem).place _ x).bind fun _ => .ok _

theorem choiceCall_errsAt (function : Builtin) :
    ErrsAt P (scope.choiceCall function name args offset) :=
  twoArguments_errsAt place name fun first mem second mem' =>
    ((located first mem).bind scope).bind fun x =>
      (scope.expectNumber_errsAt (located first mem).place _ x).bind fun _ =>
        ((located second mem').bind scope).bind fun y =>
          (scope.expectNumber_errsAt (located second mem').place _ y).bind fun _ => .ok _

theorem call_errsAt : ErrsAt P (scope.call name args offset) := by
  unfold call
  split
  next typed found => exact scope.declaredCall_errsAt place name located .root scope.root found
  next =>
    split
    · exact scope.hasCall_errsAt place _ located
    · exact scope.absCall_errsAt place _ located
    · exact scope.choiceCall_errsAt place _ located .min
    · exact scope.choiceCall_errsAt place _ located .max
    · exact .error place nofun

section Methods

variable (target : Bound)

omit located in
theorem stringProperty_errsAt (function : Builtin) (returns : Ty) :
    ErrsAt P (stringProperty function returns target name args offset) :=
  (checkArity_errsAt place name 0).bind fun _ => .ok _

theorem stringTest_errsAt (function : Builtin) :
    ErrsAt P (scope.stringTest function target name args offset) :=
  theArgument_errsAt place name fun arg mem => ((located arg mem).bind scope).bind fun x =>
    (scope.expect_errsAt (located arg mem).place .string _ x).bind fun _ => .ok _

theorem patternTest_errsAt [Patterns] : ErrsAt P (patternTest target name args offset) := by
  refine theArgument_errsAt place name fun arg mem => ?_
  have here := (located arg mem).place
  split
  · split
    · exact .ok _
    · exact .error here nofun
  · exact .error here nofun

theorem stringMethod_errsAt [Patterns] :
    ErrsAt P (scope.stringMethod target name args offset) := by
  unfold stringMethod
  split
  · exact stringProperty_errsAt place _ target .len .int
  · exact stringProperty_errsAt place _ target .lower .string
  · exact stringProperty_errsAt place _ target .upper .string
  · exact scope.stringTest_errsAt place _ located target .contains
  · exact scope.stringTest_errsAt place _ located target .startsWith
  · exact scope.stringTest_errsAt place _ located target .endsWith
  · exact patternTest_errsAt place _ located target
  · exact .error place nofun

variable (element : Ty)

theorem listContains_errsAt :
    ErrsAt P (scope.listContains target element name args offset) :=
  theArgument_errsAt place name fun arg mem => ((located arg mem).bind scope).bind fun _ =>
    .ite (.ok _) (.error (located arg mem).place nofun)

/-- A body that is no truth value is an error at the body, not at the lambda. -/
theorem quantified_errsAt (quantifier : Quantifier) (returns : Ty) :
    ErrsAt P (scope.quantified quantifier returns target element name args offset) := by
  unfold quantified
  split
  next param bodyOffset bind single =>
    obtain ⟨arg, rfl, lambda⟩ := List.map_eq_singleton_iff.mp single
    obtain ⟨here, body⟩ := (located arg List.mem_cons_self).body param bodyOffset bind lambda
    refine (body _).bind fun x => ?_
    exact (scope.expect_errsAt here .bool _ x).bind fun _ => .ok _
  next => exact .error place nofun

theorem listMethod_errsAt : ErrsAt P (scope.listMethod target element name args offset) := by
  unfold listMethod
  split
  · exact scope.quantified_errsAt place _ located target element .any .bool
  · exact scope.quantified_errsAt place _ located target element .all .bool
  · exact scope.quantified_errsAt place _ located target element .count .int
  · exact stringProperty_errsAt place _ target .len .int
  · exact scope.listContains_errsAt place _ located target element
  · exact .error place nofun

theorem method_errsAt [Patterns] (target : Typed) :
    ErrsAt P (scope.method target name args offset) := by
  unfold method
  split
  · split
    next typed found => exact scope.declaredCall_errsAt place name located _ _ found
    next => exact .error place nofun
  · exact scope.stringMethod_errsAt place _ located target.bound
  · exact scope.listMethod_errsAt place _ located target.bound _
  · exact .error place nofun

end Methods

end Calls

end Scope

namespace Expr

variable {e : Expr} {es : List Expr}

/-- All nodes of the expression begin at the places. -/
def BeginsAt (P : Nat → Prop) (e : Expr) : Prop :=
  ∀ node : Expr, node.IsIn e → P node.span.start

theorem BeginsAt.self (h : e.BeginsAt P) : P e.span.start :=
  h e .refl

theorem BeginsAt.parts (h : e.BeginsAt P) : ∀ part ∈ e.parts, part.BeginsAt P :=
  fun _ mem node isIn => h node (isIn.tail mem)

variable [Patterns]

/-- But for a lambda an argument is only resolved as a whole. -/
theorem argument_errsAt_of_bind (place : P e.span.start)
    (bind : ∀ scope, RecordRules.ErrsAt P (e.bind scope)) (noLambda : e.asLambda = none) :
    e.argument.ErrsAt P where
  place := place
  bind := bind
  body param offset body lambda := by
    rw [argument, noLambda] at lambda
    cases lambda

theorem argumentsOf_errsAt (h : ∀ e ∈ es, e.argument.ErrsAt P) :
    ∀ arg ∈ argumentsOf es, arg.ErrsAt P := by
  rw [argumentsOf_eq_map]
  exact List.forall_mem_map.mpr h

theorem conditionsOf_errsAt (h : ∀ e ∈ es, e.argument.ErrsAt P) (scope : Scope) :
    RecordRules.ErrsAt P (conditionsOf es scope) := by
  induction es with
  | nil => exact .ok _
  | cons e rest ih =>
    obtain ⟨first, others⟩ := List.forall_mem_cons.mp h
    refine (first.bind scope).bind fun x => ?_
    refine (scope.expect_errsAt first.place .bool _ x).bind fun _ => ?_
    exact (ih others).bind fun bounds => .ok _

theorem membersOf_errsAt (h : ∀ e ∈ es, e.argument.ErrsAt P) (type : Ty) (scope : Scope) :
    RecordRules.ErrsAt P (membersOf type es scope) := by
  induction es with
  | nil => exact .ok _
  | cons e rest ih =>
    obtain ⟨first, others⟩ := List.forall_mem_cons.mp h
    refine (first.bind scope).bind fun x => .ite ?_ (.error first.place nofun)
    exact (ih others).bind fun bounds => .ok _

/-- The errors of an expression are at the beginnings of its nodes. -/
theorem argument_errsAt (h : e.BeginsAt P) : e.argument.ErrsAt P := by
  induction e using Expr.ind with
  | literal mark value => exact argument_errsAt_of_bind h.self (fun scope => .ok _) rfl
  | ident mark name =>
    exact argument_errsAt_of_bind h.self (fun scope => scope.ident_errsAt h.self name) rfl
  | member mark target name ih =>
    have inside := h.parts target List.mem_cons_self
    refine argument_errsAt_of_bind h.self (fun scope => ?_) rfl
    exact ((ih inside).bind scope).bind fun x => scope.member_errsAt h.self name x
  | call mark name args ih =>
    have located := argumentsOf_errsAt fun e mem => ih e mem (h.parts e mem)
    exact argument_errsAt_of_bind h.self (fun scope => scope.call_errsAt h.self name located) rfl
  | method mark target name args iht ih =>
    have inside := h.parts target List.mem_cons_self
    have located := argumentsOf_errsAt fun e mem =>
      ih e mem (h.parts e (List.mem_cons_of_mem target mem))
    refine argument_errsAt_of_bind h.self (fun scope => ?_) rfl
    exact ((iht inside).bind scope).bind fun x =>
      scope.method_errsAt h.self name located x
  | lambda mark param body ih =>
    have inside := h.parts body List.mem_cons_self
    refine ⟨h.self, fun scope => .error h.self nofun, ?_⟩
    intro _ _ _ lambda
    cases lambda
    exact ⟨inside.self, (ih inside).bind⟩
  | not mark operand ih =>
    have inside := h.parts operand List.mem_cons_self
    refine argument_errsAt_of_bind h.self (fun scope => ?_) rfl
    refine ((ih inside).bind scope).bind fun x => ?_
    exact (scope.expect_errsAt inside.self .bool _ x).bind fun _ => .ok _
  | neg mark operand ih =>
    have inside := h.parts operand List.mem_cons_self
    refine argument_errsAt_of_bind h.self (fun scope => ?_) rfl
    refine ((ih inside).bind scope).bind fun x => ?_
    exact (scope.expectNumber_errsAt inside.self _ x).bind fun _ => .ok _
  | and mark operands ih | or mark operands ih =>
    have located : ∀ e ∈ operands, e.argument.ErrsAt P := fun e mem =>
      ih e mem (h.parts e mem)
    refine argument_errsAt_of_bind h.self (fun scope => ?_) rfl
    exact (conditionsOf_errsAt located scope).bind fun _ => .ok _
  | compare mark op lhs rhs ihl ihr =>
    have left := h.parts lhs List.mem_cons_self
    have right := h.parts rhs (List.mem_cons_of_mem lhs List.mem_cons_self)
    refine argument_errsAt_of_bind h.self (fun scope => ?_) rfl
    exact ((ihl left).bind scope).bind fun x =>
      ((ihr right).bind scope).bind fun y => scope.comparison_errsAt right.self op x y
  | arith mark op lhs rhs ihl ihr =>
    have left := h.parts lhs List.mem_cons_self
    have right := h.parts rhs (List.mem_cons_of_mem lhs List.mem_cons_self)
    refine argument_errsAt_of_bind h.self (fun scope => ?_) rfl
    refine ((ihl left).bind scope).bind fun x =>
      (scope.expectNumber_errsAt left.self _ x).bind fun _ => ?_
    exact ((ihr right).bind scope).bind fun y =>
      (scope.expectNumber_errsAt right.self _ y).bind fun _ => .ok _
  | within mark needle set ihn ih =>
    have inside := h.parts needle List.mem_cons_self
    have located : ∀ e ∈ set, e.argument.ErrsAt P := fun e mem =>
      ih e mem (h.parts e (List.mem_cons_of_mem needle mem))
    refine argument_errsAt_of_bind h.self (fun scope => ?_) rfl
    refine ((ihn inside).bind scope).bind fun x => .ite ?_ (.error inside.self nofun)
    exact (membersOf_errsAt located x.type scope).bind fun _ => .ok _

/-- An error of the resolution is at the beginning of a node. -/
theorem bind_errsAt (e : Expr) (scope : Scope) :
    RecordRules.ErrsAt (fun offset => ∃ node : Expr, node.IsIn e ∧ offset = node.span.start)
      (e.bind scope) :=
  (argument_errsAt fun node isIn => ⟨node, isIn, rfl⟩).bind scope

end Expr

theorem allBlank_eq_false_of_startsAt {text : List Char} {offset : Nat}
    (h : StartsAt text offset) : Text.allBlank text = false := by
  obtain ⟨before, c, after, rfl, -, notBlank⟩ := h
  simp [Text.allBlank, notBlank]

theorem allBlank_eq_false_of_parse {text : String} {e : Expr} (parsed : parse text = .ok e) :
    Text.allBlank text.toList = false :=
  allBlank_eq_false_of_startsAt (nested_of_parse parsed).trimmed.starts

/-- What is wrong with a text is said about that text, at a place in it. Only where there is nothing
but white space there is no place. In a text that can be read, it is the beginning of a node. -/
structure CompileError.WellPlaced (text : String) (err : CompileError) : Prop where
  text_eq : err.text = text
  empty_iff : err.fault = .empty ↔ Text.allBlank text.toList
  noOffset_iff : err.offset = none ↔ Text.allBlank text.toList
  isValid : ∀ offset, err.offset = some offset →
    offset ≤ text.utf8ByteSize ∧ String.Pos.Raw.IsValid text ⟨offset⟩
  atNode : ∀ e, parse text = .ok e → ∃ offset, err.offset = some offset ∧
    (∃ node : Expr, node.IsIn e ∧ offset = node.span.start) ∧ offset < text.utf8ByteSize ∧
    StartsAt text.toList offset

namespace CompileError

variable {text : String} {fault : CompileFault} {offset : Nat} {e : Expr}

theorem wellPlaced_of_blank (blank : Text.allBlank text.toList) :
    WellPlaced text ⟨.empty, none, text⟩ where
  text_eq := rfl
  empty_iff := iff_of_true rfl blank
  noOffset_iff := iff_of_true rfl blank
  isValid := nofun
  atNode e parsed := by
    rw [allBlank_eq_false_of_parse parsed] at blank
    cases blank

theorem wellPlaced_of_some (some : ¬ Text.allBlank text.toList) (notEmpty : fault ≠ .empty)
    (valid : String.Pos.Raw.IsValid text ⟨offset⟩)
    (atNode : ∀ e, parse text = .ok e → ∃ node : Expr, node.IsIn e ∧ offset = node.span.start) :
    WellPlaced text ⟨fault, .some offset, text⟩ where
  text_eq := rfl
  empty_iff := iff_of_false notEmpty some
  noOffset_iff := iff_of_false nofun some
  isValid offset' same := by
    cases same
    exact ⟨valid.le_utf8ByteSize, valid⟩
  atNode e parsed := by
    obtain ⟨node, isIn, rfl⟩ := atNode e parsed
    have placed := wellPlaced_of_parse parsed isIn
    exact ⟨_, rfl, ⟨node, isIn, rfl⟩, Nat.lt_of_lt_of_le placed.start_lt_stop placed.stop_le,
      placed.starts⟩

theorem wellPlaced_of_node (parsed : parse text = .ok e) (notEmpty : fault ≠ .empty)
    (atNode : ∃ node : Expr, node.IsIn e ∧ offset = node.span.start) :
    WellPlaced text ⟨fault, some offset, text⟩ := by
  have notBlank : ¬ Text.allBlank text.toList := by
    rw [allBlank_eq_false_of_parse parsed]
    exact Bool.false_ne_true
  refine wellPlaced_of_some notBlank notEmpty ?_ fun e' parsed' => ?_
  · obtain ⟨node, isIn, rfl⟩ := atNode
    exact (wellPlaced_of_parse parsed isIn).start_isValid
  · cases parsed.symm.trans parsed'
    exact atNode

end CompileError

/-- However a text fails to be a rule, the error is well placed: where it cannot be read the place
is where the parser stopped, and else it is that of the part with a wrong name or type. -/
theorem wellPlaced_of_compile_error [Patterns] {catalog : Catalog} {root : Schema}
    {text : String} {err : CompileError} (failed : compile catalog root text = .error err) :
    err.WellPlaced text := by
  unfold compile at failed
  split at failed
  next blank =>
    cases failed
    exact CompileError.wellPlaced_of_blank blank
  next some =>
    split at failed
    next e unread =>
      cases failed
      have valid := isValid_of_parse_error unread
      refine CompileError.wellPlaced_of_some some nofun valid fun e' parsed => ?_
      rw [parsed] at unread
      cases unread
    next e parsed =>
      split at failed
      next reason unresolved =>
        cases failed
        obtain ⟨atNode, notEmpty⟩ := e.bind_errsAt _ reason unresolved
        exact CompileError.wellPlaced_of_node parsed notEmpty atNode
      next typed resolved =>
        split at failed
        next => cases failed
        next =>
          cases failed
          exact CompileError.wellPlaced_of_node parsed nofun ⟨e, .refl, rfl⟩

/-- The body of the lambda is no truth value. Before it there is white space of two bytes, and of
three. -/
theorem Box.wellPlaced_body : ∃ err,
    compile catalog schema "\u00a0weights.any(\u3000w => w)" = .error err ∧
      err.offset = some 22 ∧ err.WellPlaced "\u00a0weights.any(\u3000w => w)" := by
  have found : (Rule.compile catalog schema "\u00a0weights.any(\u3000w => w)" "" 1).error?.map
      CompileError.offset = some (some 22) := by
    decide +kernel
  cases failed : compile catalog schema "\u00a0weights.any(\u3000w => w)" with
  | ok predicate =>
    rw [Rule.error?, Rule.compile, failed] at found
    cases found
  | error err =>
    rw [Rule.error?, Rule.compile, failed] at found
    exact ⟨err, rfl, Option.some.inj found, wellPlaced_of_compile_error failed⟩

end RecordRules
