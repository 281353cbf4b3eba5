import RecordRules.Proofs.Resolves

namespace RecordRules

theorem exists_eq_ok {ε α : Type} {x : Except ε α} (h : x.isOk) : ∃ a, x = .ok a := by
  cases x with
  | error e => cases h
  | ok a => exact ⟨a, rfl⟩

theorem bind_eq_ok {ε α β : Type} {x : Except ε α} {f : α → Except ε β} {b : β} :
    (x >>= f) = .ok b ↔ ∃ a, x = .ok a ∧ f a = .ok b := by
  cases x with
  | error e =>
    constructor
    · intro h
      cases h
    · rintro ⟨a, h, -⟩
      cases h
  | ok a =>
    constructor
    · intro h
      exact ⟨a, rfl, h⟩
    · rintro ⟨a', h, hf⟩
      cases h
      exact hf

namespace Scope

variable {scope : Scope} {x typed : Typed} {name : String} {offset : Nat}

theorem type_of_expect {wanted : Ty} {context : String} {u : Unit}
    (h : scope.expect wanted context offset x = .ok u) : x.type = wanted := by
  unfold expect at h
  split at h
  next eq => exact eq
  next => cases h

theorem isNumeric_of_expectNumber {context : String} {u : Unit}
    (h : scope.expectNumber context offset x = .ok u) : x.type.isNumeric := by
  unfold expectNumber at h
  split at h
  next eq => exact eq
  next => cases h

theorem length_of_checkArity {expected : Nat} {args : List Argument} {u : Unit}
    (h : checkArity name expected args offset = .ok u) : args.length = expected := by
  unfold checkArity at h
  split at h
  next eq => exact eq
  next => cases h

theorem field_eq_ok {target : Bound} {member : Member}
    (h : field target member offset = .ok typed) :
    ∃ type, member.kind = .field type ∧ typed = ⟨.get target member.id [], type⟩ := by
  unfold field at h
  split at h
  next type hk =>
    cases h
    exact ⟨type, hk, rfl⟩
  next => cases h

theorem member?_of_declaredCall_eq_none {target : Bound} {schema : Schema} {args : List Argument}
    (h : scope.declaredCall target schema name args offset = none) :
    schema.member? name = none := by
  simpa [declaredCall] using h

end Scope

variable [Patterns]

/-- An expression as an argument of a call. -/
def Expr.argument (e : Expr) : Argument :=
  ⟨e, e.bind, e.asLambda⟩

theorem argumentsOf_eq_map (es : List Expr) : argumentsOf es = es.map Expr.argument := by
  induction es with
  | nil => rfl
  | cons e rest ih => simp only [argumentsOf, List.map_cons, ih, Expr.argument]

namespace Scope

variable {scope : Scope} {name : String} {offset : Nat}

theorem eq_nil_of_checkArity {args : List Expr} {u : Unit}
    (h : checkArity name 0 (args.map Expr.argument) offset = .ok u) : args = [] := by
  have none := length_of_checkArity h
  rw [List.length_map] at none
  exact List.eq_nil_of_length_eq_zero none

theorem eq_of_theArgument {args : List Expr} {arg : Argument}
    (h : theArgument name (args.map Expr.argument) offset = .ok arg) :
    ∃ e, args = [e] ∧ arg = e.argument := by
  match args, h with
  | [e], h => exact ⟨e, rfl, (Except.ok.inj h).symm⟩

theorem eq_of_twoArguments {args : List Expr} {first second : Argument}
    (h : twoArguments name (args.map Expr.argument) offset = .ok (first, second)) :
    ∃ e f, args = [e, f] ∧ first = e.argument ∧ second = f.argument := by
  match args, h with
  | [e, f], h =>
    obtain ⟨h₁, h₂⟩ := Prod.mk.inj (Except.ok.inj h)
    exact ⟨e, f, rfl, h₁.symm, h₂.symm⟩

end Scope

theorem conditionsOf_eq_ok {scope : Scope} {es : List Expr} {bounds : List Bound}
    (h : conditionsOf es scope = .ok bounds) :
    ∃ xs : List Typed, es.length = xs.length ∧ (∀ p ∈ es.zip xs, p.1.bind scope = .ok p.2) ∧
      (∀ x ∈ xs, x.type = .bool) ∧ bounds = xs.map Typed.bound := by
  induction es generalizing bounds with
  | nil =>
    cases h
    exact ⟨[], rfl, by simp, by simp, rfl⟩
  | cons e rest ih =>
    obtain ⟨x, hx, h⟩ := bind_eq_ok.mp h
    obtain ⟨_, hu, h⟩ := bind_eq_ok.mp h
    obtain ⟨others, ho, h⟩ := bind_eq_ok.mp h
    cases h
    obtain ⟨xs, hlen, hall, htypes, rfl⟩ := ih ho
    refine ⟨x :: xs, by simp [hlen], ?_, ?_, rfl⟩
    · exact List.forall_mem_cons.mpr ⟨hx, hall⟩
    · exact List.forall_mem_cons.mpr ⟨Scope.type_of_expect hu, htypes⟩

theorem membersOf_eq_ok {scope : Scope} {type : Ty} {es : List Expr} {bounds : List Bound}
    (h : membersOf type es scope = .ok bounds) :
    ∃ xs : List Typed, es.length = xs.length ∧ (∀ p ∈ es.zip xs, p.1.bind scope = .ok p.2) ∧
      (∀ x ∈ xs, type.comparableWith x.type) ∧ bounds = xs.map Typed.bound := by
  induction es generalizing bounds with
  | nil =>
    cases h
    exact ⟨[], rfl, by simp, by simp, rfl⟩
  | cons e rest ih =>
    obtain ⟨x, hx, h⟩ := bind_eq_ok.mp h
    split at h
    next comparable =>
      obtain ⟨others, ho, h⟩ := bind_eq_ok.mp h
      cases h
      obtain ⟨xs, hlen, hall, htypes, rfl⟩ := ih ho
      refine ⟨x :: xs, by simp [hlen], ?_, ?_, rfl⟩
      · exact List.forall_mem_cons.mpr ⟨hx, hall⟩
      · exact List.forall_mem_cons.mpr ⟨comparable, htypes⟩
    next =>
      obtain ⟨_, hu, _⟩ := bind_eq_ok.mp h
      cases hu

namespace Scope

variable {scope : Scope} {typed : Typed} {name : String} {offset : Nat}

theorem declaredArgs_eq_ok {params : List Ty} {es : List Expr} {bounds : List Bound}
    (hlen : es.length = params.length)
    (h : scope.declaredArgs name params (es.map Expr.argument) = .ok bounds) :
    ∃ xs : List Typed, es.length = xs.length ∧ (∀ p ∈ es.zip xs, p.1.bind scope = .ok p.2) ∧
      List.Forall₂ (fun param x => param.accepts x.type) params xs ∧
      bounds = xs.map Typed.bound := by
  induction es generalizing params bounds with
  | nil =>
    have empty : params = [] := List.length_eq_zero_iff.mp hlen.symm
    subst empty
    cases h
    exact ⟨[], rfl, by simp, .nil, rfl⟩
  | cons e rest ih =>
    cases params with
    | nil => simp at hlen
    | cons param params =>
      obtain ⟨x, hx, h⟩ := bind_eq_ok.mp h
      split at h
      next accepted =>
        obtain ⟨others, ho, h⟩ := bind_eq_ok.mp h
        cases h
        obtain ⟨xs, hlen', hall, htypes, rfl⟩ := ih (by simpa using hlen) ho
        exact ⟨x :: xs, by simp [hlen'], List.forall_mem_cons.mpr ⟨hx, hall⟩,
          .cons accepted htypes, rfl⟩
      next =>
        obtain ⟨_, hu, _⟩ := bind_eq_ok.mp h
        cases hu

/-- A declared call names a method of the schema and fits its parameters. -/
theorem declaredCall_eq_ok {target : Bound} {schema : Schema} {args : List Expr}
    (h : scope.declaredCall target schema name (args.map Expr.argument) offset =
      some (.ok typed)) :
    ∃ member params returns xs, schema.member? name = some member ∧
      member.kind = .method params returns ∧ args.length = xs.length ∧
      (∀ p ∈ args.zip xs, p.1.bind scope = .ok p.2) ∧
      List.Forall₂ (fun param x => param.accepts x.type) params xs ∧
      typed = ⟨.get target member.id (xs.map Typed.bound), returns⟩ := by
  obtain ⟨member, hm, h⟩ := Option.map_eq_some_iff.mp h
  cases hk : member.kind with
  | field type =>
    rw [hk] at h
    cases h
  | method params returns =>
    rw [hk] at h
    obtain ⟨_, hu, h⟩ := bind_eq_ok.mp h
    obtain ⟨bounds, hb, h⟩ := bind_eq_ok.mp h
    cases h
    have hlen := length_of_checkArity hu
    rw [List.length_map] at hlen
    obtain ⟨xs, hlen', hall, htypes, rfl⟩ := declaredArgs_eq_ok hlen hb
    exact ⟨member, params, returns, xs, hm, hk, hlen', hall, htypes, rfl⟩

end Scope

/-- Whatever the expression is resolved to, the rules allow. -/
def Expr.Sound (e : Expr) : Prop :=
  ∀ ⦃scope x⦄, e.bind scope = .ok x → Resolves scope e x

/-- The body, if the expression is a lambda, is resolved as the rules allow. -/
def Expr.BodySound (e : Expr) : Prop :=
  ∀ ⦃mark param body⦄, e = .lambda mark param body → body.Sound

theorem resolves_of_mem_zip {scope : Scope} {es : List Expr} {xs : List Typed}
    (sound : ∀ e ∈ es, e.Sound) (h : ∀ p ∈ es.zip xs, p.1.bind scope = .ok p.2) :
    ∀ p ∈ es.zip xs, Resolves scope p.1 p.2 := by
  intro p hp
  exact sound p.1 (List.of_mem_zip hp).1 (h p hp)

namespace Scope

variable {scope : Scope} {typed : Typed} {mark : Mark} {name : String} {offset : Nat}
  {target : Expr} {bound : Bound} {args : List Expr}

theorem resolves_ident (h : scope.ident name offset = .ok typed) :
    Resolves scope (.ident mark name) typed := by
  unfold ident at h
  split at h
  next slot type found =>
    cases h
    exact .param found
  next free =>
    split at h
    next member hm =>
      obtain ⟨type, hk, rfl⟩ := field_eq_ok h
      exact .rootField free hm hk
    next => cases h

theorem resolves_member {x : Typed} (ht : Resolves scope target x)
    (h : scope.member x name offset = .ok typed) :
    Resolves scope (.member mark target name) typed := by
  obtain ⟨object, type⟩ := x
  cases type with
  | object schema =>
    simp only [member] at h
    split at h
    next member hm =>
      obtain ⟨type, hk, rfl⟩ := field_eq_ok h
      exact .field ht hm hk
    next => cases h
  | _ => cases h

theorem resolves_comparison {op : CompareOp} {lhs rhs : Expr} {x y : Typed}
    (hx : Resolves scope lhs x) (hy : Resolves scope rhs y)
    (h : scope.comparison op x y offset = .ok typed) :
    Resolves scope (.compare mark op lhs rhs) typed := by
  have applied : scope.comparison op x y offset =
      if op.applies x.type y.type then .ok ⟨.compare op x.bound y.bound, .bool⟩
      else scope.mismatch "comparison" (x.type.render scope.catalog) y.type offset := rfl
  rw [applied] at h
  split at h
  next comparable =>
    cases h
    exact .compare hx hy comparable
  next => cases h

theorem resolves_hasCall (sound : ∀ e ∈ args, e.Sound) (absent : scope.root.member? "has" = none)
    (h : scope.hasCall "has" (args.map Expr.argument) offset = .ok typed) :
    Resolves scope (.call mark "has" args) typed := by
  obtain ⟨arg, ha, h⟩ := bind_eq_ok.mp h
  obtain ⟨e, rfl, rfl⟩ := eq_of_theArgument ha
  have reads : e.ReadsMember ∧ ∃ x, e.bind scope = .ok x ∧ typed = ⟨.has x.bound, .bool⟩ := by
    cases e with
    | ident | member | call | method =>
      obtain ⟨x, hx, h⟩ := bind_eq_ok.mp h
      cases h
      exact ⟨trivial, x, hx, rfl⟩
    | _ => cases h
  obtain ⟨hr, x, hx, rfl⟩ := reads
  exact .has absent hr (sound e (by simp) hx)

theorem resolves_absCall (sound : ∀ e ∈ args, e.Sound) (absent : scope.root.member? "abs" = none)
    (h : scope.absCall "abs" (args.map Expr.argument) offset = .ok typed) :
    Resolves scope (.call mark "abs" args) typed := by
  obtain ⟨arg, ha, h⟩ := bind_eq_ok.mp h
  obtain ⟨e, rfl, rfl⟩ := eq_of_theArgument ha
  obtain ⟨x, hx, h⟩ := bind_eq_ok.mp h
  obtain ⟨_, hu, h⟩ := bind_eq_ok.mp h
  cases h
  exact .abs absent (sound e (by simp) hx) (isNumeric_of_expectNumber hu)

theorem resolves_choiceCall {function : Builtin} (sound : ∀ e ∈ args, e.Sound)
    (absent : scope.root.member? name = none) (mem : (name, function) ∈ choices)
    (h : scope.choiceCall function name (args.map Expr.argument) offset = .ok typed) :
    Resolves scope (.call mark name args) typed := by
  obtain ⟨⟨a, b⟩, ha, h⟩ := bind_eq_ok.mp h
  obtain ⟨e, f, rfl, rfl, rfl⟩ := eq_of_twoArguments ha
  obtain ⟨x, hx, h⟩ := bind_eq_ok.mp h
  obtain ⟨_, hu, h⟩ := bind_eq_ok.mp h
  obtain ⟨y, hy, h⟩ := bind_eq_ok.mp h
  obtain ⟨_, hv, h⟩ := bind_eq_ok.mp h
  cases h
  exact .choice absent mem (sound e (by simp) hx) (isNumeric_of_expectNumber hu)
    (sound f (by simp) hy) (isNumeric_of_expectNumber hv)

theorem resolves_call (sound : ∀ e ∈ args, e.Sound)
    (h : scope.call name (args.map Expr.argument) offset = .ok typed) :
    Resolves scope (.call mark name args) typed := by
  unfold call at h
  split at h
  next declared =>
    rw [h] at declared
    obtain ⟨member, params, returns, xs, hm, hk, hlen, hall, htypes, rfl⟩ :=
      declaredCall_eq_ok declared
    exact .rootCall hm hk hlen (resolves_of_mem_zip sound hall) htypes
  next undeclared =>
    have absent := member?_of_declaredCall_eq_none undeclared
    split at h
    next => exact resolves_hasCall sound absent h
    next => exact resolves_absCall sound absent h
    next => exact resolves_choiceCall sound absent (by simp [choices]) h
    next => exact resolves_choiceCall sound absent (by simp [choices]) h
    next => cases h

theorem resolves_stringProperty {function : Builtin} {returns : Ty}
    (ht : Resolves scope target ⟨bound, .string⟩) (mem : (name, function, returns) ∈ stringProperties)
    (h : stringProperty function returns bound name (args.map Expr.argument) offset = .ok typed) :
    Resolves scope (.method mark target name args) typed := by
  obtain ⟨_, hu, h⟩ := bind_eq_ok.mp h
  cases h
  rw [eq_nil_of_checkArity hu]
  exact .stringProperty ht mem

theorem resolves_stringTest {function : Builtin} (sound : ∀ e ∈ args, e.Sound)
    (ht : Resolves scope target ⟨bound, .string⟩) (mem : (name, function) ∈ stringTests)
    (h : scope.stringTest function bound name (args.map Expr.argument) offset = .ok typed) :
    Resolves scope (.method mark target name args) typed := by
  obtain ⟨arg, ha, h⟩ := bind_eq_ok.mp h
  obtain ⟨e, rfl, rfl⟩ := eq_of_theArgument ha
  obtain ⟨⟨other, type⟩, hx, h⟩ := bind_eq_ok.mp h
  obtain ⟨_, hu, h⟩ := bind_eq_ok.mp h
  cases h
  have isString : type = .string := type_of_expect hu
  subst isString
  exact .stringTest ht mem (sound e (by simp) hx)

theorem resolves_patternTest (ht : Resolves scope target ⟨bound, .string⟩)
    (h : patternTest bound "matches" (args.map Expr.argument) offset = .ok typed) :
    Resolves scope (.method mark target "matches" args) typed := by
  obtain ⟨arg, ha, h⟩ := bind_eq_ok.mp h
  obtain ⟨e, rfl, rfl⟩ := eq_of_theArgument ha
  split at h
  next argMark pattern he =>
    have he : e = .literal argMark (.string pattern) := he
    subst he
    split at h
    next pattern hp =>
      cases h
      exact .matching ht hp
    next => cases h
  next => cases h

theorem resolves_stringMethod (sound : ∀ e ∈ args, e.Sound)
    (ht : Resolves scope target ⟨bound, .string⟩)
    (h : scope.stringMethod bound name (args.map Expr.argument) offset = .ok typed) :
    Resolves scope (.method mark target name args) typed := by
  unfold stringMethod at h
  split at h
  next => exact resolves_stringProperty ht (by simp [stringProperties]) h
  next => exact resolves_stringProperty ht (by simp [stringProperties]) h
  next => exact resolves_stringProperty ht (by simp [stringProperties]) h
  next => exact resolves_stringTest sound ht (by simp [stringTests]) h
  next => exact resolves_stringTest sound ht (by simp [stringTests]) h
  next => exact resolves_stringTest sound ht (by simp [stringTests]) h
  next => exact resolves_patternTest ht h
  next => cases h

theorem resolves_listContains {element : Ty} (sound : ∀ e ∈ args, e.Sound)
    (ht : Resolves scope target ⟨bound, .list element⟩)
    (h : scope.listContains bound element "contains" (args.map Expr.argument) offset = .ok typed) :
    Resolves scope (.method mark target "contains" args) typed := by
  obtain ⟨arg, ha, h⟩ := bind_eq_ok.mp h
  obtain ⟨e, rfl, rfl⟩ := eq_of_theArgument ha
  obtain ⟨x, hx, h⟩ := bind_eq_ok.mp h
  split at h
  next eq =>
    obtain ⟨scalar, comparable⟩ := Bool.and_eq_true_iff.mp eq
    cases h
    exact .listContains ht (sound e (by simp) hx) scalar comparable
  next => cases h

theorem resolves_quantified {element returns : Ty} {quantifier : Quantifier}
    (bodies : ∀ e ∈ args, e.BodySound) (ht : Resolves scope target ⟨bound, .list element⟩)
    (mem : (name, quantifier, returns) ∈ quantifiers)
    (h : scope.quantified quantifier returns bound element name (args.map Expr.argument) offset =
      .ok typed) :
    Resolves scope (.method mark target name args) typed := by
  unfold quantified at h
  split at h
  next param bodyOffset bind single =>
    rw [List.map_map] at single
    obtain ⟨e, rfl, he⟩ := List.map_eq_singleton_iff.mp single
    obtain ⟨⟨x, type⟩, hx, h⟩ := bind_eq_ok.mp h
    obtain ⟨_, hu, h⟩ := bind_eq_ok.mp h
    cases h
    have isBool : type = .bool := type_of_expect hu
    subst isBool
    cases e with
    | lambda lambdaMark param body =>
      cases he
      have sound : body.Sound := bodies _ (List.mem_singleton.mpr rfl) rfl
      exact .quantified ht mem (sound hx)
    | _ => cases he
  next => cases h

theorem resolves_listMethod {element : Ty} (sound : ∀ e ∈ args, e.Sound)
    (bodies : ∀ e ∈ args, e.BodySound) (ht : Resolves scope target ⟨bound, .list element⟩)
    (h : scope.listMethod bound element name (args.map Expr.argument) offset = .ok typed) :
    Resolves scope (.method mark target name args) typed := by
  unfold listMethod at h
  split at h
  next => exact resolves_quantified bodies ht (by simp [quantifiers]) h
  next => exact resolves_quantified bodies ht (by simp [quantifiers]) h
  next => exact resolves_quantified bodies ht (by simp [quantifiers]) h
  next =>
    obtain ⟨_, hu, h⟩ := bind_eq_ok.mp h
    cases h
    rw [eq_nil_of_checkArity hu]
    exact .listLength ht
  next => exact resolves_listContains sound ht h
  next => cases h

theorem resolves_method {x : Typed} (sound : ∀ e ∈ args, e.Sound)
    (bodies : ∀ e ∈ args, e.BodySound) (ht : Resolves scope target x)
    (h : scope.method x name (args.map Expr.argument) offset = .ok typed) :
    Resolves scope (.method mark target name args) typed := by
  obtain ⟨bound, type⟩ := x
  cases type with
  | object schema =>
    simp only [method] at h
    split at h
    next declared =>
      rw [h] at declared
      obtain ⟨member, params, returns, xs, hm, hk, hlen, hall, htypes, rfl⟩ :=
        declaredCall_eq_ok declared
      exact .methodCall ht hm hk hlen (resolves_of_mem_zip sound hall) htypes
    next => cases h
  | string => exact resolves_stringMethod sound ht h
  | list element => exact resolves_listMethod sound bodies ht h
  | bool | int | float => cases h

end Scope

theorem Expr.sound_and_bodySound (e : Expr) : e.Sound ∧ e.BodySound := by
  induction e using Expr.ind with
  | literal mark value =>
    refine ⟨fun scope x h => ?_, fun _ _ _ eq => by cases eq⟩
    cases h
    exact .literal
  | ident mark name =>
    refine ⟨fun scope x h => ?_, fun _ _ _ eq => by cases eq⟩
    exact Scope.resolves_ident h
  | member mark target name ih =>
    refine ⟨fun scope x h => ?_, fun _ _ _ eq => by cases eq⟩
    obtain ⟨t, ht, h⟩ := bind_eq_ok.mp h
    exact Scope.resolves_member (ih.1 ht) h
  | call mark name args ih =>
    refine ⟨fun scope x h => ?_, fun _ _ _ eq => by cases eq⟩
    rw [Expr.bind, argumentsOf_eq_map] at h
    exact Scope.resolves_call (fun e he => (ih e he).1) h
  | method mark target name args ih ihs =>
    refine ⟨fun scope x h => ?_, fun _ _ _ eq => by cases eq⟩
    rw [Expr.bind, argumentsOf_eq_map] at h
    obtain ⟨t, ht, h⟩ := bind_eq_ok.mp h
    exact Scope.resolves_method (fun e he => (ihs e he).1) (fun e he => (ihs e he).2) (ih.1 ht) h
  | lambda mark param body ih =>
    refine ⟨fun scope x h => (by cases h), fun _ _ _ eq => ?_⟩
    cases eq
    exact ih.1
  | not mark operand ih =>
    refine ⟨fun scope x h => ?_, fun _ _ _ eq => by cases eq⟩
    obtain ⟨⟨o, type⟩, ho, h⟩ := bind_eq_ok.mp h
    obtain ⟨_, hu, h⟩ := bind_eq_ok.mp h
    cases h
    have isBool : type = .bool := Scope.type_of_expect hu
    subst isBool
    exact .not (ih.1 ho)
  | neg mark operand ih =>
    refine ⟨fun scope x h => ?_, fun _ _ _ eq => by cases eq⟩
    obtain ⟨o, ho, h⟩ := bind_eq_ok.mp h
    obtain ⟨_, hu, h⟩ := bind_eq_ok.mp h
    cases h
    exact .neg (ih.1 ho) (Scope.isNumeric_of_expectNumber hu)
  | and mark operands ih =>
    refine ⟨fun scope x h => ?_, fun _ _ _ eq => by cases eq⟩
    obtain ⟨bounds, hb, h⟩ := bind_eq_ok.mp h
    cases h
    obtain ⟨xs, hlen, hall, htypes, rfl⟩ := conditionsOf_eq_ok hb
    exact .and hlen (resolves_of_mem_zip (fun e he => (ih e he).1) hall) htypes
  | or mark operands ih =>
    refine ⟨fun scope x h => ?_, fun _ _ _ eq => by cases eq⟩
    obtain ⟨bounds, hb, h⟩ := bind_eq_ok.mp h
    cases h
    obtain ⟨xs, hlen, hall, htypes, rfl⟩ := conditionsOf_eq_ok hb
    exact .or hlen (resolves_of_mem_zip (fun e he => (ih e he).1) hall) htypes
  | compare mark op lhs rhs ihl ihr =>
    refine ⟨fun scope x h => ?_, fun _ _ _ eq => by cases eq⟩
    obtain ⟨l, hl, h⟩ := bind_eq_ok.mp h
    obtain ⟨r, hr, h⟩ := bind_eq_ok.mp h
    exact Scope.resolves_comparison (ihl.1 hl) (ihr.1 hr) h
  | arith mark op lhs rhs ihl ihr =>
    refine ⟨fun scope x h => ?_, fun _ _ _ eq => by cases eq⟩
    obtain ⟨l, hl, h⟩ := bind_eq_ok.mp h
    obtain ⟨_, hu, h⟩ := bind_eq_ok.mp h
    obtain ⟨r, hr, h⟩ := bind_eq_ok.mp h
    obtain ⟨_, hv, h⟩ := bind_eq_ok.mp h
    cases h
    exact .arith (ihl.1 hl) (Scope.isNumeric_of_expectNumber hu) (ihr.1 hr)
      (Scope.isNumeric_of_expectNumber hv)
  | within mark needle set ih ihs =>
    refine ⟨fun scope x h => ?_, fun _ _ _ eq => by cases eq⟩
    obtain ⟨n, hn, h⟩ := bind_eq_ok.mp h
    split at h
    next scalar =>
      obtain ⟨bounds, hb, h⟩ := bind_eq_ok.mp h
      cases h
      obtain ⟨xs, hlen, hall, htypes, rfl⟩ := membersOf_eq_ok hb
      exact .within (ih.1 hn) scalar hlen (resolves_of_mem_zip (fun e he => (ihs e he).1) hall)
        htypes
    next =>
      obtain ⟨_, hu, _⟩ := bind_eq_ok.mp h
      cases hu

theorem resolves_of_bind {e : Expr} {scope : Scope} {x : Typed} (h : e.bind scope = .ok x) :
    Resolves scope e x :=
  e.sound_and_bodySound.1 h

theorem resolves_of_compile {catalog : Catalog} {root : Schema} {text : String}
    {predicate : Predicate} (h : compile catalog root text = .ok predicate) :
    ∃ e, parse text = .ok e ∧ Resolves ⟨catalog, root, []⟩ e ⟨predicate.bound, .bool⟩ := by
  unfold compile at h
  split at h
  next => cases h
  next =>
    split at h
    next => cases h
    next e parsed =>
      split at h
      next => cases h
      next typed bound =>
        split at h
        next isBool =>
          cases h
          refine ⟨e, parsed, ?_⟩
          rw [← isBool]
          exact resolves_of_bind bound
        next => cases h

end RecordRules
