import RecordRules.Proofs.Resolution

namespace RecordRules

namespace Scope

variable {scope : Scope} {name : String} {offset : Nat}

theorem expect_of_type {wanted : Ty} {context : String} {bound : Bound} :
    scope.expect wanted context offset ⟨bound, wanted⟩ = .ok () :=
  if_pos rfl

theorem expectNumber_of_isNumeric {context : String} {x : Typed} (numeric : x.type.isNumeric) :
    scope.expectNumber context offset x = .ok () :=
  if_pos numeric

theorem field_of_kind {target : Bound} {member : Member} {type : Ty}
    (hk : member.kind = .field type) :
    field target member offset = .ok ⟨.get target member.id [], type⟩ := by
  unfold field
  rw [hk]

theorem call_of_declaredCall {args : List Argument} {result : Except BindError Typed}
    (h : scope.declaredCall .root scope.root name args offset = some result) :
    scope.call name args offset = result := by
  unfold call
  rw [h]

theorem call_has {args : List Argument} (absent : scope.root.member? "has" = none) :
    scope.call "has" args offset = scope.hasCall "has" args offset := by
  unfold call
  rw [declaredCall, absent]
  rfl

theorem call_abs {args : List Argument} (absent : scope.root.member? "abs" = none) :
    scope.call "abs" args offset = scope.absCall "abs" args offset := by
  unfold call
  rw [declaredCall, absent]
  rfl

theorem call_of_choice {function : Builtin} {args : List Argument}
    (absent : scope.root.member? name = none) (mem : (name, function) ∈ choices) :
    scope.call name args offset = scope.choiceCall function name args offset := by
  unfold call
  rw [declaredCall, absent]
  simp only [choices, List.mem_cons, Prod.mk.injEq, List.not_mem_nil, or_false] at mem
  rcases mem with ⟨rfl, rfl⟩ | ⟨rfl, rfl⟩ <;> rfl

end Scope

variable [Patterns] {scope : Scope} {es : List Expr} {xs : List Typed}

theorem conditionsOf_of_zip (hlen : es.length = xs.length)
    (h : ∀ p ∈ es.zip xs, p.1.bind scope = .ok p.2) (bools : ∀ x ∈ xs, x.type = .bool) :
    conditionsOf es scope = .ok (xs.map Typed.bound) := by
  induction es generalizing xs with
  | nil =>
    obtain rfl := List.length_eq_zero_iff.mp hlen.symm
    rfl
  | cons e rest ih =>
    cases xs with
    | nil => cases hlen
    | cons x xs =>
      obtain ⟨first, others⟩ := List.forall_mem_cons.mp h
      obtain ⟨isBool, bools⟩ := List.forall_mem_cons.mp bools
      have expected : scope.expect .bool "logical operator" e.span.start x = .ok () := if_pos isBool
      refine bind_eq_ok.mpr ⟨x, first, bind_eq_ok.mpr ⟨(), expected, ?_⟩⟩
      exact bind_eq_ok.mpr ⟨_, ih (Nat.succ.inj hlen) others bools, rfl⟩

theorem membersOf_of_zip {type : Ty} (hlen : es.length = xs.length)
    (h : ∀ p ∈ es.zip xs, p.1.bind scope = .ok p.2)
    (comparable : ∀ x ∈ xs, type.comparableWith x.type) :
    membersOf type es scope = .ok (xs.map Typed.bound) := by
  induction es generalizing xs with
  | nil =>
    obtain rfl := List.length_eq_zero_iff.mp hlen.symm
    rfl
  | cons e rest ih =>
    cases xs with
    | nil => cases hlen
    | cons x xs =>
      obtain ⟨first, others⟩ := List.forall_mem_cons.mp h
      obtain ⟨compared, comparable⟩ := List.forall_mem_cons.mp comparable
      refine bind_eq_ok.mpr ⟨x, first, ?_⟩
      rw [if_pos compared]
      exact bind_eq_ok.mpr ⟨_, ih (Nat.succ.inj hlen) others comparable, rfl⟩

namespace Scope

variable {name : String} {offset : Nat}

theorem declaredArgs_of_zip {params : List Ty} (hlen : es.length = xs.length)
    (h : ∀ p ∈ es.zip xs, p.1.bind scope = .ok p.2)
    (accepted : List.Forall₂ (fun param x => param.accepts x.type) params xs) :
    scope.declaredArgs name params (es.map Expr.argument) = .ok (xs.map Typed.bound) := by
  induction accepted generalizing es with
  | nil =>
    obtain rfl := List.length_eq_zero_iff.mp hlen
    rfl
  | @cons param x params xs accepts _ ih =>
    cases es with
    | nil => cases hlen
    | cons e rest =>
      obtain ⟨first, others⟩ := List.forall_mem_cons.mp h
      refine bind_eq_ok.mpr ⟨x, first, ?_⟩
      rw [if_pos accepts]
      exact bind_eq_ok.mpr ⟨_, ih (Nat.succ.inj hlen) others, rfl⟩

theorem declaredCall_of_member? {target : Bound} {schema : Schema} {member : Member}
    {params : List Ty} {returns : Ty} (hm : schema.member? name = some member)
    (hk : member.kind = .method params returns) (hlen : es.length = xs.length)
    (h : ∀ p ∈ es.zip xs, p.1.bind scope = .ok p.2)
    (accepted : List.Forall₂ (fun param x => param.accepts x.type) params xs) :
    scope.declaredCall target schema name (es.map Expr.argument) offset =
      some (.ok ⟨.get target member.id (xs.map Typed.bound), returns⟩) := by
  have arity : checkArity name params.length (es.map Expr.argument) offset = .ok () :=
    if_pos (by rw [List.length_map, hlen, accepted.length_eq])
  rw [declaredCall, hm, Option.map_some, hk]
  refine congrArg some (bind_eq_ok.mpr ⟨(), arity, ?_⟩)
  exact bind_eq_ok.mpr ⟨_, declaredArgs_of_zip hlen h accepted, rfl⟩

theorem hasCall_of_readsMember {e : Expr} {x : Typed} (reads : e.ReadsMember)
    (h : e.bind scope = .ok x) :
    scope.hasCall name [e.argument] offset = .ok ⟨.has x.bound, .bool⟩ := by
  cases e with
  | ident | member | call | method => exact bind_eq_ok.mpr ⟨_, rfl, bind_eq_ok.mpr ⟨x, h, rfl⟩⟩
  | _ => exact reads.elim

theorem absCall_of_isNumeric {e : Expr} {x : Typed} (h : e.bind scope = .ok x)
    (numeric : x.type.isNumeric) :
    scope.absCall name [e.argument] offset = .ok ⟨.builtin .abs [x.bound], x.type⟩ := by
  refine bind_eq_ok.mpr ⟨_, rfl, bind_eq_ok.mpr ⟨x, h, ?_⟩⟩
  exact bind_eq_ok.mpr ⟨(), expectNumber_of_isNumeric numeric, rfl⟩

theorem choiceCall_of_isNumeric {function : Builtin} {e f : Expr} {x y : Typed}
    (hx : e.bind scope = .ok x) (numx : x.type.isNumeric) (hy : f.bind scope = .ok y)
    (numy : y.type.isNumeric) :
    scope.choiceCall function name [e.argument, f.argument] offset =
      .ok ⟨.builtin function [x.bound, y.bound], x.type.numericJoin y.type⟩ := by
  refine bind_eq_ok.mpr ⟨_, rfl, bind_eq_ok.mpr ⟨x, hx, ?_⟩⟩
  refine bind_eq_ok.mpr ⟨(), expectNumber_of_isNumeric numx, bind_eq_ok.mpr ⟨y, hy, ?_⟩⟩
  exact bind_eq_ok.mpr ⟨(), expectNumber_of_isNumeric numy, rfl⟩

section Strings

variable {target : Bound} {function : Builtin}

theorem stringMethod_of_property {returns : Ty} (mem : (name, function, returns) ∈ stringProperties) :
    scope.stringMethod target name [] offset = .ok ⟨.builtin function [target], returns⟩ := by
  simp only [stringProperties, List.mem_cons, Prod.mk.injEq, List.not_mem_nil, or_false] at mem
  rcases mem with ⟨rfl, rfl, rfl⟩ | ⟨rfl, rfl, rfl⟩ | ⟨rfl, rfl, rfl⟩ <;> rfl

theorem stringMethod_of_test {e : Expr} {other : Bound} (mem : (name, function) ∈ stringTests)
    (h : e.bind scope = .ok ⟨other, .string⟩) :
    scope.stringMethod target name [e.argument] offset =
      .ok ⟨.builtin function [target, other], .bool⟩ := by
  have tested : scope.stringMethod target name [e.argument] offset =
      scope.stringTest function target name [e.argument] offset := by
    simp only [stringTests, List.mem_cons, Prod.mk.injEq, List.not_mem_nil, or_false] at mem
    rcases mem with ⟨rfl, rfl⟩ | ⟨rfl, rfl⟩ | ⟨rfl, rfl⟩ <;> rfl
  rw [tested]
  refine bind_eq_ok.mpr ⟨_, rfl, bind_eq_ok.mpr ⟨_, h, ?_⟩⟩
  exact bind_eq_ok.mpr ⟨(), expect_of_type, rfl⟩

theorem patternTest_of_pattern {mark : Mark} {text : String} {pattern : Pattern}
    (accepted : Patterns.compile text = .ok pattern) :
    patternTest target name [(Expr.literal mark (.string text)).argument] offset =
      .ok ⟨.matching target pattern, .bool⟩ := by
  refine bind_eq_ok.mpr ⟨_, rfl, ?_⟩
  simp only [Expr.argument, accepted]
  rfl

end Strings

section Lists

variable {target : Bound} {element : Ty}

theorem listMethod_contains {e : Expr} {x : Typed} (h : e.bind scope = .ok x)
    (scalar : element.isScalar) (comparable : element.comparableWith x.type) :
    scope.listMethod target element "contains" [e.argument] offset =
      .ok ⟨.builtin .contains [target, x.bound], .bool⟩ := by
  change scope.listContains target element "contains" [e.argument] offset = _
  refine bind_eq_ok.mpr ⟨_, rfl, bind_eq_ok.mpr ⟨x, h, ?_⟩⟩
  exact if_pos (Bool.and_eq_true_iff.mpr ⟨scalar, comparable⟩)

theorem listMethod_of_quantifier {quantifier : Quantifier} {returns : Ty} {mark : Mark}
    {param : String} {body : Expr} {bound : Bound} (mem : (name, quantifier, returns) ∈ quantifiers)
    (h : body.bind (scope.push param element) = .ok ⟨bound, .bool⟩) :
    scope.listMethod target element name [(Expr.lambda mark param body).argument] offset =
      .ok ⟨.quantify quantifier target bound, returns⟩ := by
  have asked : scope.listMethod target element name [(Expr.lambda mark param body).argument] offset =
      scope.quantified quantifier returns target element name
        [(Expr.lambda mark param body).argument] offset := by
    simp only [quantifiers, List.mem_cons, Prod.mk.injEq, List.not_mem_nil, or_false] at mem
    rcases mem with ⟨rfl, rfl, rfl⟩ | ⟨rfl, rfl, rfl⟩ | ⟨rfl, rfl, rfl⟩ <;> rfl
  rw [asked]
  exact bind_eq_ok.mpr ⟨_, h, bind_eq_ok.mpr ⟨(), expect_of_type, rfl⟩⟩

end Lists

end Scope

/-- Whatever the rules allow the binder finds. -/
theorem bind_of_resolves {e : Expr} {x : Typed} (h : Resolves scope e x) :
    e.bind scope = .ok x := by
  induction h with
  | literal => rfl
  | param found => rw [Expr.bind, Scope.ident, found]
  | rootField free hm hk =>
    rw [Expr.bind, Scope.ident, free, hm]
    exact Scope.field_of_kind hk
  | field _ hm hk ih =>
    refine bind_eq_ok.mpr ⟨_, ih, ?_⟩
    simp only [Scope.member, hm]
    exact Scope.field_of_kind hk
  | rootCall hm hk hlen _ accepted ih =>
    rw [Expr.bind, argumentsOf_eq_map]
    exact Scope.call_of_declaredCall (Scope.declaredCall_of_member? hm hk hlen ih accepted)
  | has absent reads _ ih =>
    rw [Expr.bind, argumentsOf_eq_map, List.map_singleton, Scope.call_has absent]
    exact Scope.hasCall_of_readsMember reads ih
  | abs absent _ numeric ih =>
    rw [Expr.bind, argumentsOf_eq_map, List.map_singleton, Scope.call_abs absent]
    exact Scope.absCall_of_isNumeric ih numeric
  | choice absent mem _ numx _ numy ihx ihy =>
    rw [Expr.bind, argumentsOf_eq_map, Scope.call_of_choice absent mem]
    exact Scope.choiceCall_of_isNumeric ihx numx ihy numy
  | methodCall _ hm hk hlen _ accepted iht ih =>
    refine bind_eq_ok.mpr ⟨_, iht, ?_⟩
    simp only [argumentsOf_eq_map, Scope.method,
      Scope.declaredCall_of_member? hm hk hlen ih accepted]
  | stringProperty _ mem ih => exact bind_eq_ok.mpr ⟨_, ih, Scope.stringMethod_of_property mem⟩
  | stringTest _ mem _ ih iha => exact bind_eq_ok.mpr ⟨_, ih, Scope.stringMethod_of_test mem iha⟩
  | matching _ accepted ih => exact bind_eq_ok.mpr ⟨_, ih, Scope.patternTest_of_pattern accepted⟩
  | listLength _ ih => exact bind_eq_ok.mpr ⟨_, ih, rfl⟩
  | listContains _ _ scalar comparable ih iha =>
    exact bind_eq_ok.mpr ⟨_, ih, Scope.listMethod_contains iha scalar comparable⟩
  | quantified _ mem _ ih ihb =>
    exact bind_eq_ok.mpr ⟨_, ih, Scope.listMethod_of_quantifier mem ihb⟩
  | not _ ih => exact bind_eq_ok.mpr ⟨_, ih, bind_eq_ok.mpr ⟨(), Scope.expect_of_type, rfl⟩⟩
  | neg _ numeric ih =>
    exact bind_eq_ok.mpr ⟨_, ih, bind_eq_ok.mpr ⟨(), Scope.expectNumber_of_isNumeric numeric, rfl⟩⟩
  | and hlen _ bools ih => exact bind_eq_ok.mpr ⟨_, conditionsOf_of_zip hlen ih bools, rfl⟩
  | or hlen _ bools ih => exact bind_eq_ok.mpr ⟨_, conditionsOf_of_zip hlen ih bools, rfl⟩
  | compare _ _ applies ihx ihy =>
    exact bind_eq_ok.mpr ⟨_, ihx, bind_eq_ok.mpr ⟨_, ihy, if_pos applies⟩⟩
  | arith _ numx _ numy ihx ihy =>
    refine bind_eq_ok.mpr ⟨_, ihx, bind_eq_ok.mpr ⟨(), Scope.expectNumber_of_isNumeric numx, ?_⟩⟩
    exact bind_eq_ok.mpr ⟨_, ihy,
      bind_eq_ok.mpr ⟨(), Scope.expectNumber_of_isNumeric numy, rfl⟩⟩
  | within _ scalar hlen _ comparable ihx ih =>
    refine bind_eq_ok.mpr ⟨_, ihx, ?_⟩
    rw [if_pos scalar]
    exact bind_eq_ok.mpr ⟨_, membersOf_of_zip hlen ih comparable, rfl⟩

/-- The binder finds exactly what the rules allow. -/
theorem bind_eq_ok_iff {e : Expr} {x : Typed} : e.bind scope = .ok x ↔ Resolves scope e x :=
  ⟨resolves_of_bind, bind_of_resolves⟩

theorem compile_eq_ok_iff {catalog : Catalog} {root : Schema} {text : String}
    {predicate : Predicate} :
    compile catalog root text = .ok predicate ↔
      ¬ Text.allBlank text.toList ∧ ∃ e, parse text = .ok e ∧
        Resolves ⟨catalog, root, []⟩ e ⟨predicate.bound, .bool⟩ := by
  constructor
  · intro compiled
    refine ⟨fun blank => ?_, resolves_of_compile compiled⟩
    rw [compile, if_pos blank] at compiled
    cases compiled
  · rintro ⟨notBlank, e, parsed, resolved⟩
    rw [compile, if_neg notBlank, parsed]
    simp only [bind_of_resolves resolved]
    rfl

end RecordRules
