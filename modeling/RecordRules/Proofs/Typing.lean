import RecordRules.Item.Catalog
import RecordRules.Proofs.ResolutionCompleteness
import RecordRules.Regex.Library

namespace RecordRules

namespace Ty

inductive Number : Ty → Prop
  | int : Number .int
  | float : Number .float

inductive Scalar : Ty → Prop
  | bool : Scalar .bool
  | string : Scalar .string
  | number {t} : Number t → Scalar t

/-- An operation on numbers of the first two types gives a number of the third: an integer only if
both are. -/
inductive Joins : Ty → Ty → Ty → Prop
  | ints : Joins .int .int .int
  | left {t} : Number t → Joins .float t .float
  | right {s} : Number s → Joins s .float .float

/-- Values of the two types have an order. -/
inductive Ordered : Ty → Ty → Prop
  | numbers {s t} : Number s → Number t → Ordered s t
  | strings : Ordered .string .string

/-- Values of the two types are equal or not. -/
inductive Comparable : Ty → Ty → Prop
  | ordered {s t} : Ordered s t → Comparable s t
  | bools : Comparable .bool .bool

/-- A value of the second type may stand where the first is declared. -/
inductive Takes : Ty → Ty → Prop
  | same {t} : Takes t t
  | widened : Takes .float .int

end Ty

/-- The string methods without arguments, with the types of their values. -/
def stringMethods : List (String × Ty) :=
  [("len", .int), ("lower", .string), ("upper", .string)]

/-- The string methods that take another string. -/
def stringQuestions : List String :=
  ["contains", "starts_with", "ends_with"]

/-- The list methods that take a lambda, with the types of their values. -/
def listQuestions : List (String × Ty) :=
  [("any", .bool), ("all", .bool), ("count", .int)]

/-- The types of expressions, rule by rule. -/
inductive WellTyped [Patterns] : Scope → Expr → Ty → Prop
  | literal {scope mark value} : WellTyped scope (.literal mark value) value.type
  | param {scope mark name type} : scope.params.lookup name = some type →
    WellTyped scope (.ident mark name) type
  | rootField {scope mark name member type} : scope.params.lookup name = none →
    scope.root.member? name = some member → member.kind = .field type →
    WellTyped scope (.ident mark name) type
  | field {scope mark target schema name member type} :
    WellTyped scope target (.object schema) →
    (scope.catalog.schema schema).member? name = some member → member.kind = .field type →
    WellTyped scope (.member mark target name) type
  | rootCall {scope mark name member params returns args types} :
    scope.root.member? name = some member → member.kind = .method params returns →
    args.length = types.length → (∀ p ∈ args.zip types, WellTyped scope p.1 p.2) →
    List.Forall₂ Ty.Takes params types → WellTyped scope (.call mark name args) returns
  | has {scope mark arg type} : scope.root.member? "has" = none → arg.ReadsMember →
    WellTyped scope arg type → WellTyped scope (.call mark "has" [arg]) .bool
  | abs {scope mark arg type} : scope.root.member? "abs" = none → WellTyped scope arg type →
    type.Number → WellTyped scope (.call mark "abs" [arg]) type
  | choice {scope mark name first second s t r} : scope.root.member? name = none →
    name ∈ ["min", "max"] → WellTyped scope first s → WellTyped scope second t → s.Joins t r →
    WellTyped scope (.call mark name [first, second]) r
  | methodCall {scope mark target schema name member params returns args types} :
    WellTyped scope target (.object schema) →
    (scope.catalog.schema schema).member? name = some member →
    member.kind = .method params returns →
    args.length = types.length → (∀ p ∈ args.zip types, WellTyped scope p.1 p.2) →
    List.Forall₂ Ty.Takes params types → WellTyped scope (.method mark target name args) returns
  | stringMethod {scope mark target name returns} : WellTyped scope target .string →
    (name, returns) ∈ stringMethods → WellTyped scope (.method mark target name []) returns
  | stringQuestion {scope mark target name arg} : WellTyped scope target .string →
    name ∈ stringQuestions → WellTyped scope arg .string →
    WellTyped scope (.method mark target name [arg]) .bool
  | matching {scope mark target argMark text pattern} : WellTyped scope target .string →
    Patterns.compile text = .ok pattern →
    WellTyped scope (.method mark target "matches" [.literal argMark (.string text)]) .bool
  | listLength {scope mark target element} : WellTyped scope target (.list element) →
    WellTyped scope (.method mark target "len" []) .int
  | listContains {scope mark target element arg type} : WellTyped scope target (.list element) →
    WellTyped scope arg type → element.Comparable type →
    WellTyped scope (.method mark target "contains" [arg]) .bool
  | listQuestion {scope mark target element name returns lambdaMark param body} :
    WellTyped scope target (.list element) → (name, returns) ∈ listQuestions →
    WellTyped (scope.push param element) body .bool →
    WellTyped scope (.method mark target name [.lambda lambdaMark param body]) returns
  | not {scope mark operand} : WellTyped scope operand .bool →
    WellTyped scope (.not mark operand) .bool
  | neg {scope mark operand type} : WellTyped scope operand type → type.Number →
    WellTyped scope (.neg mark operand) type
  | and {scope mark operands} : (∀ e ∈ operands, WellTyped scope e .bool) →
    WellTyped scope (.and mark operands) .bool
  | or {scope mark operands} : (∀ e ∈ operands, WellTyped scope e .bool) →
    WellTyped scope (.or mark operands) .bool
  | order {scope mark op lhs rhs s t} : ¬ op.isEquality → WellTyped scope lhs s →
    WellTyped scope rhs t → s.Ordered t → WellTyped scope (.compare mark op lhs rhs) .bool
  | equality {scope mark op lhs rhs s t} : op.isEquality → WellTyped scope lhs s →
    WellTyped scope rhs t → s.Comparable t → WellTyped scope (.compare mark op lhs rhs) .bool
  | arith {scope mark op lhs rhs s t r} : WellTyped scope lhs s → WellTyped scope rhs t →
    s.Joins t r → WellTyped scope (.arith mark op lhs rhs) r
  | within {scope mark needle set type types} : WellTyped scope needle type → type.Scalar →
    set.length = types.length → (∀ p ∈ set.zip types, WellTyped scope p.1 p.2) →
    (∀ t ∈ types, type.Comparable t) → WellTyped scope (.within mark needle set) .bool

namespace Ty

variable {s t r : Ty}

theorem number_iff : t.Number ↔ t.isNumeric = true := by
  constructor
  · rintro (_ | _) <;> rfl
  · intro h
    cases t with
    | int => exact .int
    | float => exact .float
    | _ => cases h

theorem scalar_iff : t.Scalar ↔ t.isScalar = true := by
  constructor
  · rintro (_ | _ | ⟨_ | _⟩) <;> rfl
  · intro h
    cases t with
    | bool => exact .bool
    | string => exact .string
    | int => exact .number .int
    | float => exact .number .float
    | _ => cases h

theorem joins_iff : s.Joins t r ↔ s.Number ∧ t.Number ∧ r = s.numericJoin t := by
  constructor
  · rintro (_ | ⟨_ | _⟩ | ⟨_ | _⟩) <;> exact ⟨by constructor, by constructor, rfl⟩
  · rintro ⟨_ | _, _ | _, rfl⟩
    · exact .ints
    · exact .right .int
    · exact .left .int
    · exact .left .float

theorem ordered_iff :
    s.Ordered t ↔ (s.Number ∧ t.Number) ∨ (s = .string ∧ t = .string) := by
  constructor
  · rintro (⟨hs, ht⟩ | _)
    · exact .inl ⟨hs, ht⟩
    · exact .inr ⟨rfl, rfl⟩
  · rintro (⟨hs, ht⟩ | ⟨rfl, rfl⟩)
    · exact .numbers hs ht
    · exact .strings

theorem comparable_iff : s.Comparable t ↔ s.comparableWith t = true := by
  constructor
  · rintro (⟨hs, ht⟩ | _)
    · cases hs <;> cases ht <;> rfl
    · rfl
    · rfl
  · intro h
    unfold comparableWith at h
    split at h
    next => exact .bools
    next => exact .ordered .strings
    next =>
      obtain ⟨hs, ht⟩ := Bool.and_eq_true_iff.mp h
      exact .ordered (.numbers (number_iff.mpr hs) (number_iff.mpr ht))

theorem Comparable.scalar (h : s.Comparable t) : s.Scalar := by
  cases h with
  | ordered ordered =>
    cases ordered with
    | numbers hs => exact .number hs
    | strings => exact .string
  | bools => exact .bool

theorem takes_iff : s.Takes t ↔ s.accepts t = true := by
  constructor
  · rintro (_ | _)
    · simp [accepts]
    · rfl
  · intro h
    have cases : t = s ∨ s = .float ∧ t = .int := by simpa [accepts] using h
    rcases cases with rfl | ⟨rfl, rfl⟩
    · exact .same
    · exact .widened

end Ty

theorem applies_iff {op : CompareOp} {s t : Ty} :
    op.applies s t = true ↔
      if op.isEquality then s.Comparable t else s.Ordered t := by
  unfold CompareOp.applies
  split
  next => rw [Ty.comparable_iff]
  next => simp [Ty.ordered_iff, Ty.number_iff]

theorem lookup_eq (name : String) (params : List (String × Ty)) :
    params.lookup name = (lookupParam name params).map Prod.snd := by
  induction params with
  | nil => rfl
  | cons p outer ih =>
    obtain ⟨param, type⟩ := p
    rw [List.lookup_cons, lookupParam]
    by_cases same : param = name
    · rw [if_pos same, same, beq_self_eq_true]
      rfl
    · have other : (name == param) = false := by simpa using Ne.symm same
      rw [if_neg same, other, ih]

theorem forall₂_map_type {R : Ty → Ty → Prop} {params : List Ty} {xs : List Typed} :
    List.Forall₂ R params (xs.map Typed.type) ↔ List.Forall₂ (fun t x => R t x.type) params xs :=
  List.forall₂_map_right_iff

section Resolution

variable [Patterns]

/-- The types of parts that are resolved one by one. -/
theorem wellTyped_of_zip {scope : Scope} {es : List Expr} {xs : List Typed}
    (hlen : es.length = xs.length)
    (h : ∀ p ∈ es.zip xs, WellTyped scope p.1 p.2.type) :
    es.length = (xs.map Typed.type).length ∧
      ∀ p ∈ es.zip (xs.map Typed.type), WellTyped scope p.1 p.2 := by
  refine ⟨by rw [hlen, List.length_map], fun p mem => ?_⟩
  rw [List.zip_map_right] at mem
  obtain ⟨q, hq, rfl⟩ := List.mem_map.mp mem
  exact h q hq

theorem wellTyped_of_bools {scope : Scope} {es : List Expr} {xs : List Typed}
    (hlen : es.length = xs.length) (h : ∀ p ∈ es.zip xs, WellTyped scope p.1 p.2.type)
    (bools : ∀ x ∈ xs, x.type = .bool) : ∀ e ∈ es, WellTyped scope e .bool := by
  intro e mem
  have first : (es.zip xs).map Prod.fst = es := List.map_fst_zip (by omega)
  rw [← first] at mem
  obtain ⟨p, hp, rfl⟩ := List.mem_map.mp mem
  rw [← bools p.2 (List.of_mem_zip hp).2]
  exact h p hp

theorem Resolves.wellTyped {scope : Scope} {e : Expr} {x : Typed} (h : Resolves scope e x) :
    WellTyped scope e x.type := by
  induction h with
  | literal => exact .literal
  | param found => exact .param (by rw [lookup_eq, found]; rfl)
  | rootField free hm hk => exact .rootField (by rw [lookup_eq, free]; rfl) hm hk
  | field _ hm hk ih => exact .field ih hm hk
  | rootCall hm hk hlen _ accepted ih =>
    obtain ⟨hlen, each⟩ := wellTyped_of_zip hlen ih
    exact .rootCall hm hk hlen each
      (forall₂_map_type.mpr (accepted.imp fun _ _ => Ty.takes_iff.mpr))
  | has absent reads _ ih => exact .has absent reads ih
  | abs absent _ numeric ih => exact .abs absent ih (Ty.number_iff.mpr numeric)
  | choice absent mem _ numx _ numy ihx ihy =>
    have names : ∀ c ∈ choices, c.1 ∈ ["min", "max"] := by decide
    exact .choice absent (names _ mem) ihx ihy
      (Ty.joins_iff.mpr ⟨Ty.number_iff.mpr numx, Ty.number_iff.mpr numy, rfl⟩)
  | methodCall _ hm hk hlen _ accepted iht ih =>
    obtain ⟨hlen, each⟩ := wellTyped_of_zip hlen ih
    exact .methodCall iht hm hk hlen each
      (forall₂_map_type.mpr (accepted.imp fun _ _ => Ty.takes_iff.mpr))
  | stringProperty _ mem ih =>
    have names : ∀ p ∈ stringProperties, (p.1, p.2.2) ∈ stringMethods := by decide
    exact .stringMethod ih (names _ mem)
  | stringTest _ mem _ ih iha =>
    have names : ∀ p ∈ stringTests, p.1 ∈ stringQuestions := by decide
    exact .stringQuestion ih (names _ mem) iha
  | matching _ accepted ih => exact .matching ih accepted
  | listLength _ ih => exact .listLength ih
  | listContains _ _ _ comparable ih iha =>
    exact .listContains ih iha (Ty.comparable_iff.mpr comparable)
  | quantified _ mem _ ih ihb =>
    have names : ∀ q ∈ quantifiers, (q.1, q.2.2) ∈ listQuestions := by decide
    exact .listQuestion ih (names _ mem) ihb
  | not _ ih => exact .not ih
  | neg _ numeric ih => exact .neg ih (Ty.number_iff.mpr numeric)
  | and hlen _ bools ih => exact .and (wellTyped_of_bools hlen ih bools)
  | or hlen _ bools ih => exact .or (wellTyped_of_bools hlen ih bools)
  | compare _ _ applies ihx ihy =>
    rw [applies_iff] at applies
    split at applies
    next equality => exact .equality equality ihx ihy applies
    next order => exact .order order ihx ihy applies
  | arith _ numx _ numy ihx ihy =>
    exact .arith ihx ihy (Ty.joins_iff.mpr ⟨Ty.number_iff.mpr numx, Ty.number_iff.mpr numy, rfl⟩)
  | within _ scalar hlen _ comparable ihx ih =>
    obtain ⟨hlen, each⟩ := wellTyped_of_zip hlen ih
    refine .within ihx (Ty.scalar_iff.mpr scalar) hlen each fun t mem => ?_
    obtain ⟨y, hy, rfl⟩ := List.mem_map.mp mem
    exact Ty.comparable_iff.mpr (comparable y hy)

/-- Parts of these types are resolved to something of these types. -/
theorem exists_resolved {scope : Scope} {es : List Expr} {types : List Ty}
    (hlen : es.length = types.length)
    (h : ∀ p ∈ es.zip types, ∃ bound, Resolves scope p.1 ⟨bound, p.2⟩) :
    ∃ xs : List Typed, types = xs.map Typed.type ∧ es.length = xs.length ∧
      ∀ p ∈ es.zip xs, Resolves scope p.1 p.2 := by
  induction es generalizing types with
  | nil => exact ⟨[], List.length_eq_zero_iff.mp hlen.symm, rfl, by simp⟩
  | cons e rest ih =>
    cases types with
    | nil => cases hlen
    | cons type types =>
      obtain ⟨⟨bound, first⟩, others⟩ := List.forall_mem_cons.mp h
      obtain ⟨xs, rfl, hlen', all⟩ := ih (Nat.succ.inj hlen) others
      refine ⟨⟨bound, type⟩ :: xs, rfl, congrArg (· + 1) hlen', ?_⟩
      exact List.forall_mem_cons.mpr ⟨first, all⟩

theorem exists_resolved_bools {scope : Scope} {es : List Expr}
    (h : ∀ e ∈ es, ∃ bound, Resolves scope e ⟨bound, .bool⟩) :
    ∃ xs : List Typed, es.length = xs.length ∧ (∀ p ∈ es.zip xs, Resolves scope p.1 p.2) ∧
      ∀ x ∈ xs, x.type = .bool := by
  have each : ∀ p ∈ es.zip (es.map fun _ => Ty.bool), ∃ bound, Resolves scope p.1 ⟨bound, p.2⟩ := by
    intro p mem
    obtain ⟨he, ht⟩ := List.of_mem_zip mem
    obtain ⟨_, -, isBool⟩ := List.mem_map.mp ht
    rw [← isBool]
    exact h p.1 he
  obtain ⟨xs, types, hlen, all⟩ := exists_resolved (by rw [List.length_map]) each
  refine ⟨xs, hlen, all, fun x mem => ?_⟩
  have known : x.type ∈ es.map fun _ => Ty.bool := types ▸ List.mem_map_of_mem mem
  obtain ⟨_, -, isBool⟩ := List.mem_map.mp known
  exact isBool.symm

theorem WellTyped.resolves {scope : Scope} {e : Expr} {type : Ty} (h : WellTyped scope e type) :
    ∃ bound, Resolves scope e ⟨bound, type⟩ := by
  induction h with
  | literal => exact ⟨_, .literal⟩
  | param found =>
    rw [lookup_eq, Option.map_eq_some_iff] at found
    obtain ⟨⟨slot, _⟩, found, rfl⟩ := found
    exact ⟨_, .param found⟩
  | rootField free hm hk =>
    rw [lookup_eq, Option.map_eq_none_iff] at free
    exact ⟨_, .rootField free hm hk⟩
  | field _ hm hk ih =>
    obtain ⟨object, ht⟩ := ih
    exact ⟨_, .field ht hm hk⟩
  | rootCall hm hk hlen _ accepted ih =>
    obtain ⟨xs, rfl, hlen, all⟩ := exists_resolved hlen ih
    exact ⟨_, .rootCall hm hk hlen all
      ((forall₂_map_type.mp accepted).imp fun _ _ => Ty.takes_iff.mp)⟩
  | has absent reads _ ih =>
    obtain ⟨x, hx⟩ := ih
    exact ⟨_, .has absent reads hx⟩
  | abs absent _ numeric ih =>
    obtain ⟨x, hx⟩ := ih
    exact ⟨_, .abs absent hx (Ty.number_iff.mp numeric)⟩
  | choice absent mem _ _ joins ihx ihy =>
    have functions : ∀ name ∈ ["min", "max"], ∃ c ∈ choices, c.1 = name := by decide
    obtain ⟨⟨_, function⟩, known, rfl⟩ := functions _ mem
    obtain ⟨numx, numy, rfl⟩ := Ty.joins_iff.mp joins
    obtain ⟨x, hx⟩ := ihx
    obtain ⟨y, hy⟩ := ihy
    exact ⟨_, .choice absent known hx (Ty.number_iff.mp numx) hy (Ty.number_iff.mp numy)⟩
  | methodCall _ hm hk hlen _ accepted iht ih =>
    obtain ⟨object, ht⟩ := iht
    obtain ⟨xs, rfl, hlen, all⟩ := exists_resolved hlen ih
    exact ⟨_, .methodCall ht hm hk hlen all
      ((forall₂_map_type.mp accepted).imp fun _ _ => Ty.takes_iff.mp)⟩
  | stringMethod _ mem ih =>
    have functions : ∀ m ∈ stringMethods, ∃ p ∈ stringProperties, (p.1, p.2.2) = m := by decide
    obtain ⟨⟨_, function, _⟩, known, same⟩ := functions _ mem
    cases same
    obtain ⟨string, ht⟩ := ih
    exact ⟨_, .stringProperty ht known⟩
  | stringQuestion _ mem _ ih iha =>
    have functions : ∀ name ∈ stringQuestions, ∃ p ∈ stringTests, p.1 = name := by decide
    obtain ⟨⟨_, function⟩, known, rfl⟩ := functions _ mem
    obtain ⟨string, ht⟩ := ih
    obtain ⟨other, ha⟩ := iha
    exact ⟨_, .stringTest ht known ha⟩
  | matching _ accepted ih =>
    obtain ⟨string, ht⟩ := ih
    exact ⟨_, .matching ht accepted⟩
  | listLength _ ih =>
    obtain ⟨list, ht⟩ := ih
    exact ⟨_, .listLength ht⟩
  | listContains _ _ comparable ih iha =>
    obtain ⟨list, ht⟩ := ih
    obtain ⟨x, hx⟩ := iha
    exact ⟨_, .listContains ht hx (Ty.scalar_iff.mp comparable.scalar)
      (Ty.comparable_iff.mp comparable)⟩
  | listQuestion _ mem _ ih ihb =>
    have known : ∀ m ∈ listQuestions, ∃ q ∈ quantifiers, (q.1, q.2.2) = m := by decide
    obtain ⟨⟨_, quantifier, _⟩, known, same⟩ := known _ mem
    cases same
    obtain ⟨list, ht⟩ := ih
    obtain ⟨body, hb⟩ := ihb
    exact ⟨_, .quantified ht known hb⟩
  | not _ ih =>
    obtain ⟨x, hx⟩ := ih
    exact ⟨_, .not hx⟩
  | neg _ numeric ih =>
    obtain ⟨x, hx⟩ := ih
    exact ⟨_, .neg hx (Ty.number_iff.mp numeric)⟩
  | and _ ih =>
    obtain ⟨xs, hlen, all, bools⟩ := exists_resolved_bools ih
    exact ⟨_, .and hlen all bools⟩
  | or _ ih =>
    obtain ⟨xs, hlen, all, bools⟩ := exists_resolved_bools ih
    exact ⟨_, .or hlen all bools⟩
  | order order _ _ ordered ihx ihy =>
    obtain ⟨x, hx⟩ := ihx
    obtain ⟨y, hy⟩ := ihy
    exact ⟨_, .compare hx hy (applies_iff.mpr (by rwa [if_neg order]))⟩
  | equality equality _ _ comparable ihx ihy =>
    obtain ⟨x, hx⟩ := ihx
    obtain ⟨y, hy⟩ := ihy
    exact ⟨_, .compare hx hy (applies_iff.mpr (by rwa [if_pos equality]))⟩
  | arith _ _ joins ihx ihy =>
    obtain ⟨numx, numy, rfl⟩ := Ty.joins_iff.mp joins
    obtain ⟨x, hx⟩ := ihx
    obtain ⟨y, hy⟩ := ihy
    exact ⟨_, .arith hx (Ty.number_iff.mp numx) hy (Ty.number_iff.mp numy)⟩
  | within _ scalar hlen _ comparable ihx ih =>
    obtain ⟨x, hx⟩ := ihx
    obtain ⟨xs, rfl, hlen, all⟩ := exists_resolved hlen ih
    exact ⟨_, .within hx (Ty.scalar_iff.mp scalar) hlen all fun y mem =>
      Ty.comparable_iff.mp (comparable _ (List.mem_map_of_mem mem))⟩

/-- A text compiles exactly if it is an expression that has a truth value by the typing rules. What
a pattern is, the library decides. -/
theorem compiles_iff_wellTyped (catalog : Catalog) (root : Schema) (text : String) :
    (∃ predicate, compile catalog root text = .ok predicate) ↔
      ¬ Text.allBlank text.toList ∧
        ∃ e, parse text = .ok e ∧ WellTyped ⟨catalog, root, []⟩ e .bool := by
  constructor
  · rintro ⟨predicate, compiled⟩
    obtain ⟨notBlank, e, parsed, resolved⟩ := compile_eq_ok_iff.mp compiled
    exact ⟨notBlank, e, parsed, resolved.wellTyped⟩
  · rintro ⟨notBlank, e, parsed, typed⟩
    obtain ⟨bound, resolved⟩ := typed.resolves
    exact ⟨⟨bound⟩, compile_eq_ok_iff.mpr ⟨notBlank, e, parsed, resolved⟩⟩

end Resolution

/-- The two rules differ in their patterns only, and one of these is none. -/
theorem Item.compiles_iff_wellTyped_matches :
    (∃ e, parse "name.matches(\"^[A-Z]\")" = .ok e ∧
      WellTyped ⟨catalog, itemSchema, []⟩ e .bool) ∧
    ∀ e, parse "name.matches(\"^[A-Z\")" = .ok e →
      ¬ WellTyped ⟨catalog, itemSchema, []⟩ e .bool := by
  have accepted : (compile catalog itemSchema "name.matches(\"^[A-Z]\")").isOk := by
    decide +kernel
  have refused : (compile catalog itemSchema "name.matches(\"^[A-Z\")").isOk = false := by
    decide +kernel
  have some : ¬ Text.allBlank "name.matches(\"^[A-Z\")".toList := by decide
  refine ⟨((compiles_iff_wellTyped _ _ _).mp (exists_eq_ok accepted)).2, fun e parsed typed => ?_⟩
  obtain ⟨predicate, compiled⟩ :=
    (compiles_iff_wellTyped catalog itemSchema _).mpr ⟨some, e, parsed, typed⟩
  rw [compiled] at refused
  cases refused

end RecordRules
