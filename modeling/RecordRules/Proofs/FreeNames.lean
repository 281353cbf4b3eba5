import RecordRules.Proofs.NameResolution
import RecordRules.Proofs.Typing

namespace RecordRules

mutual

/-- The names in an expression that parameters around it would be meant by. -/
def Expr.freeNames : Expr → List String
  | .literal _ _ => []
  | .ident _ name => [name]
  | .member _ target _ => target.freeNames
  | .call _ _ args => freeNamesOf args
  | .method _ target _ args => target.freeNames ++ freeNamesOf args
  | .lambda _ param body => body.freeNames.filter (· ≠ param)
  | .not _ operand | .neg _ operand => operand.freeNames
  | .and _ operands | .or _ operands => freeNamesOf operands
  | .compare _ _ lhs rhs | .arith _ _ lhs rhs => lhs.freeNames ++ rhs.freeNames
  | .within _ needle set => needle.freeNames ++ freeNamesOf set

def freeNamesOf : List Expr → List String
  | [] => []
  | e :: rest => e.freeNames ++ freeNamesOf rest

end

theorem freeNames_subset {e : Expr} {es : List Expr} (mem : e ∈ es) :
    e.freeNames ⊆ freeNamesOf es := by
  induction es with
  | nil => cases mem
  | cons first rest ih =>
    rw [freeNamesOf]
    rcases List.mem_cons.mp mem with rfl | mem
    · exact List.subset_append_left _ _
    · exact List.subset_append_of_subset_right _ (ih mem)

theorem mem_freeNames_lambda {mark : Mark} {param name : String} {body : Expr}
    (free : name ∈ body.freeNames) (other : name ≠ param) :
    name ∈ (Expr.lambda mark param body).freeNames := by
  rw [Expr.freeNames]
  exact List.mem_filter.mpr ⟨free, decide_eq_true other⟩

/-- The two scopes differ in parameters of other names only. -/
structure Scope.AgreeOn (names : List String) (scope scope' : Scope) : Prop where
  catalog : scope.catalog = scope'.catalog
  root : scope.root = scope'.root
  params : ∀ name ∈ names, scope.params.lookup name = scope'.params.lookup name

/-- The two settings differ in parameters of other names only. -/
structure Setting.AgreeOn {ο : Type} (names : List String) (setting setting' : Setting ο) :
    Prop where
  catalog : setting.catalog = setting'.catalog
  schema : setting.schema = setting'.schema
  record : setting.record = setting'.record
  params : ∀ name ∈ names, setting.param? name = setting'.param? name

namespace Scope.AgreeOn

variable {names names' : List String} {scope scope' : Scope}

theorem mono (h : AgreeOn names scope scope') (fewer : names' ⊆ names) :
    AgreeOn names' scope scope' :=
  ⟨h.catalog, h.root, fun name mem => h.params name (fewer mem)⟩

theorem part {e : Expr} {es : List Expr} (h : AgreeOn (freeNamesOf es) scope scope')
    (mem : e ∈ es) : AgreeOn e.freeNames scope scope' :=
  h.mono (freeNames_subset mem)

theorem left (h : AgreeOn (names ++ names') scope scope') : AgreeOn names scope scope' :=
  h.mono (List.subset_append_left _ _)

theorem right (h : AgreeOn (names ++ names') scope scope') : AgreeOn names' scope scope' :=
  h.mono (List.subset_append_right _ _)

theorem push {mark : Mark} {param : String} {body : Expr}
    (h : AgreeOn (Expr.lambda mark param body).freeNames scope scope') (type : Ty) :
    AgreeOn body.freeNames (scope.push param type) (scope'.push param type) := by
  refine ⟨h.catalog, h.root, fun name free => ?_⟩
  by_cases same : name = param
  · rw [Scope.push, Scope.push, same, List.lookup_cons_self, List.lookup_cons_self]
  · have other : (name == param) = false := beq_false_of_ne same
    rw [Scope.push, Scope.push, List.lookup_cons, List.lookup_cons, other]
    exact h.params name (mem_freeNames_lambda free same)

theorem symm (h : AgreeOn names scope scope') : AgreeOn names scope' scope :=
  ⟨h.catalog.symm, h.root.symm, fun name mem => (h.params name mem).symm⟩

/-- A parameter of another name makes no difference. -/
theorem of_fresh {param : String} (fresh : param ∉ names) (type : Ty) :
    AgreeOn names scope (scope.push param type) := by
  refine ⟨rfl, rfl, fun name mem => ?_⟩
  have other : (name == param) = false := beq_false_of_ne fun same => fresh (same ▸ mem)
  rw [Scope.push, List.lookup_cons, other]

end Scope.AgreeOn

/-- An expression has a type wherever its free names mean the same. -/
theorem WellTyped.of_agree [Patterns] {scope scope' : Scope} {e : Expr} {type : Ty}
    (h : WellTyped scope e type) (agree : scope.AgreeOn e.freeNames scope') :
    WellTyped scope' e type := by
  induction h generalizing scope' with
  | literal => exact .literal
  | param found =>
    exact .param ((agree.params _ List.mem_cons_self).symm.trans found)
  | rootField free found kind =>
    rw [agree.root] at found
    exact .rootField ((agree.params _ List.mem_cons_self).symm.trans free) found kind
  | field _ found kind ih =>
    rw [agree.catalog] at found
    exact .field (ih agree) found kind
  | rootCall found kind hlen _ takes ih =>
    rw [agree.root] at found
    exact .rootCall found kind hlen
      (fun p mem => ih p mem (agree.part (List.of_mem_zip mem).1)) takes
  | has absent reads _ ih =>
    rw [agree.root] at absent
    exact .has absent reads (ih (agree.part List.mem_cons_self))
  | abs absent _ number ih =>
    rw [agree.root] at absent
    exact .abs absent (ih (agree.part List.mem_cons_self)) number
  | choice absent mem _ _ joins ihx ihy =>
    rw [agree.root] at absent
    exact .choice absent mem (ihx (agree.part List.mem_cons_self))
      (ihy (agree.part (List.mem_cons_of_mem _ List.mem_cons_self))) joins
  | methodCall _ found kind hlen _ takes iht ih =>
    rw [agree.catalog] at found
    exact .methodCall (iht agree.left) found kind hlen
      (fun p mem => ih p mem (agree.right.part (List.of_mem_zip mem).1)) takes
  | stringMethod _ mem ih => exact .stringMethod (ih agree.left) mem
  | stringQuestion _ mem _ ih iha =>
    exact .stringQuestion (ih agree.left) mem (iha (agree.right.part List.mem_cons_self))
  | matching _ accepted ih => exact .matching (ih agree.left) accepted
  | listLength _ ih => exact .listLength (ih agree.left)
  | listContains _ _ comparable ih iha =>
    exact .listContains (ih agree.left) (iha (agree.right.part List.mem_cons_self)) comparable
  | listQuestion _ mem _ ih ihb =>
    exact .listQuestion (ih agree.left) mem (ihb ((agree.right.part List.mem_cons_self).push _))
  | not _ ih => exact .not (ih agree)
  | neg _ number ih => exact .neg (ih agree) number
  | and _ ih => exact .and fun e mem => ih e mem (agree.part mem)
  | or _ ih => exact .or fun e mem => ih e mem (agree.part mem)
  | order order _ _ ordered ihx ihy => exact .order order (ihx agree.left) (ihy agree.right) ordered
  | equality equality _ _ comparable ihx ihy =>
    exact .equality equality (ihx agree.left) (ihy agree.right) comparable
  | arith _ _ joins ihx ihy => exact .arith (ihx agree.left) (ihy agree.right) joins
  | within _ scalar hlen _ comparable ihx ih =>
    exact .within (ihx agree.left) scalar hlen
      (fun p mem => ih p mem (agree.right.part (List.of_mem_zip mem).1)) comparable

theorem find?_eq (name : String) (params : List (String × Ty)) :
    params.find? (·.1 = name) = (params.lookup name).map (Prod.mk name) := by
  rw [lookup_eq]
  cases found : lookupParam name params with
  | none => exact find?_of_lookupParam_eq_none found
  | some entry => exact find?_of_lookupParam found

/-- The type that is found for an expression without checking depends on its free names only. -/
theorem Expr.staticType_of_agree {scope scope' : Scope} {e : Expr}
    (agree : scope.AgreeOn e.freeNames scope') : e.staticType scope = e.staticType scope' := by
  induction e using Expr.ind with
  | literal | lambda | not | and | or | compare | within => rfl
  | ident mark name =>
    rw [staticType, staticType, find?_eq, find?_eq, agree.params name List.mem_cons_self,
      agree.root]
  | member mark target name ih =>
    rw [staticType, staticType, ih agree, agree.catalog]
  | call mark name args ih =>
    have types : staticTypes scope args = staticTypes scope' args := by
      rw [freeNames] at agree
      induction args with
      | nil => rfl
      | cons e rest ihs =>
        obtain ⟨first, others⟩ := List.forall_mem_cons.mp ih
        rw [staticTypes, staticTypes, first agree.left, ihs others agree.right]
    rw [staticType, staticType, types, agree.root]
  | method mark target name args ih ihs =>
    rw [staticType, staticType, ih agree.left, agree.catalog]
  | neg mark operand ih => exact ih agree
  | arith mark op lhs rhs ihx ihy =>
    rw [staticType, staticType, ihx agree.left, ihy agree.right]

namespace Setting

variable {ο : Type} {setting setting' : Setting ο} {names names' : List String}

theorem lookup_scope (setting : Setting ο) (name : String) :
    setting.scope.params.lookup name = (setting.param? name).map Parameter.type := by
  obtain ⟨catalog, schema, record, params⟩ := setting
  rw [scope, param?]
  induction params with
  | nil => rfl
  | cons param outer ih =>
    rw [List.map_cons, List.lookup_cons, List.find?_cons]
    by_cases same : param.name = name
    · have here : (name == param.name) = true := beq_iff_eq.mpr same.symm
      rw [here, decide_eq_true same]
      rfl
    · have other : (name == param.name) = false := beq_false_of_ne (Ne.symm same)
      rw [other, decide_eq_false same]
      exact ih

theorem param?_push (setting : Setting ο) (param : Parameter ο) (name : String) :
    (setting.push param).param? name =
      if param.name = name then some param else setting.param? name := by
  rw [param?, push, List.find?_cons]
  by_cases same : param.name = name
  · rw [if_pos same, decide_eq_true same]
  · rw [if_neg same, decide_eq_false same]
    rfl

namespace AgreeOn

theorem scope (h : AgreeOn names setting setting') :
    setting.scope.AgreeOn names setting'.scope := by
  refine ⟨h.catalog, h.schema, fun name mem => ?_⟩
  rw [lookup_scope, lookup_scope, h.params name mem]

theorem member (h : AgreeOn names setting setting') : setting.member = setting'.member := by
  unfold Setting.member
  rw [h.catalog]

theorem method [Patterns] (h : AgreeOn names setting setting') :
    setting.method = setting'.method := by
  unfold Setting.method
  rw [h.catalog]

theorem mono (h : AgreeOn names setting setting') (fewer : names' ⊆ names) :
    AgreeOn names' setting setting' :=
  ⟨h.catalog, h.schema, h.record, fun name mem => h.params name (fewer mem)⟩

theorem part {e : Expr} {es : List Expr} (h : AgreeOn (freeNamesOf es) setting setting')
    (mem : e ∈ es) : AgreeOn e.freeNames setting setting' :=
  h.mono (freeNames_subset mem)

theorem left (h : AgreeOn (names ++ names') setting setting') : AgreeOn names setting setting' :=
  h.mono (List.subset_append_left _ _)

theorem right (h : AgreeOn (names ++ names') setting setting') : AgreeOn names' setting setting' :=
  h.mono (List.subset_append_right _ _)

theorem push {mark : Mark} {body : Expr} (param : Parameter ο)
    (h : AgreeOn (Expr.lambda mark param.name body).freeNames setting setting') :
    AgreeOn body.freeNames (setting.push param) (setting'.push param) := by
  refine ⟨h.catalog, h.schema, h.record, fun name free => ?_⟩
  rw [param?_push, param?_push]
  by_cases same : param.name = name
  · rw [if_pos same, if_pos same]
  · rw [if_neg same, if_neg same]
    exact h.params name (mem_freeNames_lambda free (Ne.symm same))

/-- A parameter of another name makes no difference. -/
theorem of_fresh {param : Parameter ο} (fresh : param.name ∉ names) :
    AgreeOn names setting (setting.push param) := by
  refine ⟨rfl, rfl, rfl, fun name mem => ?_⟩
  have other : param.name ≠ name := fun same => fresh (same ▸ mem)
  rw [param?_push, if_neg other]

end AgreeOn

end Setting

variable [Patterns]

/-- What the expression comes to depends on its free names only, as far as parameters go. -/
def Expr.Determined (ο : Type) (e : Expr) : Prop :=
  ∀ ⦃setting setting' : Setting ο⦄, setting.AgreeOn e.freeNames setting' →
    e.interpret setting = e.interpret setting'

/-- What the body comes to, if the expression is a lambda, depends on its free names only. -/
def Expr.BodyDetermined (ο : Type) (e : Expr) : Prop :=
  ∀ ⦃mark param body⦄, e = .lambda mark param body → body.Determined ο

section Determined

variable {ο : Type} {setting setting' : Setting ο} {es : List Expr}

theorem interpretEach_of_agree (determined : ∀ e ∈ es, e.Determined ο)
    (agree : setting.AgreeOn (freeNamesOf es) setting') :
    interpretEach es setting = interpretEach es setting' := by
  rw [interpretEach_eq_map, interpretEach_eq_map]
  exact List.map_congr_left fun e mem => determined e mem (agree.part mem)

theorem interpretBody_of_agree (determined : ∀ e ∈ es, e.BodyDetermined ο)
    (agree : setting.AgreeOn (freeNamesOf es) setting') :
    interpretBody es setting = interpretBody es setting' := by
  funext element v
  unfold interpretBody
  split
  next mark param body =>
    have lambda : setting.AgreeOn (Expr.lambda mark param body).freeNames setting' :=
      agree.part List.mem_cons_self
    exact determined _ List.mem_cons_self rfl (lambda.push ⟨param, element, v⟩)
  next => rfl

theorem Expr.determined_and_bodyDetermined (e : Expr) :
    e.Determined ο ∧ e.BodyDetermined ο := by
  induction e using Expr.ind with
  | literal mark value => exact ⟨fun _ _ _ => rfl, fun _ _ _ eq => by cases eq⟩
  | ident mark name =>
    refine ⟨fun setting setting' agree => ?_, fun _ _ _ eq => by cases eq⟩
    rw [interpret, interpret, Setting.ident, Setting.ident, agree.params name List.mem_cons_self,
      agree.record, agree.schema]
  | member mark target name ih =>
    refine ⟨fun setting setting' agree => ?_, fun _ _ _ eq => by cases eq⟩
    rw [interpret, interpret, staticType_of_agree (e := target) agree.scope, ih.1 agree,
      agree.member]
  | call mark name args ih =>
    refine ⟨fun setting setting' agree => ?_, fun _ _ _ eq => by cases eq⟩
    rw [interpret, interpret, interpretEach_of_agree (fun e mem => (ih e mem).1) agree,
      Setting.call, Setting.call, agree.record, agree.schema]
  | method mark target name args ih ihs =>
    refine ⟨fun setting setting' agree => ?_, fun _ _ _ eq => by cases eq⟩
    rw [interpret, interpret, staticType_of_agree agree.left.scope, ih.1 agree.left,
      interpretEach_of_agree (fun e mem => (ihs e mem).1) agree.right,
      interpretBody_of_agree (fun e mem => (ihs e mem).2) agree.right, agree.method]
  | lambda mark param body ih =>
    refine ⟨fun _ _ _ => rfl, fun _ _ _ eq => ?_⟩
    cases eq
    exact ih.1
  | not mark operand ih | neg mark operand ih =>
    refine ⟨fun setting setting' agree => ?_, fun _ _ _ eq => by cases eq⟩
    rw [interpret, interpret, ih.1 agree]
  | and mark operands ih | or mark operands ih =>
    refine ⟨fun setting setting' agree => ?_, fun _ _ _ eq => by cases eq⟩
    rw [interpret, interpret, interpretEach_of_agree (fun e mem => (ih e mem).1) agree]
  | compare mark op lhs rhs ihx ihy | arith mark op lhs rhs ihx ihy =>
    refine ⟨fun setting setting' agree => ?_, fun _ _ _ eq => by cases eq⟩
    rw [interpret, interpret, ihx.1 agree.left, ihy.1 agree.right]
  | within mark needle set ih ihs =>
    refine ⟨fun setting setting' agree => ?_, fun _ _ _ eq => by cases eq⟩
    rw [interpret, interpret, ih.1 agree.left,
      interpretEach_of_agree (fun e mem => (ihs e mem).1) agree.right]

/-- Parameters that no free name of an expression is meant by make no difference to it. -/
theorem Expr.interpret_of_agree {e : Expr} (agree : setting.AgreeOn e.freeNames setting') :
    e.interpret setting = e.interpret setting' :=
  e.determined_and_bodyDetermined.1 agree

/-- One more parameter around makes no difference to an expression in which it is not free. -/
theorem Resolves.eval_of_fresh {e : Expr} {x x' : Typed} (param : Parameter ο)
    (h : Resolves setting.scope e x) (h' : Resolves (setting.push param).scope e x')
    (fresh : param.name ∉ e.freeNames) :
    x'.bound.eval setting.record (param.value :: setting.values) =
      x.bound.eval setting.record setting.values := by
  have around := h'.interpret (setting.push param) rfl
  have agree : setting.AgreeOn e.freeNames (setting.push param) := .of_fresh fresh
  have same := Expr.interpret_of_agree agree
  rw [h.interpret setting rfl, around] at same
  exact same.symm

end Determined

end RecordRules
