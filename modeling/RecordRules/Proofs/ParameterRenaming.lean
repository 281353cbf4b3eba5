import Mathlib.Data.List.Zip
import RecordRules.Item.Catalog
import RecordRules.Proofs.MarkIndependence
import RecordRules.Regex.Library

namespace RecordRules

mutual

/-- The names that stand in an expression by themselves or as parameters of lambdas. -/
def Expr.names : Expr → List String
  | .literal _ _ => []
  | .ident _ name => [name]
  | .member _ target _ => target.names
  | .call _ _ args => namesOf args
  | .method _ target _ args => target.names ++ namesOf args
  | .lambda _ param body => param :: body.names
  | .not _ operand | .neg _ operand => operand.names
  | .and _ operands | .or _ operands => namesOf operands
  | .compare _ _ lhs rhs | .arith _ _ lhs rhs => lhs.names ++ rhs.names
  | .within _ needle set => needle.names ++ namesOf set

def namesOf : List Expr → List String
  | [] => []
  | e :: rest => e.names ++ namesOf rest

end

mutual

/-- The expression with the new name wherever the old one stands by itself, but not in lambdas whose
own parameter has the old name. -/
def Expr.rename (old new : String) : Expr → Expr
  | .literal mark value => .literal mark value
  | .ident mark name => .ident mark (if name = old then new else name)
  | .member mark target name => .member mark (target.rename old new) name
  | .call mark name args => .call mark name (renameEach old new args)
  | .method mark target name args =>
    .method mark (target.rename old new) name (renameEach old new args)
  | .lambda mark param body =>
    .lambda mark param (if param = old then body else body.rename old new)
  | .not mark operand => .not mark (operand.rename old new)
  | .neg mark operand => .neg mark (operand.rename old new)
  | .and mark operands => .and mark (renameEach old new operands)
  | .or mark operands => .or mark (renameEach old new operands)
  | .compare mark op lhs rhs => .compare mark op (lhs.rename old new) (rhs.rename old new)
  | .arith mark op lhs rhs => .arith mark op (lhs.rename old new) (rhs.rename old new)
  | .within mark needle set => .within mark (needle.rename old new) (renameEach old new set)

def renameEach (old new : String) : List Expr → List Expr
  | [] => []
  | e :: rest => e.rename old new :: renameEach old new rest

end

/-- An expression with one of its direct parts left open. -/
inductive Expr.Frame where
  | member (mark : Mark) (name : String)
  | argument (mark : Mark) (name : String) (before after : List Expr)
  | target (mark : Mark) (name : String) (args : List Expr)
  | methodArgument (mark : Mark) (receiver : Expr) (name : String) (before after : List Expr)
  | body (mark : Mark) (param : String)
  | not (mark : Mark)
  | neg (mark : Mark)
  | conjunct (mark : Mark) (before after : List Expr)
  | disjunct (mark : Mark) (before after : List Expr)
  | compareLeft (mark : Mark) (op : CompareOp) (rhs : Expr)
  | compareRight (mark : Mark) (op : CompareOp) (lhs : Expr)
  | arithLeft (mark : Mark) (op : ArithOp) (rhs : Expr)
  | arithRight (mark : Mark) (op : ArithOp) (lhs : Expr)
  | needle (mark : Mark) (set : List Expr)
  | candidate (mark : Mark) (item : Expr) (before after : List Expr)

/-- The expression with the part where the frame leaves it open. -/
def Expr.Frame.fill (part : Expr) : Expr.Frame → Expr
  | member mark name => .member mark part name
  | argument mark name before after => .call mark name (before ++ part :: after)
  | target mark name args => .method mark part name args
  | methodArgument mark receiver name before after =>
    .method mark receiver name (before ++ part :: after)
  | body mark param => .lambda mark param part
  | not mark => .not mark part
  | neg mark => .neg mark part
  | conjunct mark before after => .and mark (before ++ part :: after)
  | disjunct mark before after => .or mark (before ++ part :: after)
  | compareLeft mark op rhs => .compare mark op part rhs
  | compareRight mark op lhs => .compare mark op lhs part
  | arithLeft mark op rhs => .arith mark op part rhs
  | arithRight mark op lhs => .arith mark op lhs part
  | needle mark set => .within mark part set
  | candidate mark item before after => .within mark item (before ++ part :: after)

/-- The expression with the part at a place of any depth, the outermost frame first. -/
def Expr.around (frames : List Expr.Frame) (part : Expr) : Expr :=
  frames.foldr (fun frame e => frame.fill e) part

/-- Where parameters are paired, the innermost first: the two names mean the two parameters of one
pair, or they are one name that no pair has on either side. -/
inductive Corresponds : List (String × String) → String → String → Prop
  | free {name} : Corresponds [] name name
  | here {pairs param param'} : Corresponds ((param, param') :: pairs) param param'
  | there {pairs param param' name name'} :
    name ≠ param → name' ≠ param' → Corresponds pairs name name' →
    Corresponds ((param, param') :: pairs) name name'

/-- The two expressions differ in their marks and in the names of paired parameters only. -/
inductive Expr.AlphaEq : List (String × String) → Expr → Expr → Prop
  | literal {pairs mark mark' value} : AlphaEq pairs (.literal mark value) (.literal mark' value)
  | ident {pairs mark mark' name name'} :
    Corresponds pairs name name' → AlphaEq pairs (.ident mark name) (.ident mark' name')
  | member {pairs mark mark' target target' name} :
    AlphaEq pairs target target' →
    AlphaEq pairs (.member mark target name) (.member mark' target' name)
  | call {pairs mark mark' name args args'} :
    args.length = args'.length → (∀ p ∈ args.zip args', AlphaEq pairs p.1 p.2) →
    AlphaEq pairs (.call mark name args) (.call mark' name args')
  | method {pairs mark mark' target target' name args args'} :
    AlphaEq pairs target target' →
    args.length = args'.length → (∀ p ∈ args.zip args', AlphaEq pairs p.1 p.2) →
    AlphaEq pairs (.method mark target name args) (.method mark' target' name args')
  | lambda {pairs mark mark' param param' body body'} :
    AlphaEq ((param, param') :: pairs) body body' →
    AlphaEq pairs (.lambda mark param body) (.lambda mark' param' body')
  | not {pairs mark mark' operand operand'} :
    AlphaEq pairs operand operand' → AlphaEq pairs (.not mark operand) (.not mark' operand')
  | neg {pairs mark mark' operand operand'} :
    AlphaEq pairs operand operand' → AlphaEq pairs (.neg mark operand) (.neg mark' operand')
  | and {pairs mark mark' operands operands'} :
    operands.length = operands'.length →
    (∀ p ∈ operands.zip operands', AlphaEq pairs p.1 p.2) →
    AlphaEq pairs (.and mark operands) (.and mark' operands')
  | or {pairs mark mark' operands operands'} :
    operands.length = operands'.length →
    (∀ p ∈ operands.zip operands', AlphaEq pairs p.1 p.2) →
    AlphaEq pairs (.or mark operands) (.or mark' operands')
  | compare {pairs mark mark' op lhs lhs' rhs rhs'} :
    AlphaEq pairs lhs lhs' → AlphaEq pairs rhs rhs' →
    AlphaEq pairs (.compare mark op lhs rhs) (.compare mark' op lhs' rhs')
  | arith {pairs mark mark' op lhs lhs' rhs rhs'} :
    AlphaEq pairs lhs lhs' → AlphaEq pairs rhs rhs' →
    AlphaEq pairs (.arith mark op lhs rhs) (.arith mark' op lhs' rhs')
  | within {pairs mark mark' needle needle' set set'} :
    AlphaEq pairs needle needle' →
    set.length = set'.length → (∀ p ∈ set.zip set', AlphaEq pairs p.1 p.2) →
    AlphaEq pairs (.within mark needle set) (.within mark' needle' set')

/-- The scopes of two expressions whose lambdas bind the paired parameters. -/
inductive Scope.Paired : List (String × String) → Scope → Scope → Prop
  | refl {scope} : Paired [] scope scope
  | push {pairs scope scope'} (param param' : String) (type : Ty) :
    Paired pairs scope scope' →
    Paired ((param, param') :: pairs) (scope.push param type) (scope'.push param' type)

theorem renameEach_eq_map (old new : String) (es : List Expr) :
    renameEach old new es = es.map (Expr.rename old new) := by
  induction es with
  | nil => rfl
  | cons e rest ih => rw [renameEach, List.map_cons, ih]

theorem names_subset {e : Expr} {es : List Expr} (mem : e ∈ es) : e.names ⊆ namesOf es := by
  induction es with
  | nil => cases mem
  | cons first rest ih =>
    rw [namesOf]
    rcases List.mem_cons.mp mem with rfl | mem
    · exact List.subset_append_left _ _
    · exact List.subset_append_of_subset_right _ (ih mem)

section Corresponds

variable {pairs : List (String × String)} {name name' : String}

theorem Corresponds.symm (h : Corresponds pairs name name') :
    Corresponds (pairs.map Prod.swap) name' name := by
  induction h with
  | free => exact .free
  | here => exact .here
  | there other other' _ ih => exact .there other' other ih

/-- A name goes through a pair of one parameter with itself, if it does through those around. -/
theorem Corresponds.cons_self (param : String) (h : Corresponds pairs name name) :
    Corresponds ((param, param) :: pairs) name name := by
  by_cases same : name = param
  · subst same
    exact .here
  · exact .there same same h

theorem Corresponds.refl (equal : ∀ p ∈ pairs, p.1 = p.2) : Corresponds pairs name name := by
  induction pairs with
  | nil => exact .free
  | cons p rest ih =>
    obtain ⟨param, param'⟩ := p
    obtain ⟨same, others⟩ := List.forall_mem_cons.mp equal
    simp only at same
    subst same
    exact (ih others).cons_self param

end Corresponds

namespace Scope.Paired

variable {pairs : List (String × String)} {scope scope' : Scope} {name name' : String}

theorem catalog_eq (h : Paired pairs scope scope') : scope.catalog = scope'.catalog := by
  induction h with
  | refl => rfl
  | push _ _ _ _ ih => exact ih

theorem root_eq (h : Paired pairs scope scope') : scope.root = scope'.root := by
  induction h with
  | refl => rfl
  | push _ _ _ _ ih => exact ih

theorem length_params (h : Paired pairs scope scope') :
    scope.params.length = scope'.params.length := by
  induction h with
  | refl => rfl
  | push _ _ _ _ ih => exact congrArg (· + 1) ih

theorem symm (h : Paired pairs scope scope') : Paired (pairs.map Prod.swap) scope' scope := by
  induction h with
  | refl => exact .refl
  | push param param' type _ ih => exact .push param' param type ih

/-- Corresponding names have the same number and type on both sides. -/
theorem lookup_eq (h : Paired pairs scope scope') (same : Corresponds pairs name name') :
    lookupParam name scope.params = lookupParam name' scope'.params := by
  induction h with
  | refl =>
    cases same
    rfl
  | push param param' type h ih =>
    rw [Scope.push, Scope.push, lookupParam, lookupParam]
    cases same with
    | here => rw [if_pos rfl, if_pos rfl, h.length_params]
    | there other other' same => rw [if_neg (Ne.symm other), if_neg (Ne.symm other'), ih same]

/-- A name that means no parameter is the same on both sides. -/
theorem eq_of_lookup_none (h : Paired pairs scope scope') (same : Corresponds pairs name name')
    (free : lookupParam name scope.params = none) : name = name' := by
  induction h with
  | refl =>
    cases same
    rfl
  | push param param' type _ ih =>
    rw [Scope.push, lookupParam] at free
    cases same with
    | here =>
      rw [if_pos rfl] at free
      cases free
    | there other _ same =>
      rw [if_neg (Ne.symm other)] at free
      exact ih same free

end Scope.Paired

/-- What relates two lists one by one, and the first to a third, relates the second to the third. -/
theorem forall_zip_of_zip {es es' : List Expr} {xs : List Typed} {R : Expr → Expr → Prop}
    {P : Expr → Typed → Prop} (hlen : es.length = es'.length)
    (related : ∀ p ∈ es.zip es', R p.1 p.2) (hxs : es.length = xs.length)
    (h : ∀ p ∈ es.zip xs, ∀ e', R p.1 e' → P e' p.2) :
    es'.length = xs.length ∧ ∀ p ∈ es'.zip xs, P p.1 p.2 := by
  refine ⟨hlen.symm.trans hxs, ?_⟩
  intro p mem
  -- the three members stand at the same place
  obtain ⟨i, hi, rfl⟩ := List.mem_iff_getElem.mp mem
  rw [List.length_zip] at hi
  have first : i < (es.zip xs).length := by
    rw [List.length_zip]
    omega
  have second : i < (es.zip es').length := by
    rw [List.length_zip]
    omega
  have found := h _ (List.getElem_mem first) es'[i]
  have link := related _ (List.getElem_mem second)
  rw [List.getElem_zip] at found link ⊢
  exact found link

namespace Expr.AlphaEq

variable {pairs : List (String × String)} {e e' : Expr} {es es' : List Expr}

theorem symm (h : AlphaEq pairs e e') : AlphaEq (pairs.map Prod.swap) e' e := by
  have swapped {pairs : List (String × String)} {es es' : List Expr}
      (ih : ∀ p ∈ es.zip es', AlphaEq (pairs.map Prod.swap) p.2 p.1) :
      ∀ p ∈ es'.zip es, AlphaEq (pairs.map Prod.swap) p.1 p.2 := by
    intro p mem
    rw [← List.zip_swap, List.mem_map] at mem
    obtain ⟨q, mem, rfl⟩ := mem
    exact ih q mem
  induction h with
  | literal => exact .literal
  | ident same => exact .ident same.symm
  | member _ ih => exact .member ih
  | call hlen _ ih => exact .call hlen.symm (swapped ih)
  | method _ hlen _ iht ih => exact .method iht hlen.symm (swapped ih)
  | lambda _ ih => exact .lambda ih
  | not _ ih => exact .not ih
  | neg _ ih => exact .neg ih
  | and hlen _ ih => exact .and hlen.symm (swapped ih)
  | or hlen _ ih => exact .or hlen.symm (swapped ih)
  | compare _ _ ihl ihr => exact .compare ihl ihr
  | arith _ _ ihl ihr => exact .arith ihl ihr
  | within _ hlen _ ihn ih => exact .within ihn hlen.symm (swapped ih)

/-- The arguments of the two sides can only be of the same kind. -/
theorem readsMember (h : AlphaEq pairs e e') (reads : e.ReadsMember) : e'.ReadsMember := by
  cases h <;> exact reads

theorem eq_nil (hlen : ([] : List Expr).length = es'.length) : es' = [] :=
  List.length_eq_zero_iff.mp hlen.symm

theorem eq_singleton (hlen : [e].length = es'.length)
    (each : ∀ p ∈ [e].zip es', AlphaEq pairs p.1 p.2) :
    ∃ e', es' = [e'] ∧ AlphaEq pairs e e' := by
  obtain ⟨e', rfl⟩ := List.length_eq_one_iff.mp hlen.symm
  exact ⟨e', rfl, each (e, e') List.mem_cons_self⟩

theorem eq_pair {f : Expr} (hlen : [e, f].length = es'.length)
    (each : ∀ p ∈ [e, f].zip es', AlphaEq pairs p.1 p.2) :
    ∃ e' f', es' = [e', f'] ∧ AlphaEq pairs e e' ∧ AlphaEq pairs f f' := by
  obtain ⟨e', f', rfl⟩ := List.length_eq_two.mp hlen.symm
  exact ⟨e', f', rfl, each (e, e') List.mem_cons_self,
    each (f, f') (List.mem_cons_of_mem _ List.mem_cons_self)⟩

/-- What relates every member of a list to its image relates the list to that of the images. -/
theorem zip_map {f : Expr → Expr} (each : ∀ e ∈ es, AlphaEq pairs e (f e)) :
    es.length = (es.map f).length ∧ ∀ p ∈ es.zip (es.map f), AlphaEq pairs p.1 p.2 := by
  refine ⟨(List.length_map f).symm, ?_⟩
  induction es with
  | nil => exact fun p mem => absurd mem List.not_mem_nil
  | cons e rest ih =>
    obtain ⟨first, others⟩ := List.forall_mem_cons.mp each
    rw [List.map_cons, List.zip_cons_cons]
    exact List.forall_mem_cons.mpr ⟨first, ih others⟩

theorem zip_self (each : ∀ e ∈ es, AlphaEq pairs e e) :
    es.length = es.length ∧ ∀ p ∈ es.zip es, AlphaEq pairs p.1 p.2 := by
  have h := zip_map (f := id) each
  rwa [List.map_id] at h

/-- An expression differs in nothing from itself, if its names go through the pairs. -/
theorem refl_of_names (same : ∀ name ∈ e.names, Corresponds pairs name name) :
    AlphaEq pairs e e := by
  induction e using Expr.ind generalizing pairs with
  | literal => exact .literal
  | ident mark name => exact .ident (same name List.mem_cons_self)
  | member mark target name ih => exact .member (ih same)
  | call mark name args ih =>
    obtain ⟨hlen, each⟩ := zip_self fun e mem => ih e mem fun n h => same n (names_subset mem h)
    exact .call hlen each
  | method mark target name args iht ih =>
    obtain ⟨hlen, each⟩ := zip_self fun e mem => ih e mem fun n h =>
      same n (List.mem_append_right _ (names_subset mem h))
    exact .method (iht fun n h => same n (List.mem_append_left _ h)) hlen each
  | lambda mark param body ih =>
    exact .lambda (ih fun n h => (same n (List.mem_cons_of_mem _ h)).cons_self param)
  | not mark operand ih => exact .not (ih same)
  | neg mark operand ih => exact .neg (ih same)
  | and mark operands ih =>
    obtain ⟨hlen, each⟩ := zip_self fun e mem => ih e mem fun n h => same n (names_subset mem h)
    exact .and hlen each
  | or mark operands ih =>
    obtain ⟨hlen, each⟩ := zip_self fun e mem => ih e mem fun n h => same n (names_subset mem h)
    exact .or hlen each
  | compare mark op lhs rhs ihl ihr =>
    exact .compare (ihl fun n h => same n (List.mem_append_left _ h))
      (ihr fun n h => same n (List.mem_append_right _ h))
  | arith mark op lhs rhs ihl ihr =>
    exact .arith (ihl fun n h => same n (List.mem_append_left _ h))
      (ihr fun n h => same n (List.mem_append_right _ h))
  | within mark needle set ihn ih =>
    obtain ⟨hlen, each⟩ := zip_self fun e mem => ih e mem fun n h =>
      same n (List.mem_append_right _ (names_subset mem h))
    exact .within (ihn fun n h => same n (List.mem_append_left _ h)) hlen each

theorem refl (equal : ∀ p ∈ pairs, p.1 = p.2) (e : Expr) : AlphaEq pairs e e :=
  refl_of_names fun _ _ => .refl equal

end Expr.AlphaEq

/-- The pairs are those inside a lambda whose parameter's old name is replaced by a new one: the two
correspond, and every other name goes through. -/
structure Renames (old new : String) (pairs : List (String × String)) : Prop where
  renamed : Corresponds pairs old new
  others : ∀ name, name ≠ old → name ≠ new → Corresponds pairs name name

namespace Renames

variable {old new : String} {pairs : List (String × String)}

theorem name (h : Renames old new pairs) {name : String} (fresh : name ≠ new) :
    Corresponds pairs name (if name = old then new else name) := by
  split
  next same => exact same ▸ h.renamed
  next other => exact h.others name other fresh

theorem push (h : Renames old new pairs) {param : String} (other : param ≠ old)
    (fresh : param ≠ new) : Renames old new ((param, param) :: pairs) :=
  ⟨.there other.symm fresh.symm h.renamed,
    fun name other fresh => (h.others name other fresh).cons_self param⟩

/-- Inside a lambda that binds the old name again, nothing is renamed. -/
theorem shadowed (h : Renames old new pairs) {name : String} (fresh : name ≠ new) :
    Corresponds ((old, old) :: pairs) name name := by
  by_cases same : name = old
  · subst same
    exact .here
  · exact .there same same (h.others name same fresh)

/-- The body of a lambda differs from the one with its parameter renamed in nothing else, as the new
name is nowhere in it to be taken for the parameter. -/
theorem alphaEq (h : Renames old new pairs) {e : Expr} (fresh : new ∉ e.names) :
    Expr.AlphaEq pairs e (e.rename old new) := by
  have part {e : Expr} {es : List Expr} (fresh : new ∉ namesOf es) (mem : e ∈ es) :
      new ∉ e.names := fun h => fresh (names_subset mem h)
  induction e using Expr.ind generalizing pairs with
  | literal => exact .literal
  | ident mark name => exact .ident (h.name (List.ne_of_not_mem_cons fresh).symm)
  | member mark target name ih => exact .member (ih h fresh)
  | call mark name args ih =>
    rw [Expr.rename, renameEach_eq_map]
    obtain ⟨hlen, each⟩ := Expr.AlphaEq.zip_map fun e mem => ih e mem h (part fresh mem)
    exact .call hlen each
  | method mark target name args iht ih =>
    rw [Expr.names, List.mem_append, not_or] at fresh
    obtain ⟨fresht, fresh⟩ := fresh
    rw [Expr.rename, renameEach_eq_map]
    obtain ⟨hlen, each⟩ := Expr.AlphaEq.zip_map fun e mem => ih e mem h (part fresh mem)
    exact .method (iht h fresht) hlen each
  | lambda mark param body ih =>
    obtain ⟨other, fresh⟩ := List.ne_and_not_mem_of_not_mem_cons fresh
    rw [Expr.rename]
    split
    next same =>
      subst same
      exact .lambda (.refl_of_names fun name mem => h.shadowed fun eq => fresh (eq ▸ mem))
    next inner => exact .lambda (ih (h.push inner other.symm) fresh)
  | not mark operand ih => exact .not (ih h fresh)
  | neg mark operand ih => exact .neg (ih h fresh)
  | and mark operands ih =>
    rw [Expr.rename, renameEach_eq_map]
    obtain ⟨hlen, each⟩ := Expr.AlphaEq.zip_map fun e mem => ih e mem h (part fresh mem)
    exact .and hlen each
  | or mark operands ih =>
    rw [Expr.rename, renameEach_eq_map]
    obtain ⟨hlen, each⟩ := Expr.AlphaEq.zip_map fun e mem => ih e mem h (part fresh mem)
    exact .or hlen each
  | compare mark op lhs rhs ihl ihr =>
    rw [Expr.names, List.mem_append, not_or] at fresh
    obtain ⟨freshl, freshr⟩ := fresh
    exact .compare (ihl h freshl) (ihr h freshr)
  | arith mark op lhs rhs ihl ihr =>
    rw [Expr.names, List.mem_append, not_or] at fresh
    obtain ⟨freshl, freshr⟩ := fresh
    exact .arith (ihl h freshl) (ihr h freshr)
  | within mark needle set ihn ih =>
    rw [Expr.names, List.mem_append, not_or] at fresh
    obtain ⟨freshn, fresh⟩ := fresh
    rw [Expr.rename, renameEach_eq_map]
    obtain ⟨hlen, each⟩ := Expr.AlphaEq.zip_map fun e mem => ih e mem h (part fresh mem)
    exact .within (ihn h freshn) hlen each

theorem of_lambda (old new : String) (equal : ∀ p ∈ pairs, p.1 = p.2) :
    Renames old new ((old, new) :: pairs) :=
  ⟨.here, fun _ other fresh => .there other fresh (.refl equal)⟩

end Renames

/-- The two expressions differ in the names of their own parameters only. -/
def Expr.SameButParams (e e' : Expr) : Prop :=
  ∀ pairs : List (String × String), (∀ p ∈ pairs, p.1 = p.2) → AlphaEq pairs e e'

namespace Expr.SameButParams

variable {e e' : Expr}

theorem lambda (mark : Mark) (old : String) {new : String} {body : Expr}
    (fresh : new ∉ body.names) :
    SameButParams (.lambda mark old body) (.lambda mark new (body.rename old new)) :=
  fun _ equal => .lambda ((Renames.of_lambda old new equal).alphaEq fresh)

theorem among (h : SameButParams e e') {pairs : List (String × String)}
    (equal : ∀ p ∈ pairs, p.1 = p.2) (before after : List Expr) :
    (before ++ e :: after).length = (before ++ e' :: after).length ∧
      ∀ p ∈ (before ++ e :: after).zip (before ++ e' :: after), AlphaEq pairs p.1 p.2 := by
  obtain ⟨-, eachBefore⟩ := AlphaEq.zip_self fun e (_ : e ∈ before) => .refl equal e
  obtain ⟨-, eachAfter⟩ := AlphaEq.zip_self fun e (_ : e ∈ after) => .refl equal e
  refine ⟨by rw [List.length_append, List.length_append, List.length_cons, List.length_cons], ?_⟩
  rw [List.zip_append rfl, List.zip_cons_cons]
  intro p mem
  rcases List.mem_append.mp mem with mem | mem
  · exact eachBefore p mem
  · rcases List.mem_cons.mp mem with rfl | mem
    · exact h pairs equal
    · exact eachAfter p mem

theorem fill (h : SameButParams e e') (frame : Frame) :
    SameButParams (frame.fill e) (frame.fill e') := by
  intro pairs equal
  have whole := h pairs equal
  have around := h.among equal
  cases frame with
  | member => exact .member whole
  | argument mark name before after =>
    obtain ⟨hlen, each⟩ := around before after
    exact .call hlen each
  | target mark name args =>
    obtain ⟨hlen, each⟩ := AlphaEq.zip_self fun e (_ : e ∈ args) => .refl equal e
    exact .method whole hlen each
  | methodArgument mark receiver name before after =>
    obtain ⟨hlen, each⟩ := around before after
    exact .method (.refl equal receiver) hlen each
  | body mark param => exact .lambda (h _ (List.forall_mem_cons.mpr ⟨rfl, equal⟩))
  | not => exact .not whole
  | neg => exact .neg whole
  | conjunct mark before after =>
    obtain ⟨hlen, each⟩ := around before after
    exact .and hlen each
  | disjunct mark before after =>
    obtain ⟨hlen, each⟩ := around before after
    exact .or hlen each
  | compareLeft mark op rhs => exact .compare whole (.refl equal rhs)
  | compareRight mark op lhs => exact .compare (.refl equal lhs) whole
  | arithLeft mark op rhs => exact .arith whole (.refl equal rhs)
  | arithRight mark op lhs => exact .arith (.refl equal lhs) whole
  | needle mark set =>
    obtain ⟨hlen, each⟩ := AlphaEq.zip_self fun e (_ : e ∈ set) => .refl equal e
    exact .within whole hlen each
  | candidate mark item before after =>
    obtain ⟨hlen, each⟩ := around before after
    exact .within (.refl equal item) hlen each

theorem around (h : SameButParams e e') (frames : List Frame) :
    SameButParams (Expr.around frames e) (Expr.around frames e') := by
  induction frames with
  | nil => exact h
  | cons frame rest ih => exact ih.fill frame

end Expr.SameButParams

section Resolution

variable [Patterns]

/-- Expressions that differ in names of paired parameters are resolved to the same, parameter by
number. -/
theorem Resolves.of_alphaEq {scope : Scope} {e : Expr} {x : Typed} (h : Resolves scope e x)
    {pairs : List (String × String)} {scope' : Scope} {e' : Expr} (same : e.AlphaEq pairs e')
    (paired : scope.Paired pairs scope') : Resolves scope' e' x := by
  induction h generalizing pairs scope' e' with
  | literal =>
    cases same
    exact .literal
  | param found =>
    cases same with
    | ident same => exact .param ((paired.lookup_eq same).symm.trans found)
  | rootField free found kind =>
    cases same with
    | ident same =>
      obtain rfl := paired.eq_of_lookup_none same free
      rw [paired.root_eq] at found
      exact .rootField ((paired.lookup_eq same).symm.trans free) found kind
  | field _ found kind ih =>
    rw [paired.catalog_eq] at found
    cases same with
    | member same => exact .field (ih same paired) found kind
  | rootCall found kind hlen _ accepted ih =>
    rw [paired.root_eq] at found
    cases same with
    | call lengths related =>
      obtain ⟨hlen, each⟩ := forall_zip_of_zip lengths related hlen
        fun p mem _ same => ih p mem same paired
      exact .rootCall found kind hlen each accepted
  | has absent reads _ ih =>
    rw [paired.root_eq] at absent
    cases same with
    | call lengths related =>
      obtain ⟨arg, rfl, same⟩ := Expr.AlphaEq.eq_singleton lengths related
      exact .has absent (same.readsMember reads) (ih same paired)
  | abs absent _ numeric ih =>
    rw [paired.root_eq] at absent
    cases same with
    | call lengths related =>
      obtain ⟨arg, rfl, same⟩ := Expr.AlphaEq.eq_singleton lengths related
      exact .abs absent (ih same paired) numeric
  | choice absent mem _ numx _ numy ihx ihy =>
    rw [paired.root_eq] at absent
    cases same with
    | call lengths related =>
      obtain ⟨first, second, rfl, samex, samey⟩ := Expr.AlphaEq.eq_pair lengths related
      exact .choice absent mem (ihx samex paired) numx (ihy samey paired) numy
  | methodCall _ found kind hlen _ accepted iht ih =>
    rw [paired.catalog_eq] at found
    cases same with
    | method samet lengths related =>
      obtain ⟨hlen, each⟩ := forall_zip_of_zip lengths related hlen
        fun p mem _ same => ih p mem same paired
      exact .methodCall (iht samet paired) found kind hlen each accepted
  | stringProperty _ mem ih =>
    cases same with
    | method samet lengths =>
      obtain rfl := Expr.AlphaEq.eq_nil lengths
      exact .stringProperty (ih samet paired) mem
  | stringTest _ mem _ ih iha =>
    cases same with
    | method samet lengths related =>
      obtain ⟨arg, rfl, same⟩ := Expr.AlphaEq.eq_singleton lengths related
      exact .stringTest (ih samet paired) mem (iha same paired)
  | matching _ accepted ih =>
    cases same with
    | method samet lengths related =>
      obtain ⟨arg, rfl, same⟩ := Expr.AlphaEq.eq_singleton lengths related
      cases same
      exact .matching (ih samet paired) accepted
  | listLength _ ih =>
    cases same with
    | method samet lengths =>
      obtain rfl := Expr.AlphaEq.eq_nil lengths
      exact .listLength (ih samet paired)
  | listContains _ _ scalar comparable ih iha =>
    cases same with
    | method samet lengths related =>
      obtain ⟨arg, rfl, same⟩ := Expr.AlphaEq.eq_singleton lengths related
      exact .listContains (ih samet paired) (iha same paired) scalar comparable
  | quantified _ mem _ ih ihb =>
    cases same with
    | method samet lengths related =>
      obtain ⟨arg, rfl, same⟩ := Expr.AlphaEq.eq_singleton lengths related
      cases same with
      | lambda same => exact .quantified (ih samet paired) mem (ihb same (paired.push _ _ _))
  | not _ ih =>
    cases same with
    | not same => exact .not (ih same paired)
  | neg _ numeric ih =>
    cases same with
    | neg same => exact .neg (ih same paired) numeric
  | and hlen _ bools ih =>
    cases same with
    | and lengths related =>
      obtain ⟨hlen, each⟩ := forall_zip_of_zip lengths related hlen
        fun p mem _ same => ih p mem same paired
      exact .and hlen each bools
  | or hlen _ bools ih =>
    cases same with
    | or lengths related =>
      obtain ⟨hlen, each⟩ := forall_zip_of_zip lengths related hlen
        fun p mem _ same => ih p mem same paired
      exact .or hlen each bools
  | compare _ _ applies ihx ihy =>
    cases same with
    | compare samex samey => exact .compare (ihx samex paired) (ihy samey paired) applies
  | arith _ numx _ numy ihx ihy =>
    cases same with
    | arith samex samey => exact .arith (ihx samex paired) numx (ihy samey paired) numy
  | within _ scalar hlen _ comparable ihx ih =>
    cases same with
    | within samex lengths related =>
      obtain ⟨hlen, each⟩ := forall_zip_of_zip lengths related hlen
        fun p mem _ same => ih p mem same paired
      exact .within (ihx samex paired) scalar hlen each comparable

theorem bind_eq_ok_of_alphaEq {pairs : List (String × String)} {scope scope' : Scope}
    {e e' : Expr} {x : Typed} (same : e.AlphaEq pairs e') (paired : scope.Paired pairs scope') :
    e'.bind scope' = .ok x ↔ e.bind scope = .ok x := by
  rw [bind_eq_ok_iff, bind_eq_ok_iff]
  exact ⟨fun h => h.of_alphaEq same.symm paired.symm, fun h => h.of_alphaEq same paired⟩

/-- The name of a lambda's parameter never matters: with another name, which is nowhere in the body,
an expression around the lambda is resolved to the same in every scope, or not at all as before.
The new name may be that of a root member or of a parameter around, and so may the old one. -/
theorem bind_eq_ok_of_renamed (scope : Scope) (frames : List Expr.Frame) (mark : Mark)
    (old new : String) (body : Expr) (fresh : new ∉ body.names) (renamed : Expr)
    (same : renamed.unmarked =
      (Expr.around frames (.lambda mark new (body.rename old new))).unmarked) (x : Typed) :
    renamed.bind scope = .ok x ↔
      (Expr.around frames (.lambda mark old body)).bind scope = .ok x := by
  have differs := (Expr.SameButParams.lambda mark old fresh).around frames
  have noPair : ∀ p ∈ ([] : List (String × String)), p.1 = p.2 :=
    fun p mem => absurd mem List.not_mem_nil
  have paired : scope.Paired [] scope := .refl
  exact (bind_eq_ok_of_unmarked same).trans (bind_eq_ok_of_alphaEq (differs [] noPair) paired)

end Resolution

/-- The body `m.values.any(m => m > 3) or m.tier == 1`, in which a number gets the name of the
modifier around it. -/
def shadowingBody : Expr :=
  .or .none [
    .method .none (.member .none (.ident .none "m") "values") "any"
      [.lambda .none "m" (.compare .none .gt (.ident .none "m") (.literal .none (.int 3)))],
    .compare .none .eq (.member .none (.ident .none "m") "tier") (.literal .none (.int 1))]

/-- The parameter of a question about modifiers may have the name of a member of the item. -/
theorem bind_eq_ok_of_renamed_shadowing :
    "name" ∉ shadowingBody.names ∧ ∃ x,
      (Expr.around [.not .none, .methodArgument .none (.ident .none "mods") "any" [] []]
        (.lambda .none "m" shadowingBody)).bind ⟨Item.catalog, Item.itemSchema, []⟩ = .ok x ∧
      (Expr.around [.not .none, .methodArgument .none (.ident .none "mods") "any" [] []]
        (.lambda .none "name" (shadowingBody.rename "m" "name"))).bind
          ⟨Item.catalog, Item.itemSchema, []⟩ = .ok x := by
  have fresh : "name" ∉ shadowingBody.names := by decide
  obtain ⟨x, bound⟩ := exists_eq_ok (x := (Expr.around
    [.not .none, .methodArgument .none (.ident .none "mods") "any" [] []]
    (.lambda .none "m" shadowingBody)).bind ⟨Item.catalog, Item.itemSchema, []⟩)
    (by decide +kernel)
  exact ⟨fresh, x, bound, (bind_eq_ok_of_renamed _ _ _ _ _ _ fresh _ rfl x).mpr bound⟩

end RecordRules
