import Mathlib.Data.List.Forall2
import RecordRules.Proofs.Induction
import RecordRules.Proofs.Parsing.Grammar

namespace RecordRules

open Grammar

theorem unmarkedEach_eq_map (es : List Expr) : unmarkedEach es = es.map Expr.unmarked := by
  induction es with
  | nil => rfl
  | cons e rest ih => rw [unmarkedEach, ih, List.map_cons]

theorem length_unmarkedEach (es : List Expr) : (unmarkedEach es).length = es.length := by
  rw [unmarkedEach_eq_map, List.length_map]

/-! What is of some kind without its marks is of that kind with them. -/

section Unmarked

variable {e tree tree' : Expr} {trees : List Expr} {mark : Mark} {name : String}

theorem Expr.eq_literal_of_unmarked {value : Literal} (h : e.unmarked = .literal mark value) :
    ∃ mark', e = .literal mark' value := by
  cases e with
  | literal =>
    cases h
    exact ⟨_, rfl⟩
  | _ => cases h

theorem Expr.eq_ident_of_unmarked (h : e.unmarked = .ident mark name) :
    ∃ mark', e = .ident mark' name := by
  cases e with
  | ident =>
    cases h
    exact ⟨_, rfl⟩
  | _ => cases h

theorem Expr.eq_member_of_unmarked (h : e.unmarked = .member mark tree name) :
    ∃ mark' target, e = .member mark' target name ∧ target.unmarked = tree := by
  cases e with
  | member =>
    cases h
    exact ⟨_, _, rfl, rfl⟩
  | _ => cases h

theorem Expr.eq_call_of_unmarked (h : e.unmarked = .call mark name trees) :
    ∃ mark' args, e = .call mark' name args ∧ unmarkedEach args = trees := by
  cases e with
  | call =>
    cases h
    exact ⟨_, _, rfl, rfl⟩
  | _ => cases h

theorem Expr.eq_method_of_unmarked (h : e.unmarked = .method mark tree name trees) :
    ∃ mark' target args, e = .method mark' target name args ∧ target.unmarked = tree ∧
      unmarkedEach args = trees := by
  cases e with
  | method =>
    cases h
    exact ⟨_, _, _, rfl, rfl, rfl⟩
  | _ => cases h

theorem Expr.eq_lambda_of_unmarked (h : e.unmarked = .lambda mark name tree) :
    ∃ mark' body, e = .lambda mark' name body ∧ body.unmarked = tree := by
  cases e with
  | lambda =>
    cases h
    exact ⟨_, _, rfl, rfl⟩
  | _ => cases h

theorem Expr.eq_not_of_unmarked (h : e.unmarked = .not mark tree) :
    ∃ mark' operand, e = .not mark' operand ∧ operand.unmarked = tree := by
  cases e with
  | not =>
    cases h
    exact ⟨_, _, rfl, rfl⟩
  | _ => cases h

theorem Expr.eq_neg_of_unmarked (h : e.unmarked = .neg mark tree) :
    ∃ mark' operand, e = .neg mark' operand ∧ operand.unmarked = tree := by
  cases e with
  | neg =>
    cases h
    exact ⟨_, _, rfl, rfl⟩
  | _ => cases h

theorem Expr.eq_and_of_unmarked (h : e.unmarked = .and mark trees) :
    ∃ mark' operands, e = .and mark' operands ∧ unmarkedEach operands = trees := by
  cases e with
  | and =>
    cases h
    exact ⟨_, _, rfl, rfl⟩
  | _ => cases h

theorem Expr.eq_or_of_unmarked (h : e.unmarked = .or mark trees) :
    ∃ mark' operands, e = .or mark' operands ∧ unmarkedEach operands = trees := by
  cases e with
  | or =>
    cases h
    exact ⟨_, _, rfl, rfl⟩
  | _ => cases h

theorem Expr.eq_compare_of_unmarked {op : CompareOp}
    (h : e.unmarked = .compare mark op tree tree') :
    ∃ mark' lhs rhs,
      e = .compare mark' op lhs rhs ∧ lhs.unmarked = tree ∧ rhs.unmarked = tree' := by
  cases e with
  | compare =>
    cases h
    exact ⟨_, _, _, rfl, rfl, rfl⟩
  | _ => cases h

theorem Expr.eq_arith_of_unmarked {op : ArithOp} (h : e.unmarked = .arith mark op tree tree') :
    ∃ mark' lhs rhs, e = .arith mark' op lhs rhs ∧ lhs.unmarked = tree ∧ rhs.unmarked = tree' := by
  cases e with
  | arith =>
    cases h
    exact ⟨_, _, _, rfl, rfl, rfl⟩
  | _ => cases h

theorem Expr.eq_within_of_unmarked (h : e.unmarked = .within mark tree trees) :
    ∃ mark' needle set, e = .within mark' needle set ∧ needle.unmarked = tree ∧
      unmarkedEach set = trees := by
  cases e with
  | within =>
    cases h
    exact ⟨_, _, _, rfl, rfl, rfl⟩
  | _ => cases h

theorem eq_nil_of_unmarkedEach {es : List Expr} (h : unmarkedEach es = []) : es = [] := by
  rwa [unmarkedEach_eq_map, List.map_eq_nil_iff] at h

theorem eq_singleton_of_unmarkedEach {es : List Expr} (h : unmarkedEach es = [tree]) :
    ∃ e, es = [e] ∧ e.unmarked = tree := by
  rwa [unmarkedEach_eq_map, List.map_eq_singleton_iff] at h

theorem eq_pair_of_unmarkedEach {es : List Expr} (h : unmarkedEach es = [tree, tree']) :
    ∃ e e', es = [e, e'] ∧ e.unmarked = tree ∧ e'.unmarked = tree' := by
  rw [unmarkedEach_eq_map, List.map_eq_cons_iff] at h
  obtain ⟨e, others, rfl, eq, h⟩ := h
  obtain ⟨e', rfl, eq'⟩ := List.map_eq_singleton_iff.mp h
  exact ⟨e, e', rfl, eq, eq'⟩

theorem eq_lambda_of_unmarkedEach {es : List Expr}
    (h : unmarkedEach es = [.lambda mark name tree]) :
    ∃ mark' body, es = [.lambda mark' name body] ∧ body.unmarked = tree := by
  obtain ⟨e, rfl, eq⟩ := eq_singleton_of_unmarkedEach h
  obtain ⟨mark', body, rfl, same⟩ := Expr.eq_lambda_of_unmarked eq
  exact ⟨mark', body, rfl, same⟩

end Unmarked

theorem Expr.greatestDepth_unmarked {es : List Expr}
    (h : ∀ e ∈ es, e.unmarked.depth = e.depth) :
    greatestDepth (unmarkedEach es) = greatestDepth es := by
  induction es with
  | nil => rfl
  | cons e rest ih =>
    obtain ⟨first, others⟩ := List.forall_mem_cons.mp h
    rw [unmarkedEach, greatestDepth, greatestDepth, first, ih others]

/-- Marks have no part in the depth. -/
theorem Expr.depth_unmarked (e : Expr) : e.unmarked.depth = e.depth := by
  induction e using Expr.ind with
  | literal | ident => rfl
  | member mark target name ih => simp only [unmarked, depth, ih]
  | call mark name args ih => simp only [unmarked, depth, greatestDepth_unmarked ih]
  | method mark target name args ih ihs =>
    simp only [unmarked, depth, ih, greatestDepth_unmarked ihs]
  | lambda mark param body ih => simp only [unmarked, depth, ih]
  | not mark operand ih | neg mark operand ih => simp only [unmarked, depth, ih]
  | and mark operands ih | or mark operands ih =>
    simp only [unmarked, depth, greatestDepth_unmarked ih]
  | compare mark op lhs rhs ihl ihr | arith mark op lhs rhs ihl ihr =>
    simp only [unmarked, depth, ihl, ihr]
  | within mark needle set ih ihs => simp only [unmarked, depth, ih, greatestDepth_unmarked ihs]

theorem Expr.depth_le_greatestDepth {e : Expr} {es : List Expr} (h : e ∈ es) :
    e.depth ≤ greatestDepth es := by
  induction es with
  | nil => cases h
  | cons first rest ih =>
    rw [greatestDepth]
    rcases List.mem_cons.mp h with rfl | h
    · exact Nat.le_max_left _ _
    · exact Nat.le_trans (ih h) (Nat.le_max_right _ _)

theorem Grammar.depth_le_grouped (first : Expr) (others : List (ArithOp × Expr)) :
    first.depth ≤ (grouped first others).depth := by
  induction others generalizing first with
  | nil => exact Nat.le_refl _
  | cons operation others ih =>
    have lhs : first.depth ≤ (Expr.arith .none operation.1 first operation.2).depth := by
      rw [Expr.depth]
      omega
    exact Nat.le_trans lhs (ih _)

theorem Grammar.depth_le_grouped_of_mem (first : Expr) {others : List (ArithOp × Expr)}
    {operation : ArithOp × Expr} (mem : operation ∈ others) :
    operation.2.depth ≤ (grouped first others).depth := by
  induction others generalizing first with
  | nil => cases mem
  | cons head others ih =>
    rcases List.mem_cons.mp mem with rfl | mem
    · have rhs : operation.2.depth ≤ (Expr.arith .none operation.1 first operation.2).depth := by
        rw [Expr.depth]
        omega
      exact Nat.le_trans rhs (depth_le_grouped _ others)
    · exact ih _ mem

theorem Grammar.depth_le_on (target : Expr) (suffix : Suffix) :
    target.depth ≤ (suffix.on target).depth := by
  obtain ⟨name, _ | args⟩ := suffix
  · rw [Suffix.on, Expr.depth]
    omega
  · rw [Suffix.on, Expr.depth]
    omega

theorem Grammar.depth_le_foldl_on (target : Expr) (suffixes : List Suffix) :
    target.depth ≤ (suffixes.foldl Suffix.on target).depth := by
  induction suffixes generalizing target with
  | nil => exact Nat.le_refl _
  | cons suffix suffixes ih => exact Nat.le_trans (depth_le_on target suffix) (ih _)

theorem Grammar.depth_le_flat {make : Mark → List Expr → Expr}
    (depth : ∀ mark es, (make mark es).depth = 1 + Expr.greatestDepth es) (first : Expr)
    (others : List Expr) : first.depth ≤ (flat make first others).depth ∧
      ∀ e ∈ others, e.depth ≤ (flat make first others).depth := by
  cases others with
  | nil => exact ⟨Nat.le_refl _, fun e mem => by cases mem⟩
  | cons head others =>
    have deep {e : Expr} (mem : e ∈ first :: head :: others) :
        e.depth ≤ (make .none (first :: head :: others)).depth := by
      have le := Expr.depth_le_greatestDepth mem
      rw [depth]
      omega
    exact ⟨deep List.mem_cons_self, fun e mem => deep (List.mem_cons_of_mem first mem)⟩

theorem Expr.depth_eq (e : Expr) : e.depth = 1 + greatestDepth e.parts := by
  cases e with
  | literal | ident => rfl
  | member | lambda | not | neg => simp only [depth, parts, greatestDepth, Nat.max_zero]
  | call | and | or => rfl
  | method | within => simp only [depth, parts, greatestDepth]
  | compare | arith => simp only [depth, parts, greatestDepth, Nat.max_zero]

/-- The height that is noted at a node is its depth, and so it is at all nodes below. -/
inductive Expr.Measured : Expr → Prop
  | node {e : Expr} : e.height = e.depth → (∀ part ∈ e.parts, Measured part) → Measured e

theorem Expr.Measured.height {e : Expr} (h : e.Measured) : e.height = e.depth := by
  cases h with
  | node height _ => exact height

theorem Expr.Measured.parts {e : Expr} (h : e.Measured) : ∀ part ∈ e.parts, part.Measured := by
  cases h with
  | node _ parts => exact parts

theorem Expr.greatestDepth_eq {es : List Expr} (h : ∀ e ∈ es, e.Measured) :
    (es.map Expr.height).foldr max 0 = greatestDepth es := by
  induction es with
  | nil => rfl
  | cons e rest ih =>
    obtain ⟨first, others⟩ := List.forall_mem_cons.mp h
    rw [List.map_cons, List.foldr_cons, ih others, first.height, greatestDepth]

/-- A mark over measured parts has the right height. -/
theorem Expr.Measured.over {span : Span} {e : Expr} (mark : e.mark = .over span e.parts)
    (parts : ∀ part ∈ e.parts, part.Measured) : e.Measured := by
  have height : e.height = 1 + greatestDepth e.parts := by
    rw [Expr.height, mark, Mark.over, greatestDepth_eq parts]
  exact .node (height.trans e.depth_eq.symm) parts

/-- But for its marks the expression is the tree, and the heights that are noted are right. -/
structure Expr.HasTree (tree e : Expr) : Prop where
  unmarked : e.unmarked = tree
  measured : e.Measured

namespace Expr.HasTree

variable {span : Span} {tree e : Expr} {trees es : List Expr}

theorem height (h : HasTree tree e) : e.height = tree.depth := by
  rw [h.measured.height, ← h.unmarked, e.depth_unmarked]

theorem unmarkedEach_eq (h : List.Forall₂ HasTree trees es) : unmarkedEach es = trees := by
  induction h with
  | nil => rfl
  | cons first _ ih => rw [unmarkedEach, first.unmarked, ih]

theorem measuredEach (h : List.Forall₂ HasTree trees es) : ∀ e ∈ es, e.Measured := by
  induction h with
  | nil => exact fun _ mem => absurd mem List.not_mem_nil
  | cons first _ ih => exact List.forall_mem_cons.mpr ⟨first.measured, ih⟩

theorem measuredOne (h : HasTree tree e) : ∀ part ∈ [e], part.Measured :=
  measuredEach (.cons h .nil)

theorem measuredTwo {tree' e' : Expr} (h : HasTree tree e) (h' : HasTree tree' e') :
    ∀ part ∈ [e, e'], part.Measured :=
  measuredEach (.cons h (.cons h' .nil))

theorem literal (value : Literal) :
    HasTree (.literal .none value) (.literal (.over span []) value) :=
  ⟨rfl, .over rfl (measuredEach .nil)⟩

theorem ident (name : String) : HasTree (.ident .none name) (.ident (.over span []) name) :=
  ⟨rfl, .over rfl (measuredEach .nil)⟩

theorem member (h : HasTree tree e) (name : String) :
    HasTree (.member .none tree name) (.member (.over span [e]) e name) :=
  ⟨by rw [Expr.unmarked, h.unmarked], .over rfl h.measuredOne⟩

theorem call (h : List.Forall₂ HasTree trees es) (name : String) :
    HasTree (.call .none name trees) (.call (.over span es) name es) :=
  ⟨by rw [Expr.unmarked, unmarkedEach_eq h], .over rfl (measuredEach h)⟩

theorem method (h : HasTree tree e) (hs : List.Forall₂ HasTree trees es) (name : String) :
    HasTree (.method .none tree name trees) (.method (.over span (e :: es)) e name es) := by
  refine ⟨by rw [Expr.unmarked, h.unmarked, unmarkedEach_eq hs], ?_⟩
  exact .over rfl (measuredEach (.cons h hs))

theorem lambda (h : HasTree tree e) (param : String) :
    HasTree (.lambda .none param tree) (.lambda (.over span [e]) param e) :=
  ⟨by rw [Expr.unmarked, h.unmarked], .over rfl h.measuredOne⟩

theorem not (h : HasTree tree e) : HasTree (.not .none tree) (.not (.over span [e]) e) :=
  ⟨by rw [Expr.unmarked, h.unmarked], .over rfl h.measuredOne⟩

theorem neg (h : HasTree tree e) : HasTree (.neg .none tree) (.neg (.over span [e]) e) :=
  ⟨by rw [Expr.unmarked, h.unmarked], .over rfl h.measuredOne⟩

theorem and (h : List.Forall₂ HasTree trees es) :
    HasTree (.and .none trees) (.and (.over span es) es) :=
  ⟨by rw [Expr.unmarked, unmarkedEach_eq h], .over rfl (measuredEach h)⟩

theorem or (h : List.Forall₂ HasTree trees es) :
    HasTree (.or .none trees) (.or (.over span es) es) :=
  ⟨by rw [Expr.unmarked, unmarkedEach_eq h], .over rfl (measuredEach h)⟩

theorem compare {tree' e' : Expr} (h : HasTree tree e) (h' : HasTree tree' e') (op : CompareOp) :
    HasTree (.compare .none op tree tree') (.compare (.over span [e, e']) op e e') :=
  ⟨by rw [Expr.unmarked, h.unmarked, h'.unmarked], .over rfl (h.measuredTwo h')⟩

theorem arith {tree' e' : Expr} (h : HasTree tree e) (h' : HasTree tree' e') (op : ArithOp) :
    HasTree (.arith .none op tree tree') (.arith (.over span [e, e']) op e e') :=
  ⟨by rw [Expr.unmarked, h.unmarked, h'.unmarked], .over rfl (h.measuredTwo h')⟩

theorem within (h : HasTree tree e) (hs : List.Forall₂ HasTree trees es) :
    HasTree (.within .none tree trees) (.within (.over span (e :: es)) e es) := by
  refine ⟨by rw [Expr.unmarked, h.unmarked, unmarkedEach_eq hs], ?_⟩
  exact .over rfl (measuredEach (.cons h hs))

/-- The operands that are connected have one flat tree. -/
theorem connected {make : Mark → List Expr → Expr}
    (build : ∀ {trees es span}, List.Forall₂ HasTree trees es →
      HasTree (make .none trees) (make (.over span es) es))
    (h : HasTree tree e) (hs : List.Forall₂ HasTree trees es) :
    HasTree (flat make tree trees) (Parser.connected make e es) := by
  cases hs with
  | nil => exact h
  | cons head tail =>
    rw [Parser.connected, List.getLast?_cons]
    exact build (.cons h (.cons head tail))

end Expr.HasTree

/-- The operation is the same, and its operand has the tree. -/
structure Grammar.HasOperand (tree operation : ArithOp × Expr) : Prop where
  op : operation.1 = tree.1
  operand : Expr.HasTree tree.2 operation.2

/-- The name is the same, and the arguments have the trees. -/
structure Grammar.HasSuffix (suffix : Suffix) (parts : String × Option (List Expr)) : Prop where
  name : suffix.name = parts.1
  args : Option.Rel (List.Forall₂ Expr.HasTree) suffix.args parts.2

end RecordRules
