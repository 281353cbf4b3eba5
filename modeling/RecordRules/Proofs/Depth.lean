import Mathlib.Logic.Relation
import RecordRules.Proofs.Parsing.Marks
import RecordRules.Proofs.Resolves

namespace RecordRules

namespace Bound

mutual

/-- The number of expressions on the longest way from this one down to a leaf. The record itself is
a leaf. -/
def depth : Bound → Nat
  | const _ | root | param _ => 1
  | get target _ args => 1 + max target.depth (greatestDepth args)
  | not operand | neg operand | has operand => 1 + operand.depth
  | and operands | or operands => 1 + greatestDepth operands
  | compare _ lhs rhs | arith _ lhs rhs => 1 + max lhs.depth rhs.depth
  | within needle set => 1 + max needle.depth (greatestDepth set)
  | quantify _ source body => 1 + max source.depth body.depth
  | builtin _ args => 1 + greatestDepth args
  | matching target _ => 1 + target.depth

def greatestDepth : List Bound → Nat
  | [] => 0
  | e :: rest => max e.depth (greatestDepth rest)

end

theorem depth_pos (e : Bound) : 0 < e.depth := by
  cases e <;> simp only [depth] <;> omega

theorem depth_le_greatestDepth {e : Bound} {es : List Bound} (h : e ∈ es) :
    e.depth ≤ greatestDepth es := by
  induction es with
  | nil => cases h
  | cons first rest ih =>
    rw [greatestDepth]
    rcases List.mem_cons.mp h with rfl | mem
    · exact Nat.le_max_left _ _
    · exact Nat.le_trans (ih mem) (Nat.le_max_right _ _)

/-- The opposite of a number that is written in the rule is a number again. -/
theorem depth_negated (e : Bound) : e.negated.depth ≤ 1 + e.depth := by
  unfold negated
  split
  · split
    · exact Nat.le_add_right 1 _
    · exact Nat.le_refl _
  · exact Nat.le_add_right 1 _
  · exact Nat.le_refl _

theorem greatestDepth_map_bound {es : List Expr} {xs : List Typed} (hlen : es.length = xs.length)
    (h : ∀ p ∈ es.zip xs, p.2.bound.depth ≤ p.1.depth + 1) :
    greatestDepth (xs.map Typed.bound) ≤ Expr.greatestDepth es + 1 := by
  induction es generalizing xs with
  | nil =>
    obtain rfl := List.eq_nil_of_length_eq_zero hlen.symm
    exact Nat.zero_le _
  | cons e rest ih =>
    cases xs with
    | nil => cases hlen
    | cons x xs =>
      obtain ⟨first, others⟩ := List.forall_mem_cons.mp h
      have deepest := ih (Nat.succ.inj hlen) others
      simp only [List.map_cons, greatestDepth, Expr.greatestDepth] at first ⊢
      omega

end Bound

/-- An expression is resolved to one that is at most one level deeper, since the record to which
a name refers is no part of the text. -/
theorem Resolves.depth_le [Patterns] {scope : Scope} {e : Expr} {x : Typed}
    (h : Resolves scope e x) : x.bound.depth ≤ e.depth + 1 := by
  induction h with
  | literal | param => exact Nat.le_add_right 1 _
  | rootField => exact Nat.le_refl _
  | field _ _ _ ih =>
    simp only [Bound.depth, Bound.greatestDepth, Expr.depth] at ih ⊢
    omega
  | rootCall _ _ hlen _ _ ih =>
    have deepest := Bound.greatestDepth_map_bound hlen ih
    simp only [Bound.depth, Expr.depth]
    omega
  | has _ _ _ ih | abs _ _ _ ih =>
    simp only [Bound.depth, Bound.greatestDepth, Expr.depth, Expr.greatestDepth]
    omega
  | choice _ _ _ _ _ _ ihx ihy =>
    simp only [Bound.depth, Bound.greatestDepth, Expr.depth, Expr.greatestDepth]
    omega
  | methodCall _ _ _ hlen _ _ iht ih =>
    have deepest := Bound.greatestDepth_map_bound hlen ih
    simp only [Bound.depth, Expr.depth] at iht ⊢
    omega
  | stringProperty _ _ ih | listLength _ ih | matching _ _ ih =>
    simp only [Bound.depth, Bound.greatestDepth, Expr.depth, Expr.greatestDepth] at ih ⊢
    omega
  | stringTest _ _ _ ih iha | listContains _ _ _ _ ih iha | quantified _ _ _ ih iha =>
    simp only [Bound.depth, Bound.greatestDepth, Expr.depth, Expr.greatestDepth] at ih iha ⊢
    omega
  | not _ ih =>
    simp only [Bound.depth, Expr.depth] at ih ⊢
    omega
  | @neg _ _ _ x _ _ ih =>
    have opposite := x.bound.depth_negated
    simp only [Expr.depth]
    omega
  | and hlen _ _ ih | or hlen _ _ ih =>
    have deepest := Bound.greatestDepth_map_bound hlen ih
    simp only [Bound.depth, Expr.depth]
    omega
  | compare _ _ _ ihx ihy | arith _ _ _ _ ihx ihy =>
    simp only [Bound.depth, Expr.depth]
    omega
  | within _ _ hlen _ _ ihx ih =>
    have deepest := Bound.greatestDepth_map_bound hlen ih
    simp only [Bound.depth, Expr.depth]
    omega

/-- The expression is the whole, or a part of it, or a part of a part, and so on. -/
def Expr.IsIn (node e : Expr) : Prop :=
  Relation.ReflTransGen (fun part whole => part ∈ whole.parts) node e

theorem Expr.Measured.isIn {node e : Expr} (h : e.Measured) (isIn : node.IsIn e) :
    node.Measured := by
  induction isIn with
  | refl => exact h
  | tail _ mem ih => exact ih (h.parts _ mem)

end RecordRules
