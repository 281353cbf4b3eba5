import RecordRules.Bound

namespace RecordRules

/-- A property holds of every expression if it passes from the parts of one to the whole. -/
@[elab_as_elim]
theorem Expr.ind {P : Expr → Prop}
    (literal : ∀ mark value, P (.literal mark value))
    (ident : ∀ mark name, P (.ident mark name))
    (member : ∀ mark target name, P target → P (.member mark target name))
    (call : ∀ mark name args, (∀ e ∈ args, P e) → P (.call mark name args))
    (method : ∀ mark target name args, P target → (∀ e ∈ args, P e) →
      P (.method mark target name args))
    (lambda : ∀ mark param body, P body → P (.lambda mark param body))
    (not : ∀ mark operand, P operand → P (.not mark operand))
    (neg : ∀ mark operand, P operand → P (.neg mark operand))
    (and : ∀ mark operands, (∀ e ∈ operands, P e) → P (.and mark operands))
    (or : ∀ mark operands, (∀ e ∈ operands, P e) → P (.or mark operands))
    (compare : ∀ mark op lhs rhs, P lhs → P rhs → P (.compare mark op lhs rhs))
    (arith : ∀ mark op lhs rhs, P lhs → P rhs → P (.arith mark op lhs rhs))
    (within : ∀ mark needle set, P needle → (∀ e ∈ set, P e) → P (.within mark needle set))
    (e : Expr) : P e :=
  @Expr.rec P (fun es => ∀ e ∈ es, P e) literal ident member call method lambda not neg and or
    compare arith within
    (fun _ h => absurd h List.not_mem_nil)
    (fun _ _ first others e h => by
      rcases List.mem_cons.mp h with rfl | h
      · exact first
      · exact others e h)
    e

/-- A property holds of every resolved expression if it passes from the parts of one to the
whole. -/
@[elab_as_elim]
theorem Bound.ind {P : Bound → Prop}
    (const : ∀ value, P (.const value))
    (root : P .root)
    (param : ∀ slot, P (.param slot))
    (get : ∀ target member args, P target → (∀ e ∈ args, P e) → P (.get target member args))
    (not : ∀ operand, P operand → P (.not operand))
    (neg : ∀ operand, P operand → P (.neg operand))
    (and : ∀ operands, (∀ e ∈ operands, P e) → P (.and operands))
    (or : ∀ operands, (∀ e ∈ operands, P e) → P (.or operands))
    (compare : ∀ op lhs rhs, P lhs → P rhs → P (.compare op lhs rhs))
    (arith : ∀ op lhs rhs, P lhs → P rhs → P (.arith op lhs rhs))
    (within : ∀ needle set, P needle → (∀ e ∈ set, P e) → P (.within needle set))
    (quantify : ∀ quantifier source body, P source → P body → P (.quantify quantifier source body))
    (has : ∀ operand, P operand → P (.has operand))
    (builtin : ∀ function args, (∀ e ∈ args, P e) → P (.builtin function args))
    (matching : ∀ target pattern, P target → P (.matching target pattern))
    (e : Bound) : P e :=
  @Bound.rec P (fun es => ∀ e ∈ es, P e) const root param get not neg and or compare arith within
    quantify has builtin matching
    (fun _ h => absurd h List.not_mem_nil)
    (fun _ _ first others e h => by
      rcases List.mem_cons.mp h with rfl | h
      · exact first
      · exact others e h)
    e

end RecordRules
