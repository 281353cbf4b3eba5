import RecordRules.Expr.Written
import RecordRules.Proofs.Parsing.Marks

namespace RecordRules

open Grammar
open RecordRules.Parser (digitsValue)

/-- No literal of a rule is a negative integer. -/
def Literal.NotNegative : Literal → Prop
  | int value => 0 ≤ value.toInt
  | _ => True

/-- The text of the literal denotes it again. -/
def Literal.Readable : Literal → Prop
  | bool _ => True
  | int value => 0 ≤ value.toInt
  | float value => ∃ whole fraction, (float value).written = whole ++ '.' :: fraction ∧
      Digits whole ∧ Digits fraction ∧
      Float.ofScientific (digitsValue (whole ++ fraction)) true fraction.length = value
  | string value => ∀ c ∈ value.toList, Text.escaped c = [c] ∨
      ∃ letter, (letter, c) ∈ escapes ∧ Text.escaped c = ['\\', letter]

/-- The expression is of the shapes that rules have, with such literals. -/
inductive Expr.WellFormed (accepted : Literal → Prop) : Expr → Prop
  | literal {mark value} : accepted value → WellFormed accepted (.literal mark value)
  | ident {mark name} : IsIdentifier name.toList → IsFree name →
    WellFormed accepted (.ident mark name)
  | member {mark target name} : WellFormed accepted target → IsIdentifier name.toList →
    WellFormed accepted (.member mark target name)
  | call {mark name args} : IsIdentifier name.toList → IsFree name →
    (∀ arg ∈ args, WellFormed accepted arg) → WellFormed accepted (.call mark name args)
  | callLambda {mark name lambdaMark param body} : IsIdentifier name.toList → IsFree name →
    IsIdentifier param.toList → WellFormed accepted body →
    WellFormed accepted (.call mark name [.lambda lambdaMark param body])
  | method {mark target name args} : WellFormed accepted target → IsIdentifier name.toList →
    (∀ arg ∈ args, WellFormed accepted arg) → WellFormed accepted (.method mark target name args)
  | methodLambda {mark target name lambdaMark param body} : WellFormed accepted target →
    IsIdentifier name.toList → IsIdentifier param.toList → WellFormed accepted body →
    WellFormed accepted (.method mark target name [.lambda lambdaMark param body])
  | not {mark operand} : WellFormed accepted operand → WellFormed accepted (.not mark operand)
  | neg {mark operand} : WellFormed accepted operand → WellFormed accepted (.neg mark operand)
  | and {mark operands} : 2 ≤ operands.length → (∀ e ∈ operands, WellFormed accepted e) →
    WellFormed accepted (.and mark operands)
  | or {mark operands} : 2 ≤ operands.length → (∀ e ∈ operands, WellFormed accepted e) →
    WellFormed accepted (.or mark operands)
  | compare {mark op lhs rhs} : WellFormed accepted lhs → WellFormed accepted rhs →
    WellFormed accepted (.compare mark op lhs rhs)
  | arith {mark op lhs rhs} : WellFormed accepted lhs → WellFormed accepted rhs →
    WellFormed accepted (.arith mark op lhs rhs)
  | within {mark needle set} : WellFormed accepted needle → set ≠ [] →
    (∀ e ∈ set, WellFormed accepted e) → WellFormed accepted (.within mark needle set)

namespace Expr.WellFormed

variable {accepted : Literal → Prop}

/-- Whether an expression is well-formed does not depend on its marks. -/
theorem of_unmarked {tree e : Expr} (h : tree.WellFormed accepted) (same : e.unmarked = tree) :
    e.WellFormed accepted := by
  have eachOf {trees es : List Expr}
      (ih : ∀ tree ∈ trees, ∀ {e : Expr}, e.unmarked = tree → e.WellFormed accepted)
      (same : unmarkedEach es = trees) : ∀ e ∈ es, e.WellFormed accepted := by
    rw [unmarkedEach_eq_map] at same
    intro e mem
    exact ih e.unmarked (same ▸ List.mem_map_of_mem mem) rfl
  induction h generalizing e with
  | literal value =>
    obtain ⟨_, rfl⟩ := eq_literal_of_unmarked same
    exact .literal value
  | ident identifier free =>
    obtain ⟨_, rfl⟩ := eq_ident_of_unmarked same
    exact .ident identifier free
  | member _ identifier ih =>
    obtain ⟨_, target, rfl, eq⟩ := eq_member_of_unmarked same
    exact .member (ih eq) identifier
  | call identifier free _ ih =>
    obtain ⟨_, args, rfl, eq⟩ := eq_call_of_unmarked same
    exact .call identifier free (eachOf ih eq)
  | callLambda identifier free param _ ih =>
    obtain ⟨_, args, rfl, eqs⟩ := eq_call_of_unmarked same
    obtain ⟨_, body, rfl, eq⟩ := eq_lambda_of_unmarkedEach eqs
    exact .callLambda identifier free param (ih eq)
  | method _ identifier _ ih ihs =>
    obtain ⟨_, target, args, rfl, eq, eqs⟩ := eq_method_of_unmarked same
    exact .method (ih eq) identifier (eachOf ihs eqs)
  | methodLambda _ identifier param _ ih ih' =>
    obtain ⟨_, target, args, rfl, eq, eqs⟩ := eq_method_of_unmarked same
    obtain ⟨_, body, rfl, eq'⟩ := eq_lambda_of_unmarkedEach eqs
    exact .methodLambda (ih eq) identifier param (ih' eq')
  | not _ ih =>
    obtain ⟨_, operand, rfl, eq⟩ := eq_not_of_unmarked same
    exact .not (ih eq)
  | neg _ ih =>
    obtain ⟨_, operand, rfl, eq⟩ := eq_neg_of_unmarked same
    exact .neg (ih eq)
  | and two _ ih =>
    obtain ⟨_, operands, rfl, eq⟩ := eq_and_of_unmarked same
    rw [← eq, length_unmarkedEach] at two
    exact .and two (eachOf ih eq)
  | or two _ ih =>
    obtain ⟨_, operands, rfl, eq⟩ := eq_or_of_unmarked same
    rw [← eq, length_unmarkedEach] at two
    exact .or two (eachOf ih eq)
  | compare _ _ ih ih' =>
    obtain ⟨_, lhs, rhs, rfl, eq, eq'⟩ := eq_compare_of_unmarked same
    exact .compare (ih eq) (ih' eq')
  | arith _ _ ih ih' =>
    obtain ⟨_, lhs, rhs, rfl, eq, eq'⟩ := eq_arith_of_unmarked same
    exact .arith (ih eq) (ih' eq')
  | within _ some _ ih ihs =>
    obtain ⟨_, needle, set, rfl, eq, eqs⟩ := eq_within_of_unmarked same
    refine .within (ih eq) ?_ (eachOf ihs eqs)
    rintro rfl
    exact some eqs.symm

/-- The arguments of a call are expressions, or one lambda. -/
def Arguments (accepted : Literal → Prop) (args : List Expr) : Prop :=
  (∀ arg ∈ args, arg.WellFormed accepted) ∨ ∃ mark param body,
    args = [.lambda mark param body] ∧ IsIdentifier param.toList ∧ body.WellFormed accepted

theorem call_of_arguments {mark : Mark} {name : String} {args : List Expr}
    (identifier : IsIdentifier name.toList) (free : IsFree name) (h : Arguments accepted args) :
    (Expr.call mark name args).WellFormed accepted := by
  rcases h with each | ⟨lambdaMark, param, body, rfl, paramIdentifier, body⟩
  · exact .call identifier free each
  · exact .callLambda identifier free paramIdentifier body

theorem method_of_arguments {mark : Mark} {e : Expr} {name : String} {args : List Expr}
    (target : e.WellFormed accepted) (identifier : IsIdentifier name.toList)
    (h : Arguments accepted args) : (Expr.method mark e name args).WellFormed accepted := by
  rcases h with each | ⟨lambdaMark, param, body, rfl, paramIdentifier, body⟩
  · exact .method target identifier each
  · exact .methodLambda target identifier paramIdentifier body

theorem flat {make : Mark → List Expr → Expr}
    (build : ∀ {operands}, 2 ≤ operands.length → (∀ e ∈ operands, e.WellFormed accepted) →
      (make .none operands).WellFormed accepted)
    {first : Expr} {others : List Expr} (hfirst : first.WellFormed accepted)
    (hothers : ∀ e ∈ others, e.WellFormed accepted) :
    (Grammar.flat make first others).WellFormed accepted := by
  cases others with
  | nil => exact hfirst
  | cons second others =>
    have two : 2 ≤ (first :: second :: others).length := by simp
    exact build two (List.forall_mem_cons.mpr ⟨hfirst, hothers⟩)

theorem grouped {first : Expr} {others : List (ArithOp × Expr)}
    (hfirst : first.WellFormed accepted) (hothers : ∀ x ∈ others, x.2.WellFormed accepted) :
    (Grammar.grouped first others).WellFormed accepted := by
  induction others generalizing first with
  | nil => exact hfirst
  | cons operation others ih =>
    obtain ⟨operand, later⟩ := List.forall_mem_cons.mp hothers
    exact ih (.arith hfirst operand) later

theorem suffixed {target : Expr} {suffixes : List Suffix} (htarget : target.WellFormed accepted)
    (hsuffixes : ∀ suffix ∈ suffixes, IsIdentifier suffix.name.toList ∧
      ∀ args ∈ suffix.args, Arguments accepted args) :
    (suffixes.foldl Suffix.on target).WellFormed accepted := by
  induction suffixes generalizing target with
  | nil => exact htarget
  | cons suffix suffixes ih =>
    obtain ⟨⟨identifier, arguments⟩, later⟩ := List.forall_mem_cons.mp hsuffixes
    refine ih ?_ later
    obtain ⟨name, _ | args⟩ := suffix
    · exact .member htarget identifier
    · exact method_of_arguments htarget identifier (arguments args rfl)

end Expr.WellFormed

namespace Grammar

open Expr.WellFormed (Arguments)

/-- The trees that phrases of the kind have. -/
def Nonterminal.WellFormed (accepted : Literal → Prop) : (p : Nonterminal) → p.Tree → Prop
  | disjuncts | conjuncts => fun trees => ∀ e ∈ trees, e.WellFormed accepted
  | summands | factors => fun trees => ∀ x ∈ trees, x.2.WellFormed accepted
  | suffixes => fun trees => ∀ suffix ∈ trees, IsIdentifier suffix.name.toList ∧
      ∀ args ∈ suffix.args, Arguments accepted args
  | arguments => fun trees => Arguments accepted trees
  | expressions => fun trees => trees ≠ [] ∧ ∀ e ∈ trees, e.WellFormed accepted
  | expression | disjunction | conjunction | negated | comparison | sum | product | signed
  | suffixed | primary => fun tree => tree.WellFormed accepted

/-- What the grammar derives is well-formed. -/
theorem Derives.wellFormed {room : Nat} {p : Nonterminal} {cs rest : List Char} {tree : p.Tree}
    (h : Derives room p cs tree rest) : p.WellFormed Literal.NotNegative tree := by
  induction h with
  | expression _ ih | unnegated _ ih | uncompared _ ih | unsigned _ ih => exact ih
  | disjunction _ _ ih ih' => exact .flat .or ih ih'
  | conjunction _ _ ih ih' => exact .flat .and ih ih'
  | noDisjunct | noConjunct | noSummand | noFactor | noSuffix =>
    exact fun _ mem => absurd mem List.not_mem_nil
  | disjunct _ _ _ ih ih' | conjunct _ _ _ ih ih' => exact List.forall_mem_cons.mpr ⟨ih, ih'⟩
  | negation _ _ ih => exact .not ih
  | negative _ _ ih => exact .neg ih
  | compare _ _ _ _ ih ih' => exact .compare ih ih'
  | within _ _ _ _ _ ih ih' => exact .within ih ih'.1 ih'.2
  | sum _ _ ih ih' | product _ _ ih ih' => exact .grouped ih ih'
  | summand _ _ _ _ ih ih' | factor _ _ _ _ ih ih' => exact List.forall_mem_cons.mpr ⟨ih, ih'⟩
  | suffixed _ _ ih ih' => exact .suffixed ih ih'
  | member _ name _ ih =>
    exact List.forall_mem_cons.mpr ⟨⟨name.identifier, fun _ mem => by cases mem⟩, ih⟩
  | method _ name _ _ ih ih' =>
    refine List.forall_mem_cons.mpr ⟨⟨name.identifier, fun args mem => ?_⟩, ih'⟩
    cases mem
    exact ih
  | group _ _ _ ih => exact ih
  | string => exact .literal trivial
  | int _ value =>
    refine .literal ?_
    rw [Literal.NotNegative, value]
    exact Int.natCast_nonneg _
  | float => exact .literal trivial
  | bool => exact .literal trivial
  | ident name free => exact .ident name.identifier free
  | call name free _ ih => exact Expr.WellFormed.call_of_arguments name.identifier free ih
  | noArguments => exact .inl fun _ mem => absurd mem List.not_mem_nil
  | lambda _ param _ _ _ ih => exact .inr ⟨_, _, _, rfl, param.identifier, ih⟩
  | arguments _ _ _ ih => exact .inl ih.2
  | lastExpression _ ih => exact ⟨List.cons_ne_nil _ _, List.forall_mem_singleton.mpr ih⟩
  | moreExpressions _ _ _ ih ih' =>
    exact ⟨List.cons_ne_nil _ _, List.forall_mem_cons.mpr ⟨ih, ih'.2⟩⟩

end Grammar

end RecordRules
