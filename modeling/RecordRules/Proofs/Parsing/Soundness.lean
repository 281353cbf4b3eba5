import RecordRules.Proofs.Parsing.PhraseSoundness

namespace RecordRules.Parser

open Grammar
open RecordRules.Expr (HasTree)

variable {n room : Nat}

/-- The parsers for nested parts read them. -/
structure Deeper.Sound (deeper : Deeper) (n room : Nat) : Prop where
  expression : Gives deeper.expression n (Reads (Derives room .expression) HasTree)
  signed : Gives (nested deeper.signed) n (Reads (fun cs tree rest => ∀ {start},
    Symbol ['-'] start cs → Derives room .signed start (.neg .none tree) rest) HasTree)
  negated : Gives (nested deeper.negated) n (Reads (fun cs tree rest => ∀ {start},
    NotSign start cs → Derives room .negated start (.not .none tree) rest) HasTree)

namespace Deeper.Sound

variable {deeper : Deeper} (h : deeper.Sound n room)

include h

theorem signed_gives : Gives (Parser.signed deeper) n (Reads (Derives room .signed) HasTree) := by
  have minus : Gives (character '-') n fun cs _ rest =>
      ∀ start, Text.skip start = cs → Symbol ['-'] start rest := by
    refine (Gives.character '-').imp ?_
    rintro cs u rest rfl start skipped
    exact skipped
  refine (Gives.prefixed minus h.signed (Gives.suffixed h.expression) .neg).imp ?_
  rintro cs e rest ⟨tree, ⟨start, operand, sign, derived, rfl⟩ | derived, same⟩
  · exact ⟨_, derived sign, same⟩
  · exact ⟨tree, .unsigned (derived.of_skip trivial (Text.skip_skip cs).symm), same⟩

theorem product_gives : Gives (product deeper) n (Reads (Derives room .product) HasTree) := by
  refine (Gives.operations Gives.multiplicativeOp h.signed_gives
    (R := Derives room .factors) (fun _ => .noFactor) .factor).imp ?_
  rintro cs e rest ⟨_, ⟨first, mid, others, derived, later, rfl⟩, same⟩
  exact ⟨_, .product derived later, same⟩

theorem sum_gives : Gives (sum deeper) n (Reads (Derives room .sum) HasTree) := by
  refine (Gives.operations Gives.additiveOp h.product_gives
    (R := Derives room .summands) (fun _ => .noSummand) .summand).imp ?_
  rintro cs e rest ⟨_, ⟨first, mid, others, derived, later, rfl⟩, same⟩
  exact ⟨_, .sum derived later, same⟩

/-- What is read after a sum and a sign that compares it. -/
theorem compared_gives (lhs : Expr) (op : CompareOp) : Gives (do
    let rhs ← expecting .value (cut (sum deeper))
    pure (Expr.compare (.over (joined lhs rhs) [lhs, rhs]) op lhs rhs)) n fun cs e rest =>
      ∃ right, Derives room .sum cs right rest ∧
        ∀ {left}, HasTree left lhs → HasTree (.compare .none op left right) e := by
  refine ((h.sum_gives.cut.expecting _).bind fun rhs => Gives.pure _).imp ?_
  rintro cs e rest ⟨rhs, _, ⟨right, derived, hright⟩, rfl, rfl⟩
  exact ⟨right, derived, fun hleft => hleft.compare hright op⟩

/-- What is read after a sum and the sign of membership. -/
theorem within_gives (lhs : Expr) : Gives (do
    let (set, span) ← spanned (expecting .listOfValues (cut (listOfValues deeper.expression)))
    pure (Expr.within (.over ⟨lhs.span.start, span.stop⟩ (lhs :: set)) lhs set)) n fun cs e rest =>
      ∃ trees start stop, Symbol ['['] cs start ∧ Derives room .expressions start trees stop ∧
        Symbol [']'] stop rest ∧ ∀ {left}, HasTree left lhs → HasTree (.within .none left trees) e := by
  refine (((Gives.listOfValues h.expression).cut.expecting _).spanned.bind fun x =>
    Gives.pure (Expr.within (.over ⟨lhs.span.start, x.2.stop⟩ (lhs :: x.1)) lhs x.1)).imp ?_
  rintro cs e rest ⟨⟨set, span⟩, _, ⟨trees, ⟨start, stop, opening, derived, closing⟩, sames⟩, rfl, rfl⟩
  exact ⟨trees, start, stop, opening, derived, closing, fun same => same.within sames⟩

theorem comparison_gives :
    Gives (comparison deeper) n (Reads (Derives room .comparison) HasTree) := by
  -- what may be read after the sum on the left
  let After (lhs : Expr) (mid : List Char) (e : Expr) (rest : List Char) : Prop :=
    ∀ {cs left}, Derives room .sum cs left mid → HasTree left lhs →
      Reads (Derives room .comparison) HasTree cs e rest
  have inSign : Gives (do space; orElse (keyword ['i', 'n']) (keyword ['I', 'N'])) n
      fun cs _ rest => InSign cs rest := .spaced (.words ['i', 'n'] ['I', 'N'])
  have compareSign : Gives (do space; compareOp) n fun cs op rest =>
      ∃ sign, (op, sign) ∈ compareSigns ∧ Symbol sign cs rest := by
    refine .spaced (Gives.compareOp.imp ?_)
    rintro cs op rest ⟨sign, mem, eq⟩ start skipped
    exact ⟨sign, mem, skipped.trans eq⟩
  refine (h.sum_gives.bind (Q := After) fun lhs => (compareSign.opt.bind
    (Q := fun found mid e rest => (∃ op, found = some op ∧ ∃ right, Derives room .sum mid right rest ∧
      ∀ {left}, HasTree left lhs → HasTree (.compare .none op left right) e) ∨
      found = none ∧ After lhs mid e rest) fun found => ?_).imp ?_).imp ?_
  · rcases found with _ | op
    · refine (inSign.opt.bind (Q := fun found mid e rest => (found = some () ∧ ∃ trees start stop,
        Symbol ['['] mid start ∧ Derives room .expressions start trees stop ∧
        Symbol [']'] stop rest ∧ ∀ {left}, HasTree left lhs → HasTree (.within .none left trees) e) ∨
        found = none ∧ e = lhs ∧ rest = mid) fun found => ?_).imp ?_
      · rcases found with _ | u
        · exact (Gives.pure lhs).imp fun mid e rest same => .inr ⟨rfl, same⟩
        · exact (h.within_gives lhs).imp fun mid e rest read => .inl ⟨rfl, read⟩
      · rintro mid e rest ⟨found, list, found?, made⟩
        refine .inr ⟨rfl, fun derived hleft => ?_⟩
        rcases made with ⟨rfl, trees, start, stop, opening, values, closing, same⟩ | ⟨rfl, rfl, rfl⟩
        · obtain ⟨_, -, sign⟩ | ⟨eq, -⟩ := found?
          · exact ⟨_, .within derived sign opening values closing, same hleft⟩
          · cases eq
        · obtain ⟨_, eq, -⟩ | ⟨-, rfl, -⟩ := found?
          · cases eq
          · exact ⟨_, .uncompared derived, hleft⟩
    · exact (h.compared_gives lhs op).imp fun mid e rest read => .inl ⟨op, rfl, read⟩
  · rintro mid e rest ⟨found, start, found?, made⟩ cs left derived hleft
    rcases made with ⟨op, rfl, right, read, same⟩ | ⟨rfl, made⟩
    · obtain ⟨_, eq, sign, mem, symbol⟩ | ⟨eq, -⟩ := found?
      · cases eq
        exact ⟨_, .compare derived mem symbol read, same hleft⟩
      · cases eq
    · obtain ⟨_, eq, -⟩ | ⟨-, rfl, -⟩ := found?
      · cases eq
      · exact made derived hleft
  · rintro cs e rest ⟨lhs, mid, ⟨left, derived, hleft⟩, made⟩
    exact made derived hleft

theorem negated_gives :
    Gives (Parser.negated deeper) n (Reads (Derives room .negated) HasTree) := by
  have mark : Gives (character '!') n fun cs _ rest => cs = ['!'] ++ rest := Gives.character '!'
  have sign := mark.sign ['n', 'o', 't'] ['N', 'O', 'T']
  refine (Gives.prefixed sign h.negated h.comparison_gives .not).imp ?_
  rintro cs e rest ⟨tree, ⟨start, operand, sign, derived, rfl⟩ | derived, same⟩
  · exact ⟨_, derived sign, same⟩
  · exact ⟨tree, .unnegated (derived.of_skip trivial (Text.skip_skip cs).symm), same⟩

theorem conjunction_gives :
    Gives (conjunction deeper) n (Reads (Derives room .conjunction) HasTree) := by
  have sign := Gives.sign (Gives.word (n := n) ['&', '&']) ['a', 'n', 'd'] ['A', 'N', 'D']
  refine (Gives.operands sign h.negated_gives (R := Derives room .conjuncts)
    (fun _ => .noConjunct) .conjunct .and).imp ?_
  rintro cs e rest ⟨_, ⟨first, mid, others, derived, later, rfl⟩, same⟩
  exact ⟨_, .conjunction derived later, same⟩

theorem disjunction_gives :
    Gives (disjunction deeper) n (Reads (Derives room .disjunction) HasTree) := by
  have sign := Gives.sign (Gives.word (n := n) ['|', '|']) ['o', 'r'] ['O', 'R']
  refine (Gives.operands sign h.conjunction_gives (R := Derives room .disjuncts)
    (fun _ => .noDisjunct) .disjunct .or).imp ?_
  rintro cs e rest ⟨_, ⟨first, mid, others, derived, later, rfl⟩, same⟩
  exact ⟨_, .disjunction derived later, same⟩

end Deeper.Sound

theorem expression_gives {deeper : Deeper} (h : deeper.Sound (n + 1) room) :
    Gives (expression deeper) n fun cs e rest =>
      Reads (Derives (room + 1) .expression) HasTree cs e rest ∧ e.height ≤ maxHeight := by
  have inside : Gives (do space; let e ← disjunction deeper; bounded e) (n + 1) fun cs e rest =>
      Reads (Derives (room + 1) .expression) HasTree cs e rest ∧ e.height ≤ maxHeight := by
    refine .spaced ((h.disjunction_gives.bind fun e => Gives.bounded e).imp ?_)
    rintro cs e rest ⟨_, _, ⟨tree, derived, same⟩, rfl, rfl, fits⟩ start rfl
    exact ⟨⟨tree, .expression (derived.of_skip trivial (Text.skip_skip start).symm), same⟩, fits⟩
  exact (Gives.nested fun _ => inside).imp fun _ _ _ given => given.2

/-- With as much room as is left, nested parts are read. -/
theorem deeper_sound (enough : n + room = maxNesting) : (deeper (room + 1)).Sound n room := by
  induction room generalizing n with
  | zero =>
    have full : ¬ n < maxNesting := by omega
    exact ⟨.nested_full full, .nested_full full, .nested_full full⟩
  | succ room ih =>
    have below : (deeper (room + 1)).Sound (n + 1) room := ih (by omega)
    constructor
    · exact (expression_gives below).imp fun _ _ _ given => given.1
    · refine (Gives.nested fun _ => below.signed_gives).imp ?_
      rintro cs e rest ⟨-, tree, derived, same⟩
      exact ⟨tree, fun sign => .negative sign derived, same⟩
    · refine (Gives.nested fun _ => below.negated_gives).imp ?_
      rintro cs e rest ⟨-, tree, derived, same⟩
      exact ⟨tree, fun sign => .negation sign derived, same⟩

end RecordRules.Parser
