import Mathlib.Logic.Relation
import RecordRules.Proofs.Answers
import RecordRules.Proofs.NameResolution

namespace RecordRules

variable {ο σ : Type}

inductive Connective where
  | and
  | or
deriving DecidableEq

namespace Connective

/-- The connective that is this one of negated operands, negated. -/
def dual : Connective → Connective
  | and => or
  | or => and

/-- The outcome of an operand after which the next one is evaluated. -/
def neutral : Connective → Bool
  | and => true
  | or => false

def join : Connective → List Bound → Bound
  | and => .and
  | or => .or

/-- The first outcome that is not the neutral one. -/
def chain (c : Connective) : List (Reading ο Bool) → Reading ο Bool
  | [] => pure c.neutral
  | x :: rest => do
    let holds ← x
    if holds = c.neutral then chain c rest else pure holds

theorem neutral_dual (c : Connective) : c.dual.neutral = !c.neutral := by
  cases c <;> rfl

theorem chain_append (c : Connective) (xs ys : List (Reading ο Bool)) :
    c.chain (xs ++ ys) = (do
      let holds ← c.chain xs
      if holds = c.neutral then c.chain ys else pure holds) := by
  induction xs with
  | nil => simp [chain]
  | cons x rest ih =>
    rw [List.cons_append, chain, chain, bind_assoc]
    refine congrArg _ (funext fun holds => ?_)
    by_cases go : holds = c.neutral
    · rw [if_pos go, if_pos go, ih]
    · rw [if_neg go, if_neg go, pure_bind, if_neg go]

theorem chain_singleton (c : Connective) (x : Reading ο Bool) : c.chain [x] = x := by
  have same (holds : Bool) :
      (if holds = c.neutral then pure c.neutral else pure holds : Reading ο Bool) = pure holds := by
    by_cases go : holds = c.neutral
    · rw [if_pos go, go]
    · rw [if_neg go]
  simp only [chain, same, bind_pure]

/-- A chain stands for its operands in a chain of the same kind. -/
theorem chain_splice (c : Connective) (before xs after : List (Reading ο Bool)) :
    c.chain (before ++ c.chain xs :: after) = c.chain (before ++ (xs ++ after)) := by
  have inner : c.chain (c.chain xs :: after) = c.chain (xs ++ after) :=
    (c.chain_append xs after).symm
  rw [chain_append, inner, ← chain_append]

/-- Negated operands are negated in the dual chain. -/
theorem chain_dual (c : Connective) (xs : List (Reading ο Bool)) :
    c.dual.chain (xs.map ((!·) <$> ·)) = (!·) <$> c.chain xs := by
  induction xs with
  | nil => rw [List.map_nil, chain, chain, neutral_dual, map_pure]
  | cons x rest ih =>
    rw [List.map_cons, chain, chain, bind_map_left, map_bind, ih, neutral_dual]
    refine congrArg _ (funext fun holds => ?_)
    by_cases go : holds = c.neutral
    · rw [if_pos go, if_pos (congrArg _ go)]
    · have stays : ¬ (!holds) = !c.neutral := fun same => go (Bool.not_inj same)
      rw [if_neg go, if_neg stays, map_pure]

end Connective

namespace Bound

theorem condition_bool (x : Reading ο Bool) : Reading.condition (.bool <$> x) = x := by
  rw [Reading.condition, bind_map_left]
  exact bind_pure x

section

variable (root : ο) (params : List (Value ο))

/-- What the operand of a connective comes to. -/
def truth (e : Bound) : Reading ο Bool :=
  (e.eval root params).condition

theorem eval_not (e : Bound) :
    (not e).eval root params = .bool <$> (!·) <$> e.truth root params := by
  rw [eval, truth, Reading.condition, map_bind, map_bind]
  refine congrArg _ (funext fun v => ?_)
  rw [map_eq_pure_bind, map_eq_pure_bind, bind_assoc]
  rfl

theorem evalAnd_eq (es : List Bound) :
    evalAnd root es params = Connective.and.chain (es.map (truth root params)) := by
  induction es with
  | nil => rfl
  | cons e rest ih =>
    rw [evalAnd, List.map_cons, Connective.chain, truth, Reading.condition, bind_assoc, ih]
    refine congrArg _ (funext fun v => congrArg _ (funext fun holds => ?_))
    cases holds <;> rfl

theorem evalOr_eq (es : List Bound) :
    evalOr root es params = Connective.or.chain (es.map (truth root params)) := by
  induction es with
  | nil => rfl
  | cons e rest ih =>
    rw [evalOr, List.map_cons, Connective.chain, truth, Reading.condition, bind_assoc, ih]
    refine congrArg _ (funext fun v => congrArg _ (funext fun holds => ?_))
    cases holds <;> rfl

theorem eval_join (c : Connective) (es : List Bound) :
    (c.join es).eval root params = .bool <$> c.chain (es.map (truth root params)) := by
  cases c with
  | and => rw [Connective.join, eval, evalAnd_eq]
  | or => rw [Connective.join, eval, evalOr_eq]

theorem truth_not (e : Bound) : (not e).truth root params = (!·) <$> e.truth root params := by
  rw [truth, eval_not, condition_bool]

theorem truth_join (c : Connective) (es : List Bound) :
    (c.join es).truth root params = c.chain (es.map (truth root params)) := by
  rw [truth, eval_join, condition_bool]

theorem truth_not_not (e : Bound) : (not (not e)).truth root params = e.truth root params := by
  have twice : (fun holds => !!holds) = id := funext Bool.not_not
  rw [truth_not, truth_not, Functor.map_map, twice, id_map]

end

/-- An expression with a hole in the place of one of its parts. -/
inductive Frame where
  | target (member : MemberId) (args : List Bound)
  | argument (object : Bound) (member : MemberId) (before after : List Bound)
  | not
  | neg
  | operand (connective : Connective) (before after : List Bound)
  | compareLeft (op : CompareOp) (rhs : Bound)
  | compareRight (op : CompareOp) (lhs : Bound)
  | arithLeft (op : ArithOp) (rhs : Bound)
  | arithRight (op : ArithOp) (lhs : Bound)
  | needle (set : List Bound)
  | candidate (value : Bound) (before after : List Bound)
  | source (quantifier : Quantifier) (condition : Bound)
  | body (quantifier : Quantifier) (list : Bound)
  | has
  | input (function : Builtin) (before after : List Bound)
  | matching (pattern : Pattern)

def Frame.fill (e : Bound) : Frame → Bound
  | target member args => .get e member args
  | argument object member before after => .get object member (before ++ e :: after)
  | not => .not e
  | neg => .neg e
  | operand connective before after => connective.join (before ++ e :: after)
  | compareLeft op rhs => .compare op e rhs
  | compareRight op lhs => .compare op lhs e
  | arithLeft op rhs => .arith op e rhs
  | arithRight op lhs => .arith op lhs e
  | needle set => .within e set
  | candidate value before after => .within value (before ++ e :: after)
  | source quantifier condition => .quantify quantifier e condition
  | body quantifier list => .quantify quantifier list e
  | has => .has e
  | input function before after => .builtin function (before ++ e :: after)
  | matching pattern => .matching e pattern

section

variable {root : ο} {e e' : Bound}

theorem evalEach_replaced (same : e.eval root = e'.eval root) (before after : List Bound) :
    evalEach root (before ++ e :: after) = evalEach root (before ++ e' :: after) := by
  funext params
  induction before with
  | nil => rw [List.nil_append, List.nil_append, evalEach, evalEach, same]
  | cons first rest ih => rw [List.cons_append, List.cons_append, evalEach, evalEach, ih]

theorem evalWithin_replaced (same : e.eval root = e'.eval root) (v : Value ο)
    (before after : List Bound) :
    evalWithin root v (before ++ e :: after) = evalWithin root v (before ++ e' :: after) := by
  funext params
  induction before with
  | nil => rw [List.nil_append, List.nil_append, evalWithin, evalWithin, same]
  | cons first rest ih => rw [List.cons_append, List.cons_append, evalWithin, evalWithin, ih]

/-- Only the truth of an operand matters to a connective. -/
theorem eval_join_replaced {params : List (Value ο)}
    (same : e.truth root params = e'.truth root params) (c : Connective)
    (before after : List Bound) :
    (c.join (before ++ e :: after)).eval root params =
      (c.join (before ++ e' :: after)).eval root params := by
  rw [eval_join, eval_join, List.map_append, List.map_append, List.map_cons, List.map_cons, same]

/-- Parts that evaluate alike may stand for each other. -/
theorem eval_fill (same : e.eval root = e'.eval root) (frame : Frame) :
    (frame.fill e).eval root = (frame.fill e').eval root := by
  funext params
  cases frame with
  | target | neg | compareLeft | compareRight | arithLeft | arithRight | needle | source | body
  | has | matching => simp only [Frame.fill, eval, same]
  | argument target member before after =>
    simp only [Frame.fill, eval, evalEach_replaced same]
  | not => simp only [Frame.fill, eval, same]
  | operand connective before after =>
    exact eval_join_replaced (by rw [truth, truth, same]) connective before after
  | candidate needle before after => simp only [Frame.fill, eval, evalWithin_replaced same]
  | input function before after => simp only [Frame.fill, eval, evalEach_replaced same]

end

/-- One use of a law of the connectives, in any place of an expression. -/
inductive Law : Bound → Bound → Prop
  | deMorgan (c : Connective) (operands : List Bound) :
    Law (.not (c.join operands)) (c.dual.join (operands.map .not))
  | notNot (operand : Bound) : Law (.not (.not (.not operand))) (.not operand)
  | joinNotNot (c : Connective) (before : List Bound) (operand : Bound) (after : List Bound) :
    Law (c.join (before ++ .not (.not operand) :: after)) (c.join (before ++ operand :: after))
  | splice (c : Connective) (before operands after : List Bound) :
    Law (c.join (before ++ c.join operands :: after)) (c.join (before ++ (operands ++ after)))
  | inside (frame : Frame) {e e' : Bound} : Law e e' → Law (frame.fill e) (frame.fill e')

theorem Law.eval {e e' : Bound} (law : Law e e') (root : ο) : e.eval root = e'.eval root := by
  induction law with
  | deMorgan c operands =>
    funext params
    have negated : (operands.map .not).map (truth root params) =
        (operands.map (truth root params)).map ((!·) <$> ·) := by
      rw [List.map_map, List.map_map]
      exact congrArg (List.map · operands) (funext fun e => truth_not root params e)
    rw [eval_not, truth_join, eval_join, negated, Connective.chain_dual]
  | notNot operand =>
    funext params
    rw [eval_not, eval_not, truth_not_not]
  | joinNotNot c before operand after =>
    funext params
    exact eval_join_replaced (truth_not_not root params operand) c before after
  | splice c before operands after =>
    funext params
    rw [eval_join, eval_join, List.map_append, List.map_cons, truth_join, Connective.chain_splice,
      List.map_append, List.map_append]
  | inside frame _ ih => exact eval_fill ih frame

end Bound

namespace Predicate

theorem test_eq_truth (e : Bound) (record : ο) : (mk e).test record = e.truth record [] :=
  test_eq ⟨e⟩ record

/-- One use of a law of the connectives in a rule, on top of which a double negation may be left
out too. -/
inductive Law : Predicate → Predicate → Prop
  | anywhere {e e' : Bound} : Bound.Law e e' → Law ⟨e⟩ ⟨e'⟩
  | notNot (e : Bound) : Law ⟨.not (.not e)⟩ ⟨e⟩

/-- Rules that laws of the connectives turn into each other are the same computation. -/
theorem test_of_laws {p q : Predicate} (laws : Relation.EqvGen Law p q) (record : ο) :
    p.test record = q.test record := by
  induction laws with
  | rel p q law =>
    cases law with
    | anywhere law => rw [test_eq_truth, test_eq_truth, Bound.truth, Bound.truth, law.eval record]
    | notNot e => rw [test_eq_truth, test_eq_truth, Bound.truth_not_not]
  | refl => rfl
  | symm _ _ _ ih => exact ih.symm
  | trans _ _ _ _ _ ih ih' => exact ih.trans ih'

/-- It makes no difference how a chain of three operands is grouped. -/
theorem laws_grouped (c : Connective) (x y z : Bound) :
    Law ⟨c.join [c.join [x, y], z]⟩ ⟨c.join [x, y, z]⟩ ∧
      Law ⟨c.join [x, c.join [y, z]]⟩ ⟨c.join [x, y, z]⟩ :=
  ⟨.anywhere (.splice c [] [x, y] [z]), .anywhere (.splice c [x] [y, z] [])⟩

theorem test_join_cons (c : Connective) (e : Bound) (rest : List Bound) (record : ο) :
    (mk (c.join (e :: rest))).test record = (do
      let holds ← (mk e).test record
      if holds = c.neutral then (mk (c.join rest)).test record else pure holds) := by
  rw [test_eq_truth, test_eq_truth, test_eq_truth, Bound.truth_join, Bound.truth_join,
    List.map_cons, Connective.chain]

theorem test_join_singleton (c : Connective) (e : Bound) (record : ο) :
    (mk (c.join [e])).test record = (mk e).test record := by
  rw [test_eq_truth, test_eq_truth, Bound.truth_join, List.map_singleton,
    Connective.chain_singleton]

/-- The operands come to the value one after the other, which leads from one state to another; these
are the calls with their answers. -/
inductive Pass (records : Records ο σ) (record : ο) (value : Bool) :
    List Bound → σ → σ → List (Exchange ο) → Prop
  | nil {state} : Pass records record value [] state state []
  | cons {e rest state mid after later} :
    ((mk e).test record).run records state = (.ok value, mid) →
    Pass records record value rest mid after later →
    Pass records record value (e :: rest) state after
      (((mk e).test record).transcript records state ++ later)

/-- The operand decides a chain of operands: all before it come to the neutral outcome, and it does
not, unless it is the last one. The chain ends as it does, and asks no more than that. -/
structure Decides (records : Records ο σ) (state : σ) (record : ο) (c : Connective)
    (before : List Bound) (operand : Bound) (after : List Bound) (mid : σ)
    (earlier : List (Exchange ο)) : Prop where
  pass : Pass records record c.neutral before state mid earlier
  stops : after = [] ∨ (((mk operand).test record).run records mid).1 ≠ .ok c.neutral
  run : ((mk (c.join (before ++ operand :: after))).test record).run records state =
    ((mk operand).test record).run records mid
  transcript : ((mk (c.join (before ++ operand :: after))).test record).transcript records state =
    earlier ++ ((mk operand).test record).transcript records mid

theorem Decides.cons {records : Records ο σ} {state mid last : σ} {record : ο} {c : Connective}
    {e operand : Bound} {before after : List Bound} {earlier : List (Exchange ο)}
    (neutral : ((Predicate.mk e).test record).run records state = (.ok c.neutral, mid))
    (h : Decides records mid record c before operand after last earlier) :
    Decides records state record c (e :: before) operand after last
      (((Predicate.mk e).test record).transcript records state ++ earlier) := by
  refine ⟨.cons neutral h.pass, h.stops, ?_, ?_⟩
  · rw [List.cons_append, test_join_cons, Reading.run_bind, neutral]
    exact (congrArg (Reading.run records · mid) (if_pos rfl)).trans h.run
  · rw [List.cons_append, test_join_cons, Reading.transcript_bind, neutral, List.append_assoc,
      ← h.transcript]
    exact congrArg (_ ++ Reading.transcript records · mid) (if_pos rfl)

/-- The first operand decides if it does not come to the neutral outcome. -/
theorem decides_first {records : Records ο σ} {state : σ} {record : ο} {c : Connective}
    {operand : Bound} {after : List Bound}
    (stops : (((mk operand).test record).run records state).1 ≠ .ok c.neutral) :
    Decides records state record c [] operand after state [] := by
  have other {holds : Bool} {mid : σ}
      (run : ((mk operand).test record).run records state = (.ok holds, mid)) :
      holds ≠ c.neutral := by
    rintro rfl
    rw [run] at stops
    exact stops rfl
  refine ⟨.nil, .inr stops, ?_, ?_⟩
  · rw [List.nil_append, test_join_cons, Reading.run_bind]
    rcases run : ((mk operand).test record).run records state with ⟨_ | holds, mid⟩
    · rfl
    · exact congrArg (Reading.run records · mid) (if_neg (other run))
  · rw [List.nil_append, List.nil_append, test_join_cons, Reading.transcript_bind]
    refine Eq.trans (congrArg _ ?_) (List.append_nil _)
    rcases run : ((mk operand).test record).run records state with ⟨_ | holds, mid⟩
    · rfl
    · exact congrArg (Reading.transcript records · mid) (if_neg (other run))

theorem exists_decides (records : Records ο σ) (record : ο) (c : Connective) (first : Bound)
    (rest : List Bound) (state : σ) :
    ∃ before operand after mid earlier, first :: rest = before ++ operand :: after ∧
      Decides records state record c before operand after mid earlier := by
  induction rest generalizing first state with
  | nil =>
    refine ⟨[], first, [], state, [], rfl, .nil, .inl rfl, ?_, ?_⟩
    · rw [List.nil_append, test_join_singleton]
    · rw [List.nil_append, List.nil_append, test_join_singleton]
  | cons second rest ih =>
    by_cases neutral : (((mk first).test record).run records state).1 = .ok c.neutral
    · have run : ((mk first).test record).run records state =
          (.ok c.neutral, (((mk first).test record).run records state).2) := Prod.ext neutral rfl
      obtain ⟨before, operand, after, mid, earlier, eq, decides⟩ :=
        ih second (((mk first).test record).run records state).2
      refine ⟨first :: before, operand, after, mid, _, ?_, decides.cons run⟩
      rw [eq, List.cons_append]
    · exact ⟨[], first, second :: rest, state, [], rfl, decides_first neutral⟩

end Predicate

/-- The laws of the connectives hold whatever records answer: a rule that they turn into another one
puts the same calls in the same order and ends in the same way, and so do the groupings of a chain.
A chain comes to what its first operand does that does not come to the neutral outcome, or else to
what its last operand does; no operand after that one is evaluated. -/
theorem Connective.test_laws :
    (∀ p q : Predicate, Relation.EqvGen Predicate.Law p q → ∀ record : ο,
      p.test record = q.test record) ∧
    (∀ (c : Connective) (x y z : Bound) (record : ο),
      (Predicate.mk (c.join [c.join [x, y], z])).test record =
          (Predicate.mk (c.join [x, y, z])).test record ∧
        (Predicate.mk (c.join [x, c.join [y, z]])).test record =
          (Predicate.mk (c.join [x, y, z])).test record) ∧
    ∀ (c : Connective) (first : Bound) (rest : List Bound) (records : Records ο σ) (state : σ)
      (record : ο), ∃ before operand after mid earlier,
        first :: rest = before ++ operand :: after ∧
          Predicate.Decides records state record c before operand after mid earlier := by
  refine ⟨fun p q laws record => Predicate.test_of_laws laws record, fun c x y z record => ?_,
    fun c first rest records state record => ?_⟩
  · obtain ⟨left, right⟩ := Predicate.laws_grouped c x y z
    exact ⟨Predicate.test_of_laws (.rel _ _ left) record,
      Predicate.test_of_laws (.rel _ _ right) record⟩
  · exact Predicate.exists_decides records record c first rest state

namespace Box

/-- There is an inner box. -/
def nested : Bound :=
  .has (.get .root ⟨1⟩ [])

/-- One of the weights is greater than 2. -/
def heavy : Bound :=
  .quantify .any (.get .root ⟨0⟩ []) (.compare .gt (.param 0) (.const (.int 2)))

/-- The weights of the inner box are more than one. -/
def innerSeveral : Bound :=
  .compare .gt (.builtin .len [.get (.get .root ⟨1⟩ []) ⟨0⟩ []]) (.const (.int 1))

/-- The last operand is a fault if there is no inner box, and is not reached then. -/
theorem test_laws_nested :
    Relation.EqvGen Predicate.Law
        ⟨.not (.and [nested, .and [.not (.not heavy), innerSeveral]])⟩
        ⟨.or [.not nested, .not heavy, .not innerSeveral]⟩ ∧
      ∀ box : Box,
        (Predicate.mk (.not (.and [nested, .and [.not (.not heavy), innerSeveral]]))).test box =
          (Predicate.mk (.or [.not nested, .not heavy, .not innerSeveral])).test box := by
  have spliced : Bound.Law (.not (.and [nested, .and [.not (.not heavy), innerSeveral]]))
      (.not (.and [nested, .not (.not heavy), innerSeveral])) :=
    .inside .not (.splice .and [nested] [.not (.not heavy), innerSeveral] [])
  have reduced : Bound.Law (.not (.and [nested, .not (.not heavy), innerSeveral]))
      (.not (.and [nested, heavy, innerSeveral])) :=
    .inside .not (.joinNotNot .and [nested] heavy [innerSeveral])
  have dual : Bound.Law (.not (.and [nested, heavy, innerSeveral]))
      (.or [.not nested, .not heavy, .not innerSeveral]) :=
    .deMorgan .and [nested, heavy, innerSeveral]
  have laws := Relation.EqvGen.trans _ _ _ (.rel _ _ (Predicate.Law.anywhere spliced))
    (.trans _ _ _ (.rel _ _ (.anywhere reduced)) (.rel _ _ (.anywhere dual)))
  exact ⟨laws, (Connective.test_laws (σ := Unit)).1 _ _ laws⟩

end Box

end RecordRules
