import RecordRules.Proofs.Answers
import RecordRules.Proofs.Evaluation
import RecordRules.Proofs.MarkIndependence
import RecordRules.Proofs.Parsing.Embedding
import RecordRules.Proofs.Parsing.Exactness
import RecordRules.Regex.Library

namespace RecordRules

open Grammar

variable {ο σ : Type}

/-- A truth value that is read back as one. -/
theorem ofExcept_asBool (value : Bool) :
    (Reading.ofExcept (Value.bool value : Value ο).asBool : Reading ο Bool) = pure value :=
  rfl

theorem ite_pure_bool (value : Bool) :
    (if value then pure true else pure false : Reading ο Bool) = pure value := by
  cases value <;> rfl

/-- The first outcome, unless it is this value: then the second one. -/
def firstUnless (value : Bool) (first second : Except Stop Bool) : Except Stop Bool :=
  match first with
  | .ok value' => if value' = value then second else .ok value'
  | .error reason => .error reason

namespace Predicate

theorem test_not (operand : Bound) (record : ο) :
    (Predicate.mk (.not operand)).test record = (!·) <$> (Predicate.mk operand).test record := by
  rw [test_eq, test_eq]
  simp only [Bound.eval, ofExcept_asBool, map_eq_pure_bind, bind_assoc, pure_bind]

theorem test_and (first second : Bound) (record : ο) :
    (Predicate.mk (.and [first, second])).test record = (do
      if ← (Predicate.mk first).test record then (Predicate.mk second).test record
      else pure false) := by
  rw [test_eq, test_eq, test_eq]
  simp only [Bound.eval, evalAnd, ofExcept_asBool, map_eq_pure_bind, bind_assoc, pure_bind,
    bind_pure, ite_pure_bool]

theorem test_or (first second : Bound) (record : ο) :
    (Predicate.mk (.or [first, second])).test record = (do
      if ← (Predicate.mk first).test record then pure true
      else (Predicate.mk second).test record) := by
  rw [test_eq, test_eq, test_eq]
  simp only [Bound.eval, evalOr, ofExcept_asBool, map_eq_pure_bind, bind_assoc, pure_bind,
    bind_pure, ite_pure_bool]

/-- What comes of the rule on the record. -/
def outcome (predicate : Predicate) (records : Records ο σ) (state : σ) (record : ο) :
    Except Stop Bool :=
  ((predicate.test record).run records state).1

theorem outcome_not (records : Records ο σ) (state : σ) (record : ο) (operand : Bound) :
    (Predicate.mk (.not operand)).outcome records state record =
      ((Predicate.mk operand).outcome records state record).map (!·) := by
  unfold outcome
  rw [test_not, map_eq_pure_bind, Reading.run_bind]
  generalize ((Predicate.mk operand).test record).run records state = reply
  obtain ⟨result, after⟩ := reply
  cases result <;> rfl

section Steady

variable {records : Records ο σ} {answers : Answers ο} {state : σ}

theorem outcome_of_steady (steady : records.Steady answers state) (predicate : Predicate)
    (record : ο) : predicate.outcome records state record =
      predicate.outcome (.ofAnswers answers) () record :=
  (Reading.run_of_steady steady _).1

theorem outcome_and (steady : records.Steady answers state) (first second : Bound) (record : ο) :
    (Predicate.mk (.and [first, second])).outcome records state record =
      firstUnless true ((Predicate.mk first).outcome records state record)
        ((Predicate.mk second).outcome records state record) := by
  -- the second operand starts where the first one left the records, which makes no difference here
  rw [outcome_of_steady steady, outcome_of_steady steady, outcome_of_steady steady]
  unfold outcome
  rw [test_and, Reading.run_bind]
  generalize ((Predicate.mk first).test record).run (.ofAnswers answers) () = reply
  obtain ⟨result, ⟨⟩⟩ := reply
  cases result with
  | error reason => rfl
  | ok value => cases value <;> rfl

theorem outcome_or (steady : records.Steady answers state) (first second : Bound) (record : ο) :
    (Predicate.mk (.or [first, second])).outcome records state record =
      firstUnless false ((Predicate.mk first).outcome records state record)
        ((Predicate.mk second).outcome records state record) := by
  rw [outcome_of_steady steady, outcome_of_steady steady, outcome_of_steady steady]
  unfold outcome
  rw [test_or, Reading.run_bind]
  generalize ((Predicate.mk first).test record).run (.ofAnswers answers) () = reply
  obtain ⟨result, ⟨⟩⟩ := reply
  cases result with
  | error reason => rfl
  | ok value => cases value <;> rfl

end Steady

end Predicate

section Compile

variable [Patterns] {catalog : Catalog} {root : Schema} {room : Nat} {t u : String}
  {b c : Bound}

/-- The text is a phrase in which so many nested parts may be open, and what has its tree, whatever
the marks, is resolved to the bound tree of a rule. -/
def Means (catalog : Catalog) (root : Schema) (room : Nat) (text : String) (bound : Bound) : Prop :=
  ∃ tree, Phrase room text tree ∧ ∀ e, e.unmarked = tree →
    Resolves ⟨catalog, root, []⟩ e ⟨bound, .bool⟩

/-- The text is refused because it nests too deep or is too high. -/
def TooDeep (catalog : Catalog) (root : Schema) (text : String) : Prop :=
  ∃ expected offset,
    compile catalog root text = .error ⟨.malformed (.unexpected expected), some offset, text⟩ ∧
      (.lessNesting ∈ expected ∨ .lessHeight ∈ expected)

/-- Two expressions that are resolved to truth values, as operands of a connective. -/
theorem resolves_pair {first second : Expr} (h : Resolves ⟨catalog, root, []⟩ first ⟨b, .bool⟩)
    (h' : Resolves ⟨catalog, root, []⟩ second ⟨c, .bool⟩) :
    ∀ p ∈ [first, second].zip [(⟨b, .bool⟩ : Typed), ⟨c, .bool⟩],
      Resolves ⟨catalog, root, []⟩ p.1 p.2 := by
  intro p mem
  rcases List.mem_pair.mp mem with rfl | rfl
  · exact h
  · exact h'

namespace Means

theorem of_compile {predicate : Predicate} (compiled : compile catalog root t = .ok predicate) :
    Means catalog root Parser.maxNesting t predicate.bound := by
  obtain ⟨-, e, parsed, resolved⟩ := compile_eq_ok_iff.mp compiled
  obtain ⟨stop, taken⟩ := parse_eq_ok.mp parsed
  obtain ⟨⟨⟨tree, rest, derived, atEnd, same⟩, -⟩, -⟩ := Parser.rule_gives rfl taken
  refine ⟨tree, ⟨rest, derived, atEnd⟩, fun e' eq => ?_⟩
  exact resolved.of_unmarked (eq.trans same.unmarked.symm)

theorem compile (means : Means catalog root room t b) :
    TooDeep catalog root t ∨ compile catalog root t = .ok ⟨b⟩ := by
  obtain ⟨tree, phrase, resolves⟩ := means
  have notBlank := phrase.not_allBlank
  obtain ⟨rest, derived, atEnd⟩ := phrase
  -- the phrase may take more room than the parser has, so either limit may be hit
  have nesting : Expectation.lessNesting ∈ [.lessNesting, .lessHeight] := by decide
  have height : Expectation.lessHeight ∈ [.lessNesting, .lessHeight] := by decide
  rcases parse_within derived atEnd (.inr nesting) (.inr height) with
    ⟨e, parsed, same⟩ | ⟨error, failed, limit, mem, named⟩
  · exact .inr (compile_eq_ok_iff.mpr ⟨notBlank, e, parsed, resolves e same.unmarked⟩)
  · refine .inl ⟨error.expected, error.offset, ?_, ?_⟩
    · rw [RecordRules.compile, if_neg notBlank, failed]
    · rcases List.mem_pair.mp mem with rfl | rfl
      · exact .inl named
      · exact .inr named

theorem not (means : Means catalog root room t b) :
    Means catalog root (room + 2) ("not (" ++ t ++ ")") (.not b) := by
  obtain ⟨tree, phrase, resolves⟩ := means
  refine ⟨_, phrase.not, fun e eq => ?_⟩
  obtain ⟨mark, operand, rfl, same⟩ := Expr.eq_not_of_unmarked eq
  exact .not (resolves operand same)

theorem and (means : Means catalog root room t b) (means' : Means catalog root room u c) :
    Means catalog root (room + 1) ("(" ++ t ++ ") and (" ++ u ++ ")") (.and [b, c]) := by
  obtain ⟨tree, phrase, resolves⟩ := means
  obtain ⟨tree', phrase', resolves'⟩ := means'
  refine ⟨_, phrase.and phrase', fun e eq => ?_⟩
  obtain ⟨mark, operands, rfl, same⟩ := Expr.eq_and_of_unmarked eq
  obtain ⟨first, second, rfl, same, same'⟩ := eq_pair_of_unmarkedEach same
  exact .and rfl (resolves_pair (resolves first same) (resolves' second same')) (by simp)

theorem or (means : Means catalog root room t b) (means' : Means catalog root room u c) :
    Means catalog root (room + 1) ("(" ++ t ++ ") or (" ++ u ++ ")") (.or [b, c]) := by
  obtain ⟨tree, phrase, resolves⟩ := means
  obtain ⟨tree', phrase', resolves'⟩ := means'
  refine ⟨_, phrase.or phrase', fun e eq => ?_⟩
  obtain ⟨mark, operands, rfl, same⟩ := Expr.eq_or_of_unmarked eq
  obtain ⟨first, second, rfl, same, same'⟩ := eq_pair_of_unmarkedEach same
  exact .or rfl (resolves_pair (resolves first same) (resolves' second same')) (by simp)

end Means

/-- The text is refused for its depth, or it compiles, and on steady records the rule comes to what
is expected. -/
def ComesTo (catalog : Catalog) (root : Schema) (text : String)
    (expected : ∀ {ο σ : Type}, Records ο σ → σ → ο → Except Stop Bool) : Prop :=
  TooDeep catalog root text ∨ ∃ predicate, compile catalog root text = .ok predicate ∧
    ∀ {ο σ : Type} {records : Records ο σ} {answers : Answers ο} {state : σ},
      records.Steady answers state → ∀ record,
        predicate.outcome records state record = expected records state record

theorem Means.comesTo {expected : ∀ {ο σ : Type}, Records ο σ → σ → ο → Except Stop Bool}
    (means : Means catalog root room t b)
    (outcome : ∀ {ο σ : Type} {records : Records ο σ} {answers : Answers ο} {state : σ},
      records.Steady answers state → ∀ record,
        (Predicate.mk b).outcome records state record = expected records state record) :
    ComesTo catalog root t expected := by
  rcases means.compile with deep | compiled
  · exact .inl deep
  · exact .inr ⟨⟨b⟩, compiled, outcome⟩

/-- Rules that compile may be negated and joined as texts, unless what is written then goes too
deep: the outcome is what the connective makes of the outcomes of the rules. -/
theorem compile_combined {p q : Predicate} (ht : compile catalog root t = .ok p)
    (hu : compile catalog root u = .ok q) :
    ComesTo catalog root ("not (" ++ t ++ ")") (fun records state record =>
        (p.outcome records state record).map (!·)) ∧
      ComesTo catalog root ("(" ++ t ++ ") and (" ++ u ++ ")") (fun records state record =>
        firstUnless true (p.outcome records state record) (q.outcome records state record)) ∧
      ComesTo catalog root ("(" ++ t ++ ") or (" ++ u ++ ")") (fun records state record =>
        firstUnless false (p.outcome records state record) (q.outcome records state record)) ∧
      ComesTo catalog root ("not (not (" ++ t ++ "))") p.outcome := by
  have first := Means.of_compile ht
  have second := Means.of_compile hu
  have twice : "not (not (" ++ t ++ "))" = "not (" ++ ("not (" ++ t ++ ")") ++ ")" := by
    rw [← String.toList_inj]
    simp
  refine ⟨?_, ?_, ?_, ?_⟩
  · exact first.not.comesTo fun _ record => Predicate.outcome_not _ _ record _
  · exact (first.and second).comesTo fun steady => Predicate.outcome_and steady _ _
  · exact (first.or second).comesTo fun steady => Predicate.outcome_or steady _ _
  · rw [twice]
    refine first.not.not.comesTo fun {_ _ records _ state} _ record => ?_
    rw [Predicate.outcome_not, Predicate.outcome_not]
    cases p.outcome records state record with
    | error reason => rfl
    | ok value => exact congrArg Except.ok (Bool.not_not value)

end Compile

/-- The weights of an inner box are asked about where there is one. -/
theorem Box.compile_combined_inner :
    ∃ p q both, compile catalog schema "has(inner)" = .ok p ∧
      compile catalog schema "inner.weights.len() > 0" = .ok q ∧
      compile catalog schema
        ("(" ++ "has(inner)" ++ ") and (" ++ "inner.weights.len() > 0" ++ ")") = .ok both ∧
      ∀ box, both.outcome (.ofAnswers answer) () box =
        firstUnless true (p.outcome (.ofAnswers answer) () box)
          (q.outcome (.ofAnswers answer) () box) := by
  obtain ⟨p, ht⟩ : ∃ p, compile catalog schema "has(inner)" = .ok p :=
    exists_eq_ok (by decide +kernel)
  obtain ⟨q, hu⟩ : ∃ q, compile catalog schema "inner.weights.len() > 0" = .ok q :=
    exists_eq_ok (by decide +kernel)
  have accepted : (compile catalog schema
      ("(" ++ "has(inner)" ++ ") and (" ++ "inner.weights.len() > 0" ++ ")")).isOk := by
    decide +kernel
  rcases (compile_combined ht hu).2.1 with ⟨_, _, refused, -⟩ | ⟨both, compiled, outcome⟩
  · rw [refused] at accepted
    cases accepted
  · exact ⟨p, q, both, ht, hu, compiled, outcome (Records.steady_ofAnswers answer)⟩

end RecordRules
