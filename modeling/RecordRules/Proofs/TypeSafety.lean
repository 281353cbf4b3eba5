import RecordRules.Proofs.Soundness
import RecordRules.Regex.Library

namespace RecordRules

/-- A compiled rule is safe on records of its schema, whichever way incomparable values are
compared. -/
theorem Predicate.testBy_agrees [Patterns] {ο : Type} {catalog : Catalog} {root : Schema}
    {text : String} {predicate : Predicate} {obeys : ο → Schema → Prop} {record : ο}
    {other : CompareOp → Value ο → Value ο → Except Stop Bool}
    (compiled : compile catalog root text = .ok predicate) (hr : obeys record root)
    (alike : ComparesAlike other) :
    Reading.Agree (Call.WellFormed catalog obeys) (Call.Answers catalog obeys) (fun _ => True)
      Stop.Arithmetic (predicate.testBy other record) (predicate.test record) := by
  obtain ⟨e, -, resolved⟩ := resolves_of_compile compiled
  rw [Predicate.test_eq]
  refine (resolved.safe alike hr [] .nil).bind fun v htype => ?_
  exact .ofExcept htype.asBool

theorem Predicate.test_agrees [Patterns] {ο : Type} {catalog : Catalog} {root : Schema}
    {text : String} {predicate : Predicate} {obeys : ο → Schema → Prop} {record : ο}
    (compiled : compile catalog root text = .ok predicate) (hr : obeys record root) :
    Reading.Agree (Call.WellFormed catalog obeys) (Call.Answers catalog obeys) (fun _ => True)
      Stop.Arithmetic (predicate.test record) (predicate.test record) := by
  have same : ComparesAlike (Value.test : CompareOp → Value ο → Value ο → Except Stop Bool) :=
    fun _ _ _ _ => rfl
  have safe := predicate.testBy_agrees compiled hr same
  rwa [Predicate.testBy, Bound.evalBy_test, ← Predicate.test_eq] at safe

/-- A compiled rule has an answer on a record of its schema, unless arithmetic or an answer of a
record stops it. It puts declared calls only, with arguments as declared, and where the comparison
of two values is not defined they are numbers without an order: how a test compares any others
makes no difference. -/
theorem test_safe_of_compile [Patterns] {ο σ : Type} {catalog : Catalog} {root : Schema}
    {text : String} {predicate : Predicate} {records : Records ο σ} {obeys : ο → Schema → Prop}
    {record : ο}
    (compiled : compile catalog root text = .ok predicate)
    (conform : records.Conform catalog obeys) (hr : obeys record root) (state : σ) :
    (∀ reason, ((predicate.test record).run records state).1 = .error reason →
      reason = .fault .divisionByZero ∨ reason = .fault .overflow ∨
        ∃ exchange ∈ (predicate.test record).transcript records state,
          exchange.answer = .error reason) ∧
    (∀ exchange ∈ (predicate.test record).transcript records state,
      exchange.call.WellFormed catalog obeys) ∧
    ∀ other, ComparesAlike other →
      (predicate.testBy other record).run records state =
        (predicate.test record).run records state := by
  have safe := predicate.test_agrees compiled hr
  refine ⟨fun reason hrun => ?_, fun exchange mem => ?_, fun other alike => ?_⟩
  · have result := safe.run_result conform state
    rw [hrun] at result
    cases result with
    | error hreason => exact or_assoc.mp hreason
  · exact safe.asks_of_mem_transcript conform state mem
  · exact (predicate.testBy_agrees compiled hr alike).run_eq conform state

/-- A box in a box, and a rule that asks the outer one about the weights of the inner one. -/
theorem Box.test_safe_nested :
    ∃ predicate, compile catalog schema
        "has(inner) and inner.weights.any(w => scaled(w) > 10 / w)" = .ok predicate ∧
      (Records.ofAnswers answer).Conform catalog (fun _ s => s = schema) ∧
      (∀ reason, ((predicate.test (closed [] (some (closed [4, 0] none)))).run
          (Records.ofAnswers answer) ()).1 = .error reason →
        reason = .fault .divisionByZero ∨ reason = .fault .overflow ∨
          ∃ exchange ∈ (predicate.test (closed [] (some (closed [4, 0] none)))).transcript
            (Records.ofAnswers answer) (), exchange.answer = .error reason) ∧
      ∀ exchange ∈ (predicate.test (closed [] (some (closed [4, 0] none)))).transcript
          (Records.ofAnswers answer) (),
        exchange.call.WellFormed catalog fun _ s => s = schema := by
  have accepted : (compile catalog schema
      "has(inner) and inner.weights.any(w => scaled(w) > 10 / w)").isOk = true := by
    decide +kernel
  cases compiled : compile catalog schema
      "has(inner) and inner.weights.any(w => scaled(w) > 10 / w)" with
  | error reason =>
    rw [compiled] at accepted
    cases accepted
  | ok predicate =>
    obtain ⟨stops, declared, -⟩ := test_safe_of_compile
      compiled conform rfl ()
    exact ⟨predicate, rfl, conform, stops, declared⟩

end RecordRules
