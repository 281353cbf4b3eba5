import RecordRules.Proofs.Comparing
import RecordRules.Proofs.Conformance
import RecordRules.Proofs.Resolution

namespace RecordRules

variable {ο : Type}

theorem Schema.mem_of_member? {schema : Schema} {name : String} {member : Member}
    (h : schema.member? name = some member) : member ∈ schema.members :=
  List.mem_of_find?_eq_some h

/-- The reasons to stop that arithmetic has. -/
def Stop.Arithmetic (reason : Stop) : Prop :=
  reason = .fault .divisionByZero ∨ reason = .fault .overflow

namespace Value

/-- Both values are numbers, and no order relates them. -/
def Unordered (a b : Value ο) : Prop :=
  a.asFloat?.isSome ∧ b.asFloat?.isSome ∧ a.order? b = none

/-- The operator is defined on the values, unless they are numbers without an order. -/
def Comparable (op : CompareOp) (a b : Value ο) : Prop :=
  (a.compare? op b).isSome ∨ a.Unordered b

end Value

variable {catalog : Catalog} {obeys : ο → Schema → Prop} {stops : Stop → Prop}
  {v w : Value ο} {s t : Ty}

/-- What is compared are two numbers, or two strings, or two truth values, and these for equality
only. -/
theorem CompareOp.cases_of_applies {op : CompareOp} (applies : op.applies s t) :
    (s.isNumeric ∧ t.isNumeric) ∨ (s = .string ∧ t = .string) ∨
      (op.isEquality ∧ s = .bool ∧ t = .bool) := by
  unfold CompareOp.applies at applies
  split at applies
  next equality => cases s <;> cases t <;> simp_all [Ty.comparableWith, Ty.isNumeric]
  next => exact (by simpa using applies : _ ∨ _).imp_right .inl

namespace Value.HasType

theorem numeric (h : v.HasType catalog obeys t) (numeric : t.isNumeric) :
    (∃ n, v = .int n ∧ t = .int) ∨ ∃ x, v = .float x ∧ t = .float := by
  cases h with
  | int n => exact .inl ⟨n, rfl, rfl⟩
  | float x => exact .inr ⟨x, rfl, rfl⟩
  | _ => cases numeric

theorem literal (value : Literal) : value.toValue.HasType catalog obeys value.type := by
  cases value with
  | bool b => exact .bool b
  | int n => exact .int n
  | float x => exact .float x
  | string s => exact .string s

theorem asBool (h : v.HasType catalog obeys .bool) : Meets stops (fun _ => True) v.asBool := by
  cases h
  exact .ok trivial

theorem asString (h : v.HasType catalog obeys .string) :
    Meets stops (fun _ => True) v.asString := by
  cases h
  exact .ok trivial

theorem object_inv {schema : SchemaId} (h : v.HasType catalog obeys (.object schema)) :
    ∃ o, v = .object o ∧ obeys o (catalog.schema schema) := by
  cases h with
  | object ho => exact ⟨_, rfl, ho⟩

theorem asList {element : Ty} (h : v.HasType catalog obeys (.list element)) :
    Meets stops (fun vs => ∀ v ∈ vs, v.HasType catalog obeys element) v.asList := by
  cases h with
  | list hs => exact .ok hs

theorem fits {param : Ty} (h : v.HasType catalog obeys t) (accepted : param.accepts t) :
    v.Fits catalog obeys param :=
  ⟨t, accepted, h⟩

end Value.HasType

namespace Value

theorem ofInt_meets (n : Int) :
    Meets Stop.Arithmetic (HasType catalog obeys · .int) (ofInt n : Except Stop (Value ο)) := by
  unfold ofInt
  split
  · exact .ok (.int _)
  · exact .error (.inr rfl)

theorem ofCount_hasType (n : Nat) : (ofCount n : Value ο).HasType catalog obeys .int :=
  .int _

theorem negate_meets (h : v.HasType catalog obeys t) (numeric : t.isNumeric) :
    Meets Stop.Arithmetic (HasType catalog obeys · t) v.negate := by
  obtain ⟨n, rfl, rfl⟩ | ⟨x, rfl, rfl⟩ := h.numeric numeric
  · exact ofInt_meets _
  · exact .ok (.float _)

theorem abs_meets (h : v.HasType catalog obeys t) (numeric : t.isNumeric) :
    Meets Stop.Arithmetic (HasType catalog obeys · t) v.abs := by
  obtain ⟨n, rfl, rfl⟩ | ⟨x, rfl, rfl⟩ := h.numeric numeric
  · simp only [Value.abs]
    exact ofInt_meets _
  · exact .ok (.float _)

theorem arithInt_meets (op : ArithOp) (a b : Int) :
    Meets Stop.Arithmetic (HasType catalog obeys · .int)
      (arithInt op a b : Except Stop (Value ο)) := by
  cases op with
  | add | sub | mul => exact ofInt_meets _
  | div =>
    simp only [arithInt]
    split
    · exact .error (.inl rfl)
    · exact ofInt_meets _
  | rem =>
    simp only [arithInt]
    split
    · exact .error (.inl rfl)
    · split
      · exact .error (.inr rfl)
      · exact ofInt_meets _

theorem arith_meets (op : ArithOp) (hv : v.HasType catalog obeys s) (hs : s.isNumeric)
    (hw : w.HasType catalog obeys t) (ht : t.isNumeric) :
    Meets Stop.Arithmetic (HasType catalog obeys · (s.numericJoin t)) (v.arith op w) := by
  obtain ⟨m, rfl, rfl⟩ | ⟨x, rfl, rfl⟩ := hv.numeric hs
  · obtain ⟨n, rfl, rfl⟩ | ⟨y, rfl, rfl⟩ := hw.numeric ht
    · exact arithInt_meets op _ _
    · exact .ok (.float _)
  · obtain ⟨n, rfl, rfl⟩ | ⟨y, rfl, rfl⟩ := hw.numeric ht
    · exact .ok (.float _)
    · exact .ok (.float _)

theorem choose_meets (ints : Int → Int → Int) (floats : Float → Float → Float)
    (hv : v.HasType catalog obeys s) (hs : s.isNumeric)
    (hw : w.HasType catalog obeys t) (ht : t.isNumeric) :
    Meets Stop.Arithmetic (HasType catalog obeys · (s.numericJoin t))
      (v.choose ints floats w) := by
  obtain ⟨m, rfl, rfl⟩ | ⟨x, rfl, rfl⟩ := hv.numeric hs
  · obtain ⟨n, rfl, rfl⟩ | ⟨y, rfl, rfl⟩ := hw.numeric ht
    · exact ofInt_meets _
    · exact .ok (.float _)
  · obtain ⟨n, rfl, rfl⟩ | ⟨y, rfl, rfl⟩ := hw.numeric ht
    · exact .ok (.float _)
    · exact .ok (.float _)

theorem comparable_of_numbers (op : CompareOp) (hv : v.asFloat?.isSome) (hw : w.asFloat?.isSome) :
    v.Comparable op w := by
  cases order : v.order? w with
  | none => exact .inr ⟨hv, hw, order⟩
  | some o =>
    have defined : v.compare? op w = op.holds (v.order? w) := by
      cases v <;> cases hv <;> cases w <;> cases hw <;> rfl
    refine .inl ?_
    rw [defined, order]
    cases op <;> rfl

theorem comparable_of_applies {op : CompareOp} (hv : v.HasType catalog obeys s)
    (hw : w.HasType catalog obeys t) (applies : op.applies s t) : v.Comparable op w := by
  rcases CompareOp.cases_of_applies applies with ⟨hs, ht⟩ | ⟨rfl, rfl⟩ | ⟨equality, rfl, rfl⟩
  · have number {u : Value ο} {r : Ty} (hu : u.HasType catalog obeys r) (hr : r.isNumeric) :
        u.asFloat?.isSome := by
      obtain ⟨n, rfl, -⟩ | ⟨x, rfl, -⟩ := hu.numeric hr <;> rfl
    exact comparable_of_numbers op (number hv hs) (number hw ht)
  · cases hv
    cases hw
    refine .inl ?_
    cases op <;> rfl
  · cases hv
    cases hw
    refine .inl ?_
    cases op <;> first | rfl | cases equality

theorem test_meets {op : CompareOp} (hv : v.HasType catalog obeys s)
    (hw : w.HasType catalog obeys t) (hs : s.isScalar) (ht : t.isScalar) :
    Meets stops (fun _ => True) (test op v w) := by
  have scalar {u : Value ο} {r : Ty} (hu : u.HasType catalog obeys r) (hr : r.isScalar) :
      u.isComposite = false := by
    cases hu <;> first | rfl | cases hr
  rw [test, if_neg (by simp [scalar hv hs]), if_neg (by simp [scalar hw ht])]
  exact .ok trivial

theorem isScalar_of_applies {op : CompareOp} (applies : op.applies s t) :
    s.isScalar ∧ t.isScalar := by
  unfold CompareOp.applies at applies
  split at applies
  next => cases s <;> cases t <;> simp_all [Ty.comparableWith, Ty.isNumeric, Ty.isScalar]
  next => cases s <;> cases t <;> simp_all [Ty.isNumeric, Ty.isScalar]

/-- Tests that give the same on comparable values find the same elements in a list. -/
theorem memberBy_meets {test : CompareOp → Value ο → Value ο → Except Stop Bool} {vs : List (Value ο)}
    (alike : ∀ op a b, Comparable op a b → test op a b = Value.test op a b)
    (hvs : ∀ v ∈ vs, v.HasType catalog obeys s) (hw : w.HasType catalog obeys t)
    (comparable : s.comparableWith t) :
    memberBy test w vs = member w vs ∧ Meets stops (fun _ => True) (member w vs) := by
  have applies : CompareOp.eq.applies s t := comparable
  induction vs with
  | nil => exact ⟨rfl, .ok trivial⟩
  | cons v rest ih =>
    obtain ⟨hv, hrest⟩ := List.forall_mem_cons.mp hvs
    obtain ⟨same, meets⟩ := ih hrest
    obtain ⟨hs, ht⟩ := isScalar_of_applies applies
    rw [memberBy, member, alike _ _ _ (comparable_of_applies hv hw applies), same]
    refine ⟨rfl, ?_⟩
    have tested : Meets stops (fun _ => True) (Value.test .eq v w) := test_meets hv hw hs ht
    cases hb : Value.test .eq v w with
    | error reason =>
      rw [hb] at tested
      cases tested with
      | error hr => exact .error hr
    | ok b =>
      cases b with
      | true => exact .ok trivial
      | false => exact meets

end Value

namespace Builtin

variable {test : CompareOp → Value ο → Value ο → Except Stop Bool} {name : String}
  {function : Builtin}

theorem stringProperty_meets {returns : Ty} (mem : (name, function, returns) ∈ stringProperties)
    (hv : v.HasType catalog obeys .string) :
    function.applyBy test [v] = function.apply [v] ∧
      Meets stops (Value.HasType catalog obeys · returns) (function.apply [v]) := by
  cases hv
  simp only [stringProperties, List.mem_cons, Prod.mk.injEq, List.not_mem_nil, or_false] at mem
  rcases mem with ⟨-, rfl, rfl⟩ | ⟨-, rfl, rfl⟩ | ⟨-, rfl, rfl⟩
  · exact ⟨rfl, .ok (.int _)⟩
  · exact ⟨rfl, .ok (.string _)⟩
  · exact ⟨rfl, .ok (.string _)⟩

theorem stringTest_meets (mem : (name, function) ∈ stringTests)
    (hv : v.HasType catalog obeys .string) (hw : w.HasType catalog obeys .string) :
    function.applyBy test [v, w] = function.apply [v, w] ∧
      Meets stops (Value.HasType catalog obeys · .bool) (function.apply [v, w]) := by
  cases hv
  cases hw
  simp only [stringTests, List.mem_cons, Prod.mk.injEq, List.not_mem_nil, or_false] at mem
  rcases mem with ⟨-, rfl⟩ | ⟨-, rfl⟩ | ⟨-, rfl⟩ <;> exact ⟨rfl, .ok (.bool _)⟩

theorem length_meets (hv : v.HasType catalog obeys (.list t)) :
    (Builtin.len.applyBy test [v] = Builtin.len.apply [v]) ∧
      Meets stops (Value.HasType catalog obeys · .int) (Builtin.len.apply [v]) := by
  cases hv
  exact ⟨rfl, .ok (.int _)⟩

theorem contains_meets
    (alike : ∀ op a b, Value.Comparable op a b → test op a b = Value.test op a b)
    (hv : v.HasType catalog obeys (.list s)) (hw : w.HasType catalog obeys t)
    (comparable : s.comparableWith t) :
    Builtin.contains.applyBy test [v, w] = Builtin.contains.apply [v, w] ∧
      Meets stops (Value.HasType catalog obeys · .bool) (Builtin.contains.apply [v, w]) := by
  cases hv with
  | @list vs _ hvs =>
    obtain ⟨same, meets⟩ := Value.memberBy_meets alike hvs hw comparable
    have unfolded : Builtin.contains.apply [.list vs, w] =
        (do return .bool (← Value.member w vs) : Except Stop (Value ο)) := rfl
    refine ⟨by rw [unfolded, ← same]; rfl, ?_⟩
    rw [unfolded]
    cases hb : Value.member w vs with
    | error reason =>
      rw [hb] at meets
      cases meets with
      | error hr => exact .error hr
    | ok b => exact .ok (.bool b)

theorem abs_meets (hv : v.HasType catalog obeys t) (numeric : t.isNumeric) :
    (Builtin.abs.applyBy test [v] = Builtin.abs.apply [v]) ∧
      Meets Stop.Arithmetic (Value.HasType catalog obeys · t) (Builtin.abs.apply [v]) :=
  ⟨rfl, Value.abs_meets hv numeric⟩

theorem choice_meets (mem : (name, function) ∈ choices)
    (hv : v.HasType catalog obeys s) (hs : s.isNumeric)
    (hw : w.HasType catalog obeys t) (ht : t.isNumeric) :
    function.applyBy test [v, w] = function.apply [v, w] ∧
      Meets Stop.Arithmetic (Value.HasType catalog obeys · (s.numericJoin t))
        (function.apply [v, w]) := by
  simp only [choices, List.mem_cons, Prod.mk.injEq, List.not_mem_nil, or_false] at mem
  rcases mem with ⟨-, rfl⟩ | ⟨-, rfl⟩
  · exact ⟨rfl, Value.choose_meets _ _ hv hs hw ht⟩
  · exact ⟨rfl, Value.choose_meets _ _ hv hs hw ht⟩

end Builtin

end RecordRules
