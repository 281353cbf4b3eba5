import RecordRules.Proofs.Integers.Unbounded
import RecordRules.Proofs.TypedValues

namespace RecordRules

variable {ο σ : Type}

/-- The lists in the value are no longer than the largest integer. -/
inductive Value.Short : Value ο → Prop
  | list {vs} : vs.length ≤ Int64.maxValue.toInt → (∀ v ∈ vs, Short v) → Short (.list vs)
  | other {v} : (∀ vs, v ≠ .list vs) → Short v

/-- Declared calls are answered with short lists. -/
def Records.Short (catalog : Catalog) (obeys : ο → Schema → Prop) (records : Records ο σ) : Prop :=
  ∀ (call : Call ο) (state : σ) schema member, call.Declared catalog obeys schema member →
    ∀ v, (records.get call.target call.member call.args state).1 = .ok v → v.Short

/-- The value is of the type, its lists are short, and it is that one exactly. -/
structure Stands (catalog : Catalog) (obeys : ο → Schema → Prop) (type : Ty) (v : Value ο)
    (w : Exact ο) : Prop where
  hasType : v.HasType catalog obeys type
  short : v.Short
  same : w = .ofValue v

variable {catalog : Catalog} {obeys : ο → Schema → Prop} {s t : Ty} {v v' : Value ο}
  {w w' : Exact ο}

theorem Value.short_literal (value : Literal) : (value.toValue : Value ο).Short := by
  cases value <;> exact .other nofun

namespace Exact

theorem value?_ofValue (v : Value ο) : (ofValue v).value? = some v := by
  cases v with
  | int n => rw [ofValue, value?, Number.int64?_toInt, Option.map_some]
  | _ => rfl

theorem mapM_value? (vs : List (Value ο)) : (vs.map ofValue).mapM value? = some vs := by
  induction vs with
  | nil => rfl
  | cons v rest ih => simp [value?_ofValue, ih]

end Exact

namespace Stands

theorem int (n : Int64) : Stands catalog obeys .int (.int n) (.int n.toInt) :=
  ⟨.int n, .other nofun, rfl⟩

theorem float (x : Float) : Stands catalog obeys .float (.float x) (.other (.float x)) :=
  ⟨.float x, .other nofun, rfl⟩

theorem bool (b : Bool) : Stands catalog obeys .bool (.bool b) (.bool b) :=
  ⟨.bool b, .other nofun, rfl⟩

theorem string (s : String) : Stands catalog obeys .string (.string s) (.other (.string s)) :=
  ⟨.string s, .other nofun, rfl⟩

theorem ofCount {n : Nat} (short : n ≤ Int64.maxValue.toInt) :
    Stands catalog obeys .int (.ofCount n) (.int n) := by
  obtain ⟨m, found, same⟩ := exists_int64? (int64Range_natCast short)
  rw [Value.ofCount, found, Option.getD_some, ← same]
  exact .int m

theorem bool_inv (h : Stands catalog obeys .bool v w) : ∃ b, v = .bool b ∧ w = .bool b := by
  obtain ⟨hasType, -, rfl⟩ := h
  cases hasType with
  | bool b => exact ⟨b, rfl, rfl⟩

theorem int_inv (h : Stands catalog obeys .int v w) : ∃ n, v = .int n ∧ w = .int n.toInt := by
  obtain ⟨hasType, -, rfl⟩ := h
  cases hasType with
  | int n => exact ⟨n, rfl, rfl⟩

theorem string_inv (h : Stands catalog obeys .string v w) :
    ∃ s, v = .string s ∧ w = .other (.string s) := by
  obtain ⟨hasType, -, rfl⟩ := h
  cases hasType with
  | string s => exact ⟨s, rfl, rfl⟩

theorem object_inv {schema : SchemaId} (h : Stands catalog obeys (.object schema) v w) :
    ∃ o, v = .object o ∧ w = .other (.object o) ∧ obeys o (catalog.schema schema) := by
  obtain ⟨hasType, -, rfl⟩ := h
  obtain ⟨o, rfl, ho⟩ := hasType.object_inv
  exact ⟨o, rfl, rfl, ho⟩

theorem list_inv (h : Stands catalog obeys (.list t) v w) :
    ∃ vs, v = .list vs ∧ w = .other (.list vs) ∧ vs.length ≤ Int64.maxValue.toInt ∧
      ∀ v ∈ vs, Stands catalog obeys t v (.ofValue v) := by
  obtain ⟨hasType, short, rfl⟩ := h
  cases hasType with
  | @list vs _ hvs =>
    cases short with
    | list le each => exact ⟨vs, rfl, rfl, le, fun v mem => ⟨hvs v mem, each v mem, rfl⟩⟩
    | other noList => exact absurd rfl (noList vs)

theorem numeric_inv (h : Stands catalog obeys t v w) (numeric : t.isNumeric) :
    (∃ n, v = .int n ∧ w = .int n.toInt ∧ t = .int) ∨
      ∃ x, v = .float x ∧ w = .other (.float x) ∧ t = .float := by
  obtain ⟨hasType, -, rfl⟩ := h
  obtain ⟨n, rfl, rfl⟩ | ⟨x, rfl, rfl⟩ := hasType.numeric numeric
  · exact .inl ⟨n, rfl, rfl, rfl⟩
  · exact .inr ⟨x, rfl, rfl, rfl⟩

end Stands

/-- Values are compared exactly. -/
theorem Value.test_eq_holds {op : CompareOp} (hv : Stands catalog obeys s v w)
    (hv' : Stands catalog obeys t v' w') (applies : op.applies s t) :
    Value.test op v v' = .ok (w.holds op w') := by
  obtain ⟨hs, ht⟩ | ⟨rfl, rfl⟩ | ⟨-, rfl, rfl⟩ := CompareOp.cases_of_applies applies
  · obtain ⟨m, rfl, rfl, -⟩ | ⟨x, rfl, rfl, -⟩ := hv.numeric_inv hs
    · obtain ⟨n, rfl, rfl, -⟩ | ⟨y, rfl, rfl, -⟩ := hv'.numeric_inv ht
      · rfl
      · rfl
    · obtain ⟨n, rfl, rfl, -⟩ | ⟨y, rfl, rfl, -⟩ := hv'.numeric_inv ht
      · rfl
      · rfl
  · obtain ⟨a, rfl, rfl⟩ := hv.string_inv
    obtain ⟨b, rfl, rfl⟩ := hv'.string_inv
    rfl
  · obtain ⟨a, rfl, rfl⟩ := hv.bool_inv
    obtain ⟨b, rfl, rfl⟩ := hv'.bool_inv
    rfl

theorem Value.member_eq_any {vs : List (Value ο)}
    (hvs : ∀ v ∈ vs, Stands catalog obeys s v (.ofValue v)) (hw : Stands catalog obeys t v' w')
    (comparable : s.comparableWith t) :
    Value.member v' vs = .ok (vs.any fun v => (Exact.ofValue v).holds .eq w') := by
  have applies : CompareOp.eq.applies s t := comparable
  induction vs with
  | nil => rfl
  | cons v rest ih =>
    obtain ⟨hv, hrest⟩ := List.forall_mem_cons.mp hvs
    rw [Value.member, Value.test_eq_holds hv hw applies, List.any_cons, ih hrest]
    cases (Exact.ofValue v).holds .eq w' with
    | true => rfl
    | false => rfl

end RecordRules
