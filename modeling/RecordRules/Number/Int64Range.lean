namespace RecordRules.Number

/-- The 64-bit integer of that value, if there is one. -/
def int64? (n : Int) : Option Int64 :=
  if Int64.minValue.toInt ≤ n ∧ n ≤ Int64.maxValue.toInt then some (Int64.ofInt n) else none

/-- The float nearest to the integer. -/
def float64 (n : Int64) : Float :=
  Float.ofInt n.toInt

theorem toInt_of_int64? {n : Int} {v : Int64} (h : int64? n = some v) : v.toInt = n := by
  unfold int64? at h
  split at h
  next bounds =>
    rw [← Option.some.inj h]
    exact Int64.toInt_ofInt_of_le bounds.1 (Int.lt_of_le_of_lt bounds.2 (by decide))
  next => simp at h

theorem int64?_toInt (v : Int64) : int64? v.toInt = some v := by
  have high : v.toInt ≤ Int64.maxValue.toInt := Int.le_of_lt_add_one (Int64.toInt_lt v)
  rw [int64?, if_pos ⟨Int64.le_toInt v, high⟩, Int64.ofInt_toInt]

end RecordRules.Number
