import RecordRules.Value.Operations

namespace RecordRules

/-- The integer is one of 64 bits. -/
def Int64Range (n : Int) : Prop :=
  Int64.minValue.toInt ≤ n ∧ n ≤ Int64.maxValue.toInt

instance (n : Int) : Decidable (Int64Range n) :=
  inferInstanceAs (Decidable (_ ∧ _))

theorem int64Range_iff (n : Int) :
    Int64Range n ↔ -9223372036854775808 ≤ n ∧ n ≤ 9223372036854775807 := by
  have low : Int64.minValue.toInt = -9223372036854775808 := by decide
  have high : Int64.maxValue.toInt = 9223372036854775807 := by decide
  rw [Int64Range, low, high]

theorem int64Range_toInt (n : Int64) : Int64Range n.toInt :=
  ⟨Int64.le_toInt n, Int.le_of_lt_add_one (Int64.toInt_lt n)⟩

theorem exists_int64? {n : Int} (h : Int64Range n) :
    ∃ m, Number.int64? n = some m ∧ m.toInt = n := by
  have some : Number.int64? n = some (Int64.ofInt n) := if_pos h
  exact ⟨_, some, Number.toInt_of_int64? some⟩

theorem int64Range_natCast {n : Nat} (h : n ≤ Int64.maxValue.toInt) : Int64Range n :=
  ⟨Int.le_trans (by decide) (Int.natCast_nonneg n), h⟩

theorem int64?_eq_none {n : Int} (h : ¬ Int64Range n) : Number.int64? n = none :=
  if_neg h

section Division

variable (a b : Int64)

/-- Only the smallest integer has a quotient that is out of range, and only by -1. -/
theorem not_int64Range_tdiv_iff :
    ¬ Int64Range (a.toInt.tdiv b.toInt) ↔
      a.toInt = Int64.minValue.toInt ∧ b.toInt = -1 := by
  have ha := (int64Range_iff _).mp (int64Range_toInt a)
  have low : Int64.minValue.toInt = -9223372036854775808 := by decide
  have size : (a.toInt.tdiv b.toInt).natAbs = a.toInt.natAbs / b.toInt.natAbs :=
    Int.natAbs_tdiv _ _
  rw [int64Range_iff, low]
  constructor
  · intro out
    by_cases unit : b.toInt.natAbs = 1
    · have sign : b.toInt = 1 ∨ b.toInt = -1 := by omega
      rcases sign with same | same
      · rw [same, Int.tdiv_one] at out
        exact absurd ha out
      · rw [same, Int.tdiv_neg, Int.tdiv_one] at out
        exact ⟨by omega, same⟩
    · -- by any other divisor the quotient is at most half as far from zero
      have half : a.toInt.natAbs / b.toInt.natAbs ≤ a.toInt.natAbs / 2 := by
        by_cases zero : b.toInt.natAbs = 0
        · rw [zero, Nat.div_zero]
          exact Nat.zero_le _
        · exact Nat.div_le_div_left (by omega) (by omega)
      omega
  · rintro ⟨smallest, minus⟩
    rw [smallest, minus, Int.tdiv_neg, Int.tdiv_one]
    omega

end Division

/-- An operation on integers that an expression asks for. -/
inductive Operation where
  | negate (n : Int)
  | absolute (n : Int)
  | arith (op : ArithOp) (a b : Int)
  | least (a b : Int)
  | greatest (a b : Int)
  | length (s : String)
deriving DecidableEq

namespace Operation

/-- The result over the unbounded integers. Quotients are truncated toward zero; a division by zero
has no result. -/
def result? : Operation → Option Int
  | negate n => some (-n)
  | absolute n => some n.natAbs
  | arith .add a b => some (a + b)
  | arith .sub a b => some (a - b)
  | arith .mul a b => some (a * b)
  | arith .div a b => if b = 0 then none else some (a.tdiv b)
  | arith .rem a b => if b = 0 then none else some (a.tmod b)
  | least a b => some (min a b)
  | greatest a b => some (max a b)
  | length s => some s.length

/-- Why the operation is not carried out, if it is not: it divides by zero, or its result is no
integer of 64 bits, or it is the remainder of a division whose quotient would be none. -/
def fault? (operation : Operation) : Option Fault :=
  match operation.result? with
  | none => some .divisionByZero
  | some n =>
    if Int64Range n ∧ operation ≠ .arith .rem Int64.minValue.toInt (-1) then none
    else some .overflow

/-- The exact result is no integer of 64 bits, or it is the remainder of the smallest one by -1. -/
def Overflows (operation : Operation) : Prop :=
  (∃ n, operation.result? = some n ∧ ¬ Int64Range n) ∨
    operation = .arith .rem Int64.minValue.toInt (-1)

/-- It is a quotient or a remainder, and the divisor is zero. -/
def DividesByZero (operation : Operation) : Prop :=
  ∃ a, operation = .arith .div a 0 ∨ operation = .arith .rem a 0

theorem result?_eq_none_iff {operation : Operation} :
    operation.result? = none ↔ operation.DividesByZero := by
  constructor
  · intro none
    unfold result? at none
    split at none
    case h_6 a b | h_7 a b =>
      split at none
      next zero => exact ⟨a, by simp [zero]⟩
      next => cases none
    all_goals cases none
  · rintro ⟨a, rfl | rfl⟩ <;> rfl

theorem fault?_of_result {operation : Operation} {n : Int} (result : operation.result? = some n) :
    operation.fault? =
      if Int64Range n ∧ operation ≠ .arith .rem Int64.minValue.toInt (-1) then none
      else some .overflow := by
  rw [fault?, result]

theorem fault?_eq_divisionByZero_iff {operation : Operation} :
    operation.fault? = some .divisionByZero ↔ operation.DividesByZero := by
  rw [← result?_eq_none_iff]
  cases result : operation.result? with
  | none => simp [fault?, result]
  | some n =>
    rw [fault?_of_result result]
    split <;> simp

theorem fault?_eq_overflow_iff {operation : Operation} :
    operation.fault? = some .overflow ↔ operation.Overflows := by
  constructor
  · intro overflow
    cases result : operation.result? with
    | none => simp [fault?, result] at overflow
    | some n =>
      rw [fault?_of_result result] at overflow
      split at overflow
      next => cases overflow
      next failed =>
        by_cases range : Int64Range n
        · exact .inr (by simpa [range] using failed)
        · exact .inl ⟨n, result, range⟩
  · rintro (⟨n, result, out⟩ | rfl)
    · rw [fault?_of_result result, if_neg fun both => out both.1]
    · decide

end Operation

namespace Value

variable {ο : Type}

/-- The value is the result of the operation, or there is the fault instead that the operation
has. -/
structure Carries (operation : Operation) (outcome : Except Stop (Value ο)) : Prop where
  stops : ∀ fault, operation.fault? = some fault → outcome = .error (.fault fault)
  gives : operation.fault? = none →
    ∃ n, operation.result? = some n.toInt ∧ outcome = .ok (.int n)

theorem carries_fault {operation : Operation} {fault : Fault}
    (faulty : operation.fault? = some fault) :
    Carries operation (.error (.fault fault) : Except Stop (Value ο)) := by
  refine ⟨fun other h => ?_, fun h => ?_⟩
  · have same : other = fault := Option.some.inj (h.symm.trans faulty)
    rw [same]
  · rw [faulty] at h
    cases h

theorem carries_result {operation : Operation} {n : Int64} (sound : operation.fault? = none)
    (result : operation.result? = some n.toInt) :
    Carries operation (.ok (.int n) : Except Stop (Value ο)) := by
  refine ⟨fun fault h => ?_, fun _ => ⟨n, result, rfl⟩⟩
  rw [sound] at h
  cases h

theorem ofInt_carries {operation : Operation} {n : Int} (result : operation.result? = some n)
    (other : operation ≠ .arith .rem Int64.minValue.toInt (-1)) :
    Carries operation (ofInt n : Except Stop (Value ο)) := by
  have fault := Operation.fault?_of_result result
  by_cases range : Int64Range n
  · obtain ⟨m, found, rfl⟩ := exists_int64? range
    rw [if_pos ⟨range, other⟩] at fault
    rw [ofInt, found]
    exact carries_result fault result
  · rw [if_neg fun both => range both.1] at fault
    rw [ofInt, int64?_eq_none range]
    exact carries_fault fault

theorem negate_carries (n : Int64) :
    Carries (.negate n.toInt) (negate (.int n : Value ο)) :=
  ofInt_carries rfl nofun

theorem abs_carries (n : Int64) : Carries (.absolute n.toInt) (abs (.int n : Value ο)) :=
  ofInt_carries rfl nofun

/-- A division by zero is not carried out. -/
theorem divides_carries {operation : Operation} (zero : operation.DividesByZero) :
    Carries operation (.error (.fault .divisionByZero) : Except Stop (Value ο)) :=
  carries_fault (Operation.fault?_eq_divisionByZero_iff.mpr zero)

theorem rem_carries (a b : Int64) :
    Carries (.arith .rem a.toInt b.toInt)
      (arithInt .rem a.toInt b.toInt : Except Stop (Value ο)) := by
  by_cases zero : b.toInt = 0
  · rw [zero]
    exact divides_carries ⟨a.toInt, .inr rfl⟩
  · have result : (Operation.arith .rem a.toInt b.toInt).result? =
        some (a.toInt.tmod b.toInt) := if_neg zero
    by_cases range : Int64Range (a.toInt.tdiv b.toInt)
    · obtain ⟨quotient, found, -⟩ := exists_int64? range
      rw [arithInt, if_neg zero, found, Option.isNone_some, if_neg Bool.false_ne_true]
      refine ofInt_carries result fun same => ?_
      obtain ⟨-, ha, hb⟩ := Operation.arith.inj same
      exact (not_int64Range_tdiv_iff a b).mpr ⟨ha, hb⟩ range
    · have none := int64?_eq_none range
      obtain ⟨ha, hb⟩ := (not_int64Range_tdiv_iff a b).mp range
      rw [arithInt, if_neg zero, none, Option.isNone_none, if_pos rfl]
      rw [ha, hb]
      exact carries_fault (Operation.fault?_eq_overflow_iff.mpr (.inr rfl))

theorem arithInt_carries (op : ArithOp) (a b : Int64) :
    Carries (.arith op a.toInt b.toInt)
      (arithInt op a.toInt b.toInt : Except Stop (Value ο)) := by
  cases op with
  | add | sub | mul => exact ofInt_carries rfl nofun
  | div =>
    by_cases zero : b.toInt = 0
    · rw [zero]
      exact divides_carries ⟨a.toInt, .inl rfl⟩
    · rw [arithInt, if_neg zero]
      exact ofInt_carries (if_neg zero) nofun
  | rem => exact rem_carries a b

theorem least_carries (a b : Int64) :
    Carries (.least a.toInt b.toInt) (ofInt (min a.toInt b.toInt) : Except Stop (Value ο)) :=
  ofInt_carries rfl nofun

theorem greatest_carries (a b : Int64) :
    Carries (.greatest a.toInt b.toInt) (ofInt (max a.toInt b.toInt) : Except Stop (Value ο)) :=
  ofInt_carries rfl nofun

/-- Lengths are counted without fault up to the largest integer. -/
theorem length_carries {s : String} (short : s.length ≤ Int64.maxValue.toInt) :
    Carries (.length s) (length (.string s : Value ο)) := by
  have count : length (.string s : Value ο) = ofInt s.length := by
    obtain ⟨m, found, -⟩ := exists_int64? (int64Range_natCast short)
    rw [length, ofCount, ofInt, found, Option.getD_some]
  rw [count]
  exact ofInt_carries rfl nofun

end Value

end RecordRules
