import Mathlib.Order.Compare
import RecordRules.Value

namespace RecordRules

namespace Number

open Float.Model

/-- What a float stands for: a number, an infinity, or none. -/
def unpacked (x : Float) : UnpackedFloat :=
  x.toModel.unpack

theorem compare_unpacked_swap (x y : UnpackedFloat) :
    y.compare x = (x.compare y).map Ordering.swap := by
  have magnitudes (e e' : Int) (m m' : Nat) : (compare e' e).then (compare m' m) =
      ((compare e e').then (compare m m')).swap := by
    rw [Ordering.swap_then, Int.compare_swap, Nat.compare_swap]
  cases x with
  | notANumber => cases y with
    | infinity s | finite s => cases s <;> rfl
    | _ => rfl
  | infinity s => cases y with
    | infinity s' | finite s' => cases s <;> cases s' <;> rfl
    | _ => cases s <;> rfl
  | zero => cases y with
    | infinity s | finite s => cases s <;> rfl
    | _ => rfl
  | finite s m e => cases y with
    | infinity s' => cases s <;> cases s' <;> rfl
    | finite s' m' e' =>
      cases s with
      | negative => cases s' with
        | negative => exact congrArg (some ∘ Ordering.swap) (magnitudes e e' m m')
        | positive => rfl
      | positive => cases s' with
        | negative => rfl
        | positive => exact congrArg some (magnitudes e e' m m')
    | _ => cases s <;> rfl

theorem lt_iff_compare {x y : Float} :
    x < y ↔ (unpacked x).compare (unpacked y) = some .lt := by
  have same : x < y ↔ ((unpacked x).compare (unpacked y) == some .lt) = true := decide_eq_true_iff
  rw [same, beq_iff_eq]

theorem beq_iff_compare {x y : Float} :
    (x == y) = true ↔ (unpacked x).compare (unpacked y) = some .eq := by
  have same : (x == y) = ((unpacked x).compare (unpacked y) == some .eq) := rfl
  rw [same, beq_iff_eq]

/-- Two tests and a third one with the floats exchanged make up the order. -/
theorem order?_eq_compare (x y : Float) : order? x y = (unpacked x).compare (unpacked y) := by
  unfold order?
  simp only [lt_iff_compare, beq_iff_compare, compare_unpacked_swap (unpacked x) (unpacked y)]
  cases (unpacked x).compare (unpacked y) with
  | none => rfl
  | some order => cases order <;> rfl

theorem order?_swap (x y : Float) : order? y x = (order? x y).map Ordering.swap := by
  rw [order?_eq_compare, order?_eq_compare, compare_unpacked_swap]

end Number

/-- Exchanged operands are related by the converse operator. -/
theorem CompareOp.holds_converse (op : CompareOp) (order : Option Ordering) :
    op.converse.holds (order.map Ordering.swap) = op.holds order := by
  cases order with
  | none => cases op <;> rfl
  | some order => cases op <;> cases order <;> rfl

namespace Value

variable {ο : Type}

theorem order?_swap (a b : Value ο) : b.order? a = (a.order? b).map Ordering.swap := by
  cases a with
  | int m => cases b with
    | int n => exact congrArg some (Std.OrientedCmp.eq_swap)
    | float y => exact Number.order?_swap _ _
    | _ => rfl
  | float x => cases b with
    | int | float => exact Number.order?_swap _ _
    | _ => rfl
  | string s => cases b with
    | string t => exact congrArg some (Std.OrientedCmp.eq_swap)
    | _ => rfl
  | bool | object | list => cases b <;> rfl

/-- The ways in which two values meet in a comparison: as truth values, as numbers or strings, or
as values that no operator is defined on. -/
inductive Meeting : Value ο → Value ο → Prop
  | bools (x y) : Meeting (bool x) (bool y)
  | ordered {a b} : (∀ op, a.compare? op b = op.holds (a.order? b)) →
    (∀ op, b.compare? op a = op.holds (b.order? a)) → Meeting a b
  | apart {a b} : (∀ op, a.compare? op b = none) → (∀ op, b.compare? op a = none) → Meeting a b

theorem meeting (a b : Value ο) : Meeting a b := by
  cases a with
  | bool x => cases b with
    | bool y => exact .bools x y
    | _ => exact .apart (fun _ => rfl) fun _ => rfl
  | int | float => cases b with
    | int | float => exact .ordered (fun _ => rfl) fun _ => rfl
    | _ => exact .apart (fun _ => rfl) fun _ => rfl
  | string => cases b with
    | string => exact .ordered (fun _ => rfl) fun _ => rfl
    | _ => exact .apart (fun _ => rfl) fun _ => rfl
  | object | list => cases b with
    | _ => exact .apart (fun _ => rfl) fun _ => rfl

theorem compare?_converse (op : CompareOp) (a b : Value ο) :
    a.compare? op b = b.compare? op.converse a := by
  cases a.meeting b with
  | bools x y => cases op <;> simp [compare?, CompareOp.converse, Bool.beq_comm, bne]
  | ordered here there => rw [here, there, a.order?_swap b, op.holds_converse]
  | apart here there => rw [here, there]

theorem compare?_ne (a b : Value ο) : a.compare? .ne b = (a.compare? .eq b).map (!·) := by
  cases a.meeting b with
  | bools x y => rfl
  | ordered here => rw [here, here]; rfl
  | apart here => rw [here, here]; rfl

/-- How the orderings and equality depend on each other where they are defined: exactly one of three
holds, and the other two operators are put together from them. -/
def Trichotomous (a b : Value ο) : Prop :=
  ∃ lt eq gt : Bool, [lt, eq, gt].count true = 1 ∧ a.compare? .lt b = some lt ∧
    a.compare? .eq b = some eq ∧ a.compare? .gt b = some gt ∧
    a.compare? .le b = some (lt || eq) ∧ a.compare? .ge b = some (gt || eq)

theorem trichotomous_of_defined {op : CompareOp} {a b : Value ο} (ordering : op.isEquality = false)
    (defined : (a.compare? op b).isSome) : a.Trichotomous b := by
  cases a.meeting b with
  | bools x y => cases op with
    | eq | ne => cases ordering
    | _ => exact absurd defined Bool.false_ne_true
  | ordered here =>
    rw [here] at defined
    simp only [Trichotomous, here]
    generalize a.order? b = relation at defined
    cases relation with
    | none => cases op with
      | eq | ne => cases ordering
      | _ => exact absurd defined Bool.false_ne_true
    | some relation => cases relation with
      | lt => exact ⟨true, false, false, rfl, rfl, rfl, rfl, rfl, rfl⟩
      | eq => exact ⟨false, true, false, rfl, rfl, rfl, rfl, rfl, rfl⟩
      | gt => exact ⟨false, false, true, rfl, rfl, rfl, rfl, rfl, rfl⟩
  | apart here =>
    rw [here] at defined
    cases defined

/-- The six operators on two values are coherent. -/
structure Coherent (a b : Value ο) : Prop where
  converse : ∀ op : CompareOp, a.compare? op b = b.compare? op.converse a
  negation : a.compare? .ne b = (a.compare? .eq b).map (!·)
  trichotomous : ∀ op : CompareOp, op.isEquality = false → (a.compare? op b).isSome →
    a.Trichotomous b

theorem coherent (a b : Value ο) : a.Coherent b where
  converse op := a.compare?_converse op b
  negation := a.compare?_ne b
  trichotomous _ := trichotomous_of_defined

/-- Among values of this kind every operator is defined, and `lt` is the given order, which is
transitive. -/
structure TotallyOrdered {α : Type} (make : α → Value ο) (before : α → α → Prop) : Prop where
  defined : ∀ op a b, ((make a).compare? op (make b)).isSome
  lt_iff : ∀ a b, (make a).compare? .lt (make b) = some true ↔ before a b
  trans : ∀ a b c, (make a).compare? .lt (make b) = some true →
    (make b).compare? .lt (make c) = some true → (make a).compare? .lt (make c) = some true

theorem TotallyOrdered.of_lt_iff {α : Type} {make : α → Value ο} {before : α → α → Prop}
    (defined : ∀ op a b, ((make a).compare? op (make b)).isSome)
    (lt_iff : ∀ a b, (make a).compare? .lt (make b) = some true ↔ before a b)
    (trans : ∀ a b c, before a b → before b c → before a c) : TotallyOrdered make before := by
  refine ⟨defined, lt_iff, fun a b c hab hbc => ?_⟩
  rw [lt_iff] at hab hbc ⊢
  exact trans a b c hab hbc

theorem ints_ordered : TotallyOrdered (int (ο := ο)) fun m n => m.toInt < n.toInt := by
  refine .of_lt_iff (fun op m n => ?_) (fun m n => ?_) fun l m n => Int.lt_trans
  · cases op <;> rfl
  · have order : (int (ο := ο) m).compare? .lt (int n) =
        some (compare m.toInt n.toInt == .lt) := rfl
    rw [order, Option.some.injEq, beq_iff_eq]
    exact Int.compare_eq_lt

/-- The code points of a string. -/
def codePoints (s : String) : List Nat :=
  s.toList.map Char.toNat

theorem map_toNat_lt_iff (cs ds : List Char) :
    cs.map Char.toNat < ds.map Char.toNat ↔ cs < ds := by
  induction cs generalizing ds with
  | nil => cases ds <;> simp
  | cons c cs ih => cases ds with
    | nil => simp
    | cons d ds =>
      rw [List.map_cons, List.map_cons, List.cons_lt_cons_iff, List.cons_lt_cons_iff, ih,
        Char.toNat_inj]
      rfl

theorem strings_ordered :
    TotallyOrdered (string (ο := ο)) fun s t => codePoints s < codePoints t := by
  refine .of_lt_iff (fun op m n => ?_) (fun s t => ?_) fun s t u => List.lt_trans
  · cases op <;> rfl
  · have order : (string (ο := ο) s).compare? .lt (string t) = some (compare s t == .lt) := rfl
    have lt : compare s t = .lt ↔ s < t := compareOfLessAndEq_eq_lt
    rw [order, Option.some.injEq, beq_iff_eq, lt, String.lt_iff]
    exact (map_toNat_lt_iff _ _).symm

end Value

end RecordRules
