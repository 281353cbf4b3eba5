namespace RecordRules.Number

/-- A finite number in binary: `significand * 2 ^ exponent`, negated if `negative`. -/
structure Binary where
  negative : Bool
  significand : Nat
  exponent : Int
deriving DecidableEq

def signBit (x : Float) : Bool :=
  x.toBits >>> 63 == 1

/-- The exact value of a float that is neither infinite nor a NaN. -/
def Binary.ofFloat (x : Float) : Binary :=
  let bits : Nat := x.toBits.toNat
  let fraction : Nat := bits % (1 <<< 52)
  let scale : Nat := (bits >>> 52) % (1 <<< 11)
  if scale = 0 then ⟨signBit x, fraction, -1074⟩
  else ⟨signBit x, fraction + (1 <<< 52), (scale : Int) - 1075⟩

/-- The float with that value, for a significand below `2 ^ 53` and an exponent from -1074 to 971. -/
def Binary.toFloat (b : Binary) : Float :=
  let sign : Nat := if b.negative then 1 <<< 63 else 0
  let room : Nat := min (52 - b.significand.log2) (b.exponent + 1074).toNat
  let significand : Nat := b.significand <<< room
  let scale : Nat := (b.exponent - room + 1075).toNat
  if significand < 1 <<< 52 then Float.ofBits (UInt64.ofNat (sign + significand))
  else Float.ofBits (UInt64.ofNat (sign + (scale <<< 52) + (significand - (1 <<< 52))))

/-- The remainder of the quotient truncated toward zero, with the sign of the dividend. -/
def remainder (x y : Float) : Float :=
  if x.isNaN || y.isNaN || x.isInf || y == 0.0 then 0.0 / 0.0
  else if y.isInf || x == 0.0 then x
  else
    let a := Binary.ofFloat x
    let b := Binary.ofFloat y
    let exponent := min a.exponent b.exponent
    let dividend := a.significand <<< (a.exponent - exponent).toNat
    let divisor := b.significand <<< (b.exponent - exponent).toNat
    Binary.toFloat ⟨a.negative, dividend % divisor, exponent⟩

/-- The smaller of two floats; a NaN gives way to the other, and of equals the first stands. -/
def least (x y : Float) : Float :=
  if x.isNaN then y else if y < x then y else x

/-- The larger of two floats; a NaN gives way to the other, and of equals the first stands. -/
def greatest (x y : Float) : Float :=
  if x.isNaN then y else if x < y then y else x

/-- The order of two floats, if neither is a NaN. -/
def order? (x y : Float) : Option Ordering :=
  if x < y then some .lt else if x == y then some .eq else if y < x then some .gt else none

end RecordRules.Number
