import RecordRules.Number.Binary64

namespace RecordRules.Number

/-- The positive number `significand * 10 ^ exponent`. -/
structure Decimal where
  significand : Nat
  exponent : Int
deriving DecidableEq

/-- The reals that round to one float, between `low` and `high` around `value`, all three over
`denominator`; the ends belong to them if `closed`. -/
structure Neighbourhood where
  low : Nat
  value : Nat
  high : Nat
  denominator : Nat
  closed : Bool

/-- The lower half of the gap is narrower at a power of two. -/
def Binary.neighbourhood (b : Binary) : Neighbourhood :=
  let below := if b.significand = 1 <<< 52 ∧ -1074 < b.exponent then 1 else 2
  let unit := 1 <<< (b.exponent - 2).toNat
  { low := (4 * b.significand - below) * unit
    value := 4 * b.significand * unit
    high := (4 * b.significand + 2) * unit
    denominator := 1 <<< (2 - b.exponent).toNat
    closed := b.significand % 2 == 0 }

/-- The exponent of the power of ten at or below `value / denominator`. -/
def decimalOrder (value denominator : Nat) : Int :=
  if denominator ≤ value then ((Nat.toDigits 10 (value / denominator)).length : Int) - 1
  else
    let places := (Nat.toDigits 10 (denominator / value)).length - 1
    if denominator ≤ value * Nat.pow 10 places then -(places : Int) else -(places : Int) - 1

/-- The multiple of `10 ^ exponent` that lies in the neighbourhood next to its value, if one does;
halfway between two of them the upper one is taken. -/
def Neighbourhood.multiple? (n : Neighbourhood) (exponent : Int) : Option Decimal :=
  let unit := n.denominator * Nat.pow 10 exponent.toNat
  let factor := Nat.pow 10 (-exponent).toNat
  let lower := n.value * factor / unit
  let rest := n.value * factor % unit
  let inside (multiple : Nat) : Bool :=
    if n.closed then n.low * factor ≤ multiple * unit && multiple * unit ≤ n.high * factor
    else n.low * factor < multiple * unit && multiple * unit < n.high * factor
  if inside (lower + 1) && (!inside lower || unit ≤ 2 * rest) then some ⟨lower + 1, exponent⟩
  else if inside lower then some ⟨lower, exponent⟩
  else none

/-- The shortest decimal that reads back as the number, which is not zero; seventeen digits always
suffice. -/
def Binary.shortest (b : Binary) : Decimal :=
  let n := b.neighbourhood
  let order := decimalOrder n.value n.denominator
  ((List.range 17).findSome? fun (digits : Nat) => n.multiple? (order - digits)).getD ⟨b.significand, 0⟩

/-- How the text of a float is laid out. -/
structure FloatLayout where
  /-- Whole numbers end in `.0`. -/
  marksWhole : Bool
  /-- Numbers below `10 ^ -4` and from `10 ^ 16` on are written with an exponent. -/
  scientific : Bool

/-- The layout in which the text shows that it is a float. -/
def FloatLayout.tagged : FloatLayout := ⟨true, true⟩

/-- The layout for readers. -/
def FloatLayout.plain : FloatLayout := ⟨false, false⟩

def zeros (count : Nat) : String :=
  String.ofList (List.replicate count '0')

/-- The digits with a point after the first `whole` of them. -/
def positionalText (layout : FloatLayout) (digits : List Char) (whole : Int) : String :=
  let count : Nat := digits.length
  if whole ≤ 0 then "0." ++ zeros (-whole).toNat ++ String.ofList digits
  else if (count : Int) ≤ whole then
    String.ofList digits ++ zeros (whole - count).toNat ++ (if layout.marksWhole then ".0" else "")
  else
    String.ofList (digits.take whole.toNat) ++ "." ++ String.ofList (digits.drop whole.toNat)

def scientificText (digits : List Char) (whole : Int) : String :=
  let fraction := digits.drop 1
  String.ofList (digits.take 1) ++ (if fraction.isEmpty then "" else "." ++ String.ofList fraction) ++
    "e" ++ toString (whole - 1)

def FloatLayout.write (layout : FloatLayout) (x : Float) : String :=
  if x.isNaN then "NaN"
  else
    let sign := if signBit x then "-" else ""
    if x.isInf then sign ++ "inf"
    else if x == 0.0 then sign ++ (if layout.marksWhole then "0.0" else "0")
    else
      let decimal := (Binary.ofFloat x).shortest
      let written := Nat.toDigits 10 decimal.significand
      let whole : Int := written.length + decimal.exponent
      let digits := (written.reverse.dropWhile (· == '0')).reverse
      sign ++ if layout.scientific && (whole ≤ -4 || 16 < whole) then scientificText digits whole
        else positionalText layout digits whole

end RecordRules.Number
