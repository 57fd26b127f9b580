/-
# Shortest decimal digits

The fewest decimal digits that read back as a given double, and among those the ones nearest to it.
A double is decoded into `mantissa · 2 ^ exponent`; the reals that round to it form an interval,
whose ends belong to it when the mantissa is even.  For one digit, two digits, … the two points of
that decimal grid around the value are tried, in exact arithmetic; the first grid with a point in
the interval wins.
-/

namespace Switchboard.Number

/-- A finite positive double: `mantissa · 2 ^ exponent`, where `narrow` tells that the neighbour
below is twice as near as the one above. -/
structure Binary where
  mantissa : Nat
  exponent : Int
  narrow : Bool
  deriving DecidableEq, Repr

/-- What the bits of a double say, its sign apart. -/
inductive Magnitude where
  | zero
  | finite (b : Binary)
  | infinite
  | notANumber
  deriving DecidableEq, Repr

/-- The sign bit. -/
def isNegative (bits : UInt64) : Bool := bits >>> 63 == 1

/-- The magnitude that the bits spell. -/
def magnitude (bits : UInt64) : Magnitude :=
  let fraction : Nat := bits.toNat % Nat.pow 2 52
  let biased : Nat := bits.toNat / Nat.pow 2 52 % Nat.pow 2 11
  if biased = Nat.pow 2 11 - 1 then
    if fraction = 0 then .infinite else .notANumber
  else if biased = 0 then
    if fraction = 0 then .zero else .finite ⟨fraction, -1074, false⟩
  else .finite ⟨Nat.pow 2 52 + fraction, (biased : Int) - 1075, fraction = 0 && 1 < biased⟩

/-- A non-negative rational number. -/
structure Ratio where
  num : Nat
  den : Nat

/-- `n · base ^ e`. -/
def Ratio.scaled (n base : Nat) (e : Int) : Ratio :=
  if 0 ≤ e then ⟨n * Nat.pow base e.toNat, 1⟩ else ⟨n, Nat.pow base (-e).toNat⟩

/-- The order of ratios. -/
def Ratio.le (a b : Ratio) : Bool := a.num * b.den ≤ b.num * a.den

/-- The strict order of ratios. -/
def Ratio.lt (a b : Ratio) : Bool := a.num * b.den < b.num * a.den

/-- The value itself. -/
def Binary.value (b : Binary) : Ratio := .scaled b.mantissa 2 b.exponent

/-- Half way to the neighbour below. -/
def Binary.low (b : Binary) : Ratio :=
  .scaled (4 * b.mantissa - (if b.narrow then 1 else 2)) 2 (b.exponent - 2)

/-- Half way to the neighbour above. -/
def Binary.high (b : Binary) : Ratio := .scaled (4 * b.mantissa + 2) 2 (b.exponent - 2)

/-- Whether a real reads back as the value: it lies in the interval, whose ends belong to it when
the mantissa is even. -/
def Binary.covers (b : Binary) (r : Ratio) : Bool :=
  if b.mantissa % 2 = 0 then b.low.le r && r.le b.high else b.low.lt r && r.lt b.high

/-- How many decimal digits a positive number has. -/
def digitCount (n : Nat) : Nat := (Nat.toDigits 10 n).length

/-- The decimal exponent of a positive ratio: `10 ^ e ≤ r < 10 ^ (e + 1)`. -/
def Ratio.decimalExponent (r : Ratio) : Int :=
  if r.den ≤ r.num then (digitCount (r.num / r.den) : Int) - 1
  else -(digitCount ((r.den - 1) / r.num) : Int)

/-- A positive decimal number: `digits · 10 ^ exponent`. -/
structure Decimal where
  digits : Nat
  exponent : Int
  deriving DecidableEq, Repr

/-- The ratio that a decimal stands for. -/
def Decimal.value (d : Decimal) : Ratio := .scaled d.digits 10 d.exponent

/-- The distance between two ratios, as a ratio. -/
def Ratio.distance (a b : Ratio) : Ratio :=
  ⟨(a.num * b.den - b.num * a.den) + (b.num * a.den - a.num * b.den), a.den * b.den⟩

/-- Of the two points of the grid `10 ^ e` around the value, the one that reads back; the nearer if
both do, and the even one if they are equally near. -/
def Binary.onGrid (b : Binary) (e : Int) : Option Decimal :=
  let v := b.value
  let unit := Ratio.scaled 1 10 e
  let below := v.num * unit.den / (v.den * unit.num)
  let lower : Decimal := ⟨below, e⟩
  let upper : Decimal := ⟨below + 1, e⟩
  match b.covers lower.value, b.covers upper.value with
  | true, false => some lower
  | false, true => some upper
  | true, true =>
    let toLower := v.distance lower.value
    let toUpper := v.distance upper.value
    if toLower.lt toUpper || (!toUpper.lt toLower && below % 2 = 0) then some lower else some upper
  | false, false => none

/-- Tries grids of `n` digits and more, at most `fuel` of them. -/
def Binary.shortestFrom (b : Binary) (top : Int) : Nat → Nat → Option Decimal
  | 0, _ => none
  | fuel + 1, n =>
    match b.onGrid (top - n + 1) with
    | some d => if d.digits = 0 then b.shortestFrom top fuel (n + 1) else some d
    | none => b.shortestFrom top fuel (n + 1)

/-- Moves the zeros at the end of the digits into the exponent. -/
def Decimal.stripZeros (d : Decimal) : Nat → Decimal
  | 0 => d
  | fuel + 1 =>
    if d.digits % 10 = 0 && d.digits ≠ 0 then stripZeros ⟨d.digits / 10, d.exponent + 1⟩ fuel else d

/-- The shortest decimal that reads back as the value.  Seventeen digits always do. -/
def Binary.shortest (b : Binary) : Decimal :=
  match b.shortestFrom b.value.decimalExponent 17 1 with
  | some d => d.stripZeros 20
  | none => ⟨b.mantissa, b.exponent⟩

/-- The digits as characters. -/
def Decimal.digitChars (d : Decimal) : List Char := Nat.toDigits 10 d.digits

/-- The exponent of the leading digit. -/
def Decimal.leading (d : Decimal) : Int := d.exponent + digitCount d.digits - 1

/-- The decimal written out in full, without a point where it is whole. -/
def Decimal.plain (d : Decimal) : List Char :=
  let cs := d.digitChars
  if 0 ≤ d.exponent then cs ++ List.replicate d.exponent.toNat '0'
  else
    let places := (-d.exponent).toNat
    if cs.length ≤ places then '0' :: '.' :: List.replicate (places - cs.length) '0' ++ cs
    else cs.take (cs.length - places) ++ '.' :: cs.drop (cs.length - places)

/-- The decimal with one digit before the point, and none after it if there is one digit only. -/
def Decimal.scientificDigits (d : Decimal) : List Char :=
  match d.digitChars with
  | [] => []
  | [c] => [c]
  | c :: rest => c :: '.' :: rest

end Switchboard.Number
