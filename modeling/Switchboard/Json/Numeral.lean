/-
# JSON numerals

A numeral as it is written, and the number that it stands for.  A double is computed from the
digits that fit 64 bits and one power of ten, so it is not always the double nearest to the
numeral; a numeral too large for a double stands for nothing.
-/
import Switchboard.Json.Basic
import Switchboard.Number.Reading

namespace Switchboard.Json

open Switchboard.Number

/-- The exponent part of a numeral. -/
structure Exponent where
  negative : Bool
  digits : List Char

/-- A numeral taken apart; each part but `whole` may be missing. -/
structure Numeral where
  negative : Bool
  whole : List Char
  fraction : Option (List Char)
  exponent : Option Exponent

/-- Takes digits into the significand while it fits 64 bits: the significand, the number of digits
taken, and the digits that are left. -/
def takeDigits (significand taken : Nat) : List Char → Nat × Nat × List Char
  | [] => (significand, taken, [])
  | c :: rest =>
    let next := 10 * significand + digitValue c
    if next < Nat.pow 2 64 then takeDigits next (taken + 1) rest
    else (significand, taken, c :: rest)

/-- The double `10 ^ k`, for `k` up to 308. -/
def power10 (k : Nat) : Float := Float.ofScientific 1 false k

/-- The product of `x` and `10 ^ e`; `x` is below `2 ^ 64`, so two divisions by `10 ^ 308` leave
nothing of it. -/
def scale? (x : Float) (e : Int) : Option Float :=
  if 308 < e then if x == 0.0 then some x else none
  else if 0 ≤ e then
    let y := x * power10 e.toNat
    if y.isInf then none else some y
  else if -308 ≤ e then some (x / power10 (-e).toNat)
  else if -616 ≤ e then some (x / power10 308 / power10 (-e - 308).toNat)
  else some 0.0

/-- The value of an exponent, if it fits 32 bits with a sign. -/
def Exponent.value? (e : Exponent) : Option Int :=
  let digits := e.digits.dropWhile (· == '0')
  if 10 < digits.length then none
  else
    let n := ofDigits digits
    if n < Nat.pow 2 31 then some (if e.negative then -(n : Int) else n) else none

/-- The size of a double from its significand, the power of ten before the exponent part, and the
exponent part. -/
def doubleSize? (significand : Nat) (e : Int) : Option Exponent → Option Float
  | none => scale? (Float.ofNat significand) e
  | some part =>
    match part.value? with
    | some k => scale? (Float.ofNat significand) (e + k)
    | none => if significand = 0 || part.negative then some 0.0 else none

/-- The double that a numeral stands for. -/
def Numeral.double? (n : Numeral) : Option Float := do
  let (significand, _, left) := takeDigits 0 0 n.whole
  let (significand, places, _) := takeDigits significand 0 (n.fraction.getD [])
  let size ← doubleSize? significand ((left.length : Int) - places) n.exponent
  some (if n.negative then -size else size)

/-- The whole number that a numeral without fraction and exponent stands for, if it fits 64 bits.
Minus zero is no whole number. -/
def Numeral.whole? (n : Numeral) : Option Int :=
  if n.fraction.isSome || n.exponent.isSome then none
  else
    let (size, _, left) := takeDigits 0 0 n.whole
    if !left.isEmpty then none
    else if !n.negative then some size
    else if 0 < size && size ≤ Nat.pow 2 63 then some (-(size : Int))
    else none

/-- The number that a numeral stands for. -/
def Numeral.number? (n : Numeral) : Option Number :=
  match n.whole? with
  | some i => some (.whole i)
  | none => n.double?.map .double

end Switchboard.Json
