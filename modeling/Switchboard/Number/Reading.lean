/-
# Reading numbers from text

Whole numbers with a sign and a bound, and decimal fractions as the nearest double.  No blanks, no
digit separators and no digits other than ASCII's are accepted.
-/

namespace Switchboard.Number

/-- Whether a character is an ASCII digit. -/
def isDigit (c : Char) : Bool := '0' ≤ c && c ≤ '9'

/-- The value of an ASCII digit. -/
def digitValue (c : Char) : Nat := c.toNat - '0'.toNat

/-- The number that a row of digits spells. -/
def ofDigits (s : List Char) : Nat := s.foldl (fun n c => 10 * n + digitValue c) 0

/-- A row of one or more digits. -/
def digits? (s : List Char) : Option Nat :=
  if s.isEmpty || !s.all isDigit then none else some (ofDigits s)

/-- A natural number below `bound`; one `+` may stand in front. -/
def natural? (bound : Nat) (s : List Char) : Option Nat := do
  let n ← digits? (if s.head? = some '+' then s.drop 1 else s)
  if n < bound then some n else none

/-- A number of 64 bits without sign. -/
def word64? (s : List Char) : Option Nat := natural? (Nat.pow 2 64) s

/-- A number of 64 bits with sign. -/
def integer64? (s : List Char) : Option Int :=
  match s with
  | '-' :: rest => do
    let n ← digits? rest
    if n ≤ Nat.pow 2 63 then some (-(n : Int)) else none
  | _ => (natural? (Nat.pow 2 63) s).map Int.ofNat

/-- A decimal numeral taken apart: `digits · 10 ^ exponent` with a sign. -/
structure Numeral where
  negative : Bool
  digits : List Char
  exponent : Int

/-- The nearest double.  Numerals far outside the range of doubles are settled by their length, so
that no huge power is formed. -/
def Numeral.toFloat (n : Numeral) : Float :=
  let significant := n.digits.dropWhile (· == '0')
  let top : Int := n.exponent + significant.length
  let size : Float :=
    if significant.isEmpty || top < -400 then 0.0
    else if 400 < top then 1.0 / 0.0
    else if 0 ≤ n.exponent then Float.ofScientific (ofDigits significant) false n.exponent.toNat
    else Float.ofScientific (ofDigits significant) true (-n.exponent).toNat
  if n.negative then -size else size

/-- An exponent part: a sign and digits. -/
def exponent? (s : List Char) : Option Int :=
  match s with
  | '-' :: rest => (digits? rest).map fun n => -(n : Int)
  | '+' :: rest => (digits? rest).map Int.ofNat
  | _ => (digits? s).map Int.ofNat

/-- Digits with at most one point among them, at least one digit in all, and perhaps an exponent
after `e` or `E`. -/
def unsignedNumeral? (negative : Bool) (s : List Char) : Option Numeral := do
  let whole := s.takeWhile isDigit
  let rest := s.dropWhile isDigit
  let (fraction, rest) := match rest with
    | '.' :: r => (r.takeWhile isDigit, r.dropWhile isDigit)
    | _ => ([], rest)
  if whole.isEmpty && fraction.isEmpty then none
  else
    let places : Int := fraction.length
    match rest with
    | [] => some ⟨negative, whole ++ fraction, -places⟩
    | c :: r =>
      if c = 'e' || c = 'E' then do
        let e ← exponent? r
        some ⟨negative, whole ++ fraction, e - places⟩
      else none

/-- ASCII lower case. -/
def asciiLower (s : List Char) : List Char := s.map Char.toLower

/-- A double by name or numeral.  The names are `inf`, `infinity` and `nan` in any letter case. -/
def unsignedFloat? (negative : Bool) (s : List Char) : Option Float :=
  let name := String.ofList (asciiLower s)
  let signed (x : Float) : Float := if negative then -x else x
  if name = "inf" || name = "infinity" then some (signed (1.0 / 0.0))
  else if name = "nan" then some (signed (0.0 / 0.0))
  else (unsignedNumeral? negative s).map Numeral.toFloat

/-- A double with an optional sign. -/
def float? (s : List Char) : Option Float :=
  match s with
  | '-' :: rest => unsignedFloat? true rest
  | '+' :: rest => unsignedFloat? false rest
  | _ => unsignedFloat? false s

end Switchboard.Number
