/-
# TOML numbers, dates and names

The values that are written without quotes.  A date or time is kept as its text in a settled form.
-/
import Switchboard.Settings.Value
import Switchboard.Settings.Toml.Quote
import Switchboard.Number.Reading
import Switchboard.Message.Instant
import Switchboard.Text.Search

namespace Switchboard.Settings.Toml

open Switchboard.Number
open Json (hexValue?)

/-- A character of a value without quotes. -/
def isBareValue (c : Char) : Bool :=
  c.isAlphanum || c = '_' || c = '+' || c = '-' || c = '.' || c = ':'

/-- Digits with single underscores between them. -/
def groups? (isDigit : Char → Bool) (s : List Char) : Option (List Char) :=
  let pieces := Text.split '_' s
  if pieces.all fun p => !p.isEmpty && p.all isDigit then some pieces.flatten else none

/-- A sign and what follows it. -/
def signed (s : List Char) : Bool × List Char :=
  match s with
  | '-' :: rest => (true, rest)
  | '+' :: rest => (false, rest)
  | _ => (false, s)

/-- The digits of a decimal whole number, which starts with a zero only if that is all. -/
def decimalDigits? (s : List Char) : Option (List Char) :=
  match groups? isDigit s with
  | some ('0' :: _ :: _) => none
  | found => found

/-- A whole number that fits 64 bits with its sign. -/
def fitting? (negative : Bool) (n : Nat) : Option Value :=
  if negative then if n ≤ Nat.pow 2 63 then some (.whole (-(n : Int))) else none
  else if n < Nat.pow 2 63 then some (.whole n) else none

/-- The number that digits of a base spell. -/
def inBase (base : Nat) (digits : List Char) : Nat :=
  digits.foldl (fun n c => base * n + (hexValue? c).getD 0) 0

/-- A whole number in a base other than ten, after its mark. -/
def based? (base : Nat) (s : List Char) : Option Value :=
  match groups? (fun c => (hexValue? c).any (· < base)) s with
  | some digits => fitting? false (inBase base digits)
  | none => none

/-- A whole number. -/
def whole? (s : List Char) : Option Value :=
  match s with
  | '0' :: 'x' :: digits => based? 16 digits
  | '0' :: 'o' :: digits => based? 8 digits
  | '0' :: 'b' :: digits => based? 2 digits
  | _ =>
    let (negative, digits) := signed s
    match decimalDigits? digits with
    | some digits => fitting? negative (ofDigits digits)
    | none => none

/-- The exponent of a number; no exponent counts as zero. -/
def exponentPart? (s : Option (List Char)) : Option Int :=
  match s with
  | none => some 0
  | some s =>
    let (negative, digits) := signed s
    match groups? isDigit digits with
    | some digits =>
      let n : Int := ofDigits digits
      some (if negative then -n else n)
    | none => none

/-- The digits behind the point of a number; no point counts as no digits. -/
def fractionPart? (s : Option (List Char)) : Option (List Char) :=
  match s with
  | none => some []
  | some s => groups? isDigit s

/-- An `E` in either letter case as a small one. -/
def smallE (c : Char) : Char := if c = 'E' then 'e' else c

/-- A number with a point or an exponent.  One that is too large is refused. -/
def numeral? (s : List Char) : Option Value := do
  let (negative, body) := signed s
  let (mantissa, exponent) := Text.cut 'e' (body.map smallE)
  let (whole, fraction) := Text.cut '.' mantissa
  if exponent.isNone && fraction.isNone then none
  else
    let digits ← decimalDigits? whole
    let places ← fractionPart? fraction
    let power ← exponentPart? exponent
    let x := Numeral.toFloat ⟨negative, digits ++ places, power - places.length⟩
    if x == 1.0 / 0.0 then none else some (.real x)

/-- A number by name. -/
def named? (s : List Char) : Option Value :=
  let (negative, name) := signed s
  if name = "inf".toList then some (.real (if negative then -1.0 / 0.0 else 1.0 / 0.0))
  else if name = "nan".toList then some (.real (0.0 / 0.0))
  else none

/-- Two digits that spell a number from `low` to `high`. -/
def twoDigits? (low high : Nat) (a b : Char) : Option Nat := do
  let n ← digits? [a, b]
  if low ≤ n && n ≤ high then some n else none

/-- The number of days of a month. -/
def daysIn (year month : Nat) : Nat :=
  if month = 2 then
    if year % 4 = 0 && (year % 100 ≠ 0 || year % 400 = 0) then 29 else 28
  else if month = 4 || month = 6 || month = 9 || month = 11 then 30
  else 31

/-- A day, and what follows it. -/
def date? : List Char → Option (String × List Char)
  | a :: b :: c :: d :: '-' :: e :: f :: '-' :: g :: h :: rest => do
    let year ← digits? [a, b, c, d]
    let month ← twoDigits? 1 12 e f
    let day ← twoDigits? 1 (daysIn year month) g h
    some (s!"{Instant.padded 4 year}-{Instant.padded 2 month}-{Instant.padded 2 day}", rest)
  | _ => none

/-- The part of a second: nine digits count, and zeros at the end do not. -/
def secondPart (digits : List Char) : String :=
  let kept := ((digits.take 9).reverse.dropWhile (· = '0')).reverse
  if kept.isEmpty then "" else String.ofList ('.' :: kept)

/-- A time of day up to some hour, and what follows it. -/
def time? (lastHour : Nat) : List Char → Option (String × List Char)
  | a :: b :: ':' :: c :: d :: ':' :: e :: f :: rest => do
    let hour ← twoDigits? 0 lastHour a b
    let minute ← twoDigits? 0 59 c d
    let second ← twoDigits? 0 60 e f
    let start :=
      s!"{Instant.padded 2 hour}:{Instant.padded 2 minute}:{Instant.padded 2 second}"
    match rest with
    | '.' :: more =>
      let digits := more.takeWhile isDigit
      if digits.isEmpty then none
      else some (start ++ secondPart digits, more.dropWhile isDigit)
    | _ => some (start, rest)
  | _ => none

/-- How much of a day and of an hour the parts of a time may take. -/
structure Clock where
  lastHour : Nat
  lastOffsetHour : Nat
  lastOffsetMinute : Nat

/-- The times that stand in a document by themselves. -/
def Clock.strict : Clock := ⟨23, 23, 59⟩

/-- The times that a document spells in a text: the end of the day has a number of its own. -/
def Clock.loose : Clock := ⟨24, 99, 99⟩

/-- The offset of a time from the one at Greenwich, at most a day, if all of the text is one. -/
def offset? (clock : Clock) : List Char → Option String
  | [] => some ""
  | ['Z'] => some "Z"
  | ['z'] => some "Z"
  | [sign, a, b, ':', c, d] => do
    let hour ← twoDigits? 0 clock.lastOffsetHour a b
    let minute ← twoDigits? 0 clock.lastOffsetMinute c d
    let total := 60 * hour + minute
    if (sign = '+' || sign = '-') && total ≤ 60 * 24 then
      let shown := if total = 0 then '+' else sign
      some s!"{shown}{Instant.padded 2 (total / 60)}:{Instant.padded 2 (total % 60)}"
    else none
  | _ => none

/-- A day, a time of day, or both. -/
def moment? (clock : Clock) (s : List Char) : Option String :=
  match date? s with
  | some (day, []) => some day
  | some (day, c :: rest) =>
    if c = 'T' || c = 't' || c = ' ' then do
      let (time, rest) ← time? clock.lastHour rest
      some (day ++ "T" ++ time ++ (← offset? clock rest))
    else none
  | none =>
    match time? clock.lastHour s with
    | some (time, []) => some time
    | _ => none

/-- The value of a text without quotes. -/
def scalar (s : List Char) : Option Value :=
  if s = "true".toList then some (.bool true)
  else if s = "false".toList then some (.bool false)
  else
    match moment? .strict s with
    | some text => some (.moment text)
    | none => (named? s).or ((whole? s).or (numeral? s))

/-- A value without quotes, and what follows it.  A day may be parted from its time by a space. -/
def bare? (s : List Char) : Option (Value × List Char) :=
  let first := s.takeWhile isBareValue
  let rest := s.drop first.length
  match rest with
  | ' ' :: more =>
    let second := more.takeWhile isBareValue
    match date? first, time? Clock.strict.lastHour second with
    | some (_, []), some _ =>
      (scalar (first ++ ' ' :: second)).map fun v => (v, more.drop second.length)
    | _, _ => (scalar first).map fun v => (v, rest)
  | _ => (scalar first).map fun v => (v, rest)

end Switchboard.Settings.Toml
