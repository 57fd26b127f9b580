/-
# Percent signs

A percent sign and two hexadecimal digits stand for a byte where its character may not stand itself.
A percent sign without digits stands for itself.
-/
import Switchboard.Digest.Hex
import Switchboard.Json.Reader
import Switchboard.Text.Utf8

namespace Switchboard.Http

/-- A byte by its number behind a percent sign. -/
def percent (b : UInt8) : List Char :=
  '%' :: (Digest.byteDigits b).map Char.toUpper

/-- A text with the characters of a set, all controls and all beyond ASCII by their bytes. -/
def escaped (isSpecial : Char → Bool) (s : List Char) : List Char :=
  s.flatMap fun c =>
    if c.toNat < 0x20 || 0x7e < c.toNat || isSpecial c then (Text.encode [c]).flatMap percent
    else [c]

/-- The value of a byte that is a hexadecimal digit. -/
def hexByte? (b : UInt8) : Option Nat := Json.hexValue? (Char.ofNat b.toNat)

/-- The byte that the two hexadecimal digits at the front spell. -/
def digitsAhead? : Bytes → Option UInt8
  | h :: l :: _ => do some (UInt8.ofNat (16 * (← hexByte? h) + (← hexByte? l)))
  | _ => none

/-- Puts in the bytes that percent signs stand for; `out` is what is done, reversed. -/
def unescapedFrom (out : Bytes) : Bytes → Bytes
  | [] => out.reverse
  | b :: rest =>
    if b = 0x25 then
      match digitsAhead? rest with
      | some x => unescapedFrom (x :: out) (rest.drop 2)
      | none => unescapedFrom (b :: out) rest
    else unescapedFrom (b :: out) rest
  termination_by s => s.length
  decreasing_by all_goals (simp only [List.length_cons, List.length_drop]; omega)

/-- The bytes of a text in which percent signs stand for bytes. -/
def unescaped (s : Bytes) : Bytes := unescapedFrom [] s

/-- The text in which percent signs stand for bytes, if all of it is UTF-8. -/
def unescaped? (s : List Char) : Option (List Char) := Text.decode? (unescaped (Text.encode s))

end Switchboard.Http
