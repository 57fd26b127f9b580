/-
# Writing JSON

The compact form of a value: no white space, members as they stand, and escapes only for the quote,
the backslash and the control characters below the space.  The writer goes over a value once and
keeps what it has written in reverse.
-/
import Switchboard.Json.Basic
import Switchboard.Number.Shortest

namespace Switchboard.Json

open Switchboard.Number

/-- The last digit of a number in lower-case hexadecimal. -/
def hexDigit (n : Nat) : Char := Nat.digitChar (n % 16)

/-- How a character is written inside quotes. -/
def escape (c : Char) : List Char :=
  match c with
  | '"' => ['\\', '"']
  | '\\' => ['\\', '\\']
  | '\x08' => ['\\', 'b']
  | '\x0c' => ['\\', 'f']
  | '\n' => ['\\', 'n']
  | '\r' => ['\\', 'r']
  | '\t' => ['\\', 't']
  | c =>
    if c.toNat < 0x20 then ['\\', 'u', '0', '0', hexDigit (c.toNat / 16), hexDigit c.toNat]
    else [c]

/-- A text between quotes. -/
def quoted (s : String) : List Char := '"' :: s.toList.flatMap escape ++ ['"']

/-- A decimal as a double: in full from `0.00001` to just below `10 ^ 16`, with an exponent
elsewhere, and never without a point or an exponent. -/
def doubleDigits (d : Decimal) : List Char :=
  let e := d.leading
  if -5 ≤ e && e ≤ 15 then
    if 0 ≤ d.exponent then d.plain ++ ['.', '0'] else d.plain
  else
    d.scientificDigits ++ ['e', if e < 0 then '-' else '+'] ++ (toString e.natAbs).toList

/-- A double; what has no digits is written as null. -/
def double (x : Float) : List Char :=
  let bits := x.toBits
  let sign := if isNegative bits then ['-'] else []
  match magnitude bits with
  | .zero => sign ++ ['0', '.', '0']
  | .finite b => sign ++ doubleDigits b.shortest
  | _ => ['n', 'u', 'l', 'l']

/-- A number. -/
def Number.chars : Number → List Char
  | .whole n => (toString n).toList
  | .double x => Json.double x

mutual

/-- Writes a value after what has been written; `out` and the result are reversed. -/
def writeOnto (out : List Char) : Json → List Char
  | .null => 'l' :: 'l' :: 'u' :: 'n' :: out
  | .bool true => 'e' :: 'u' :: 'r' :: 't' :: out
  | .bool false => 'e' :: 's' :: 'l' :: 'a' :: 'f' :: out
  | .number n => n.chars.reverse ++ out
  | .text s => (quoted s).reverse ++ out
  | .array [] => ']' :: '[' :: out
  | .array (v :: rest) => ']' :: writeItems (writeOnto ('[' :: out) v) rest
  | .object [] => '\x7d' :: '\x7b' :: out
  | .object ((k, v) :: rest) =>
    '\x7d' :: writeMembers (writeOnto (':' :: (quoted k).reverse ++ '\x7b' :: out) v) rest

/-- Writes the items after the first. -/
def writeItems (out : List Char) : List Json → List Char
  | [] => out
  | v :: rest => writeItems (writeOnto (',' :: out) v) rest

/-- Writes the members after the first. -/
def writeMembers (out : List Char) : List (String × Json) → List Char
  | [] => out
  | (k, v) :: rest =>
    writeMembers (writeOnto (':' :: (quoted k).reverse ++ ',' :: out) v) rest

end

/-- The compact form of a value. -/
def chars (v : Json) : List Char := (writeOnto [] v).reverse

/-- The compact form of a value, as a string. -/
def print (v : Json) : String := String.ofList v.chars

end Switchboard.Json
