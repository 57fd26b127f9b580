/-
# Headers

The header fields of a request, in their order.  A name is the same in either letter case; a look-up
takes the first field of a name, and a value counts as text only if it is printable.
-/
import Switchboard.Text.Utf8

namespace Switchboard.Http

/-- Header fields. -/
abbrev Headers := List (String × Bytes)

/-- A byte of printable text: ASCII from the space on, or a tab. -/
def isPrintable (b : UInt8) : Bool := b = 0x09 || (0x20 ≤ b && b ≤ 0x7e)

/-- A byte as the character with its number. -/
def byteChar (b : UInt8) : Char := Char.ofNat b.toNat

/-- A name without regard to letter case. -/
def foldCase (name : String) : List Char := name.toList.map Char.toLower

/-- The value of the first field with a name. -/
def first? (headers : Headers) (name : String) : Option Bytes :=
  (headers.find? fun h => foldCase h.1 == foldCase name).map Prod.snd

/-- The text of the first field with a name, if it is printable. -/
def text? (headers : Headers) (name : String) : Option String :=
  match first? headers name with
  | some value =>
    if value.all isPrintable then some (String.ofList (value.map byteChar)) else none
  | none => none

end Switchboard.Http
