/-
# Code point sets

A property of characters is stored as the list of its ranges.  Looking a character up walks the
list and stops at the first range that starts above it, so the ranges must be in increasing order.
Long tables are written in lines of words in base sixteen.
-/
import Switchboard.Text.Search

namespace Switchboard.Text

/-- Disjoint closed ranges of code points, in increasing order. -/
abbrev Ranges := List (Nat × Nat)

/-- Membership in one of the ranges. -/
def Ranges.has : Ranges → Nat → Bool
  | [], _ => false
  | (lo, hi) :: rest, n => if n < lo then false else n ≤ hi || Ranges.has rest n

/-- The number that digits in base sixteen spell. -/
def ofHex (digits : List Char) : Nat :=
  digits.foldl (fun n c => 16 * n + if c.isDigit then c.toNat - 0x30 else c.toNat - 0x57) 0

/-- The words of a table, which is given in lines with spaces between the words. -/
def tableWords (table : List String) : List (List Char) :=
  table.flatMap fun line => split ' ' line.toList

/-- The first and the last code point that a word like `5d0-5ea` names, or `5be` for one alone. -/
def rangeOf (w : List Char) : Nat × Nat :=
  match cut '-' w with
  | (lo, some hi) => (ofHex lo, ofHex hi)
  | (lo, none) => (ofHex lo, ofHex lo)

/-- The ranges that a table names. -/
def Ranges.ofTable (table : List String) : Ranges := (tableWords table).map rangeOf

end Switchboard.Text
