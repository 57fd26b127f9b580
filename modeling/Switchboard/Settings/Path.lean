/-
# Paths

A key may say where in the settings its value belongs: `server.port` is the port of the server, and
`names[0]` the first of the names.  A step on the way that is missing, or of the wrong kind, is
made.
-/
import Switchboard.Settings.Merge
import Switchboard.Number.Reading

namespace Switchboard.Settings

open Number (integer64? isDigit)

/-- One step of a path. -/
inductive Step where
  | name (key : String)
  | index (i : Int)
  deriving DecidableEq, Repr

/-- No list grows longer than this.  Settings as such know no bound, and a list is as long as memory
allows; the bound here stands for that. -/
def longestList : Nat := Nat.pow 2 25

/-- The place of an index in a list of `n` items, if the list has it or can grow to have it; a
negative index counts from the end. -/
def place? (i : Int) (n : Nat) : Option Nat :=
  if 0 ≤ i then if i.toNat < longestList then some i.toNat else none
  else if i.natAbs ≤ n then some (n - i.natAbs)
  else none

/-- The items with a value at a place; missing items before it are nothing. -/
def setItem (items : List Value) (spot : Nat) (v : Value) : List Value :=
  (items ++ List.replicate (spot + 1 - items.length) Value.nothing).set spot v

/-- Puts a value at the end of a path that starts at `target`; `none` if the path has an index
that no list can have. -/
def assign? (v : Value) (target : Value) : List Step → Option Value
  | [] => some v
  | [.name key] => some (mergeAt target key v)
  | .name key :: rest =>
    let here := (lookup key target.entries).getD .nothing
    (assign? v here rest).map fun made => .table (put key made target.entries)
  | .index i :: rest =>
    match place? i target.items.length with
    | some spot =>
      let here := (target.items[spot]?).getD .nothing
      (assign? v here rest).map fun made => .list (setItem target.items spot made)
    | none => none

/-- A character of a name in a path. -/
def isNameChar (c : Char) : Bool :=
  ('a' ≤ c && c ≤ 'z') || ('A' ≤ c && c ≤ 'Z') || isDigit c || c = '_' || c = '-' || c = ' '

/-- A whole number of 64 bits, with a sign if it is negative. -/
def index? (s : List Char) : Option Int :=
  if s.head? = some '+' then none else integer64? s

/-- Blanks around an index. -/
def isIndexBlank (c : Char) : Bool := c = ' ' || c = '\t'

/-- What stands between brackets, without the blanks at both ends. -/
def bracketed (s : List Char) : List Char :=
  ((s.dropWhile isIndexBlank).reverse.dropWhile isIndexBlank).reverse

/-- Reads the steps after the first; `done` has those before, reversed. -/
def stepsFrom (done : List Step) (s : List Char) : Option (List Step) :=
  match s with
  | [] => some done.reverse
  | c :: rest =>
    if c = '.' then
      let name := rest.takeWhile isNameChar
      if name.isEmpty then none
      else stepsFrom (.name (String.ofList name) :: done) (rest.dropWhile isNameChar)
    else if c = '[' then
      match index? (bracketed (rest.takeWhile (· ≠ ']'))), _h : rest.dropWhile (· ≠ ']') with
      | some i, _ :: after => stepsFrom (.index i :: done) after
      | _, _ => none
    else none
  termination_by s.length
  decreasing_by
    · have := (List.dropWhile_sublist isNameChar (l := rest)).length_le
      simp only [List.length_cons]; omega
    · have := (List.dropWhile_sublist (· ≠ ']') (l := rest)).length_le
      rw [_h] at this; simp only [List.length_cons] at *; omega

/-- The path that a key spells. -/
def path? (key : String) : Option (List Step) :=
  let name := key.toList.takeWhile isNameChar
  if name.isEmpty then none
  else stepsFrom [.name (String.ofList name)] (key.toList.dropWhile isNameChar)

/-- The path of a key, which is the same in either letter case; one that spells no path is a name as
it stands. -/
def pathOf (key : String) : List Step := (path? (Text.lowerString key)).getD [.name key]

/-- Keys and their values, as one source of settings gives them. -/
abbrev Layer := List (String × Value)

/-- Lays a layer over what is there; `none` if a key has an index that no list can have. -/
def overlay? (target : Value) (layer : Layer) : Option Value :=
  layer.foldlM (fun target (key, v) => assign? v target (pathOf key)) target

end Switchboard.Settings
