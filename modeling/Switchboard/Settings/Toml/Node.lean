/-
# TOML documents under construction

A document is built up line by line.  Each table remembers how it came to be, since that decides
what may still be added to it: a header may name a table that so far was only passed through, a
dotted key may add to a table that dotted keys have made, and nothing is ever defined twice.
-/
import Switchboard.Settings.Value

namespace Switchboard.Settings.Toml

/-- How a table came to be: on the way of a longer header, by its own header, or on the way of a
dotted key. -/
inductive Origin where
  | passed
  | header
  | dotted
  deriving DecidableEq, Repr

/-- A part of a document: a finished value, a table, or an array of tables with the last first. -/
inductive Node where
  | leaf (v : Value)
  | branch (origin : Origin) (entries : List (String × Node))
  | rows (last : List (String × Node)) (before : List (List (String × Node)))

/-- The entries of a table under construction. -/
abbrev Entries := List (String × Node)

/-- Changes the table at the end of a path of headers; tables on the way are made as needed. -/
def atHeader (change : Entries → Option Entries) : List String → Entries → Option Entries
  | [], entries => change entries
  | key :: path, entries =>
    match lookup key entries with
    | none => (atHeader change path []).map fun made => put key (.branch .passed made) entries
    | some (.leaf _) => none
    | some (.branch origin inner) =>
      (atHeader change path inner).map fun inner => put key (.branch origin inner) entries
    | some (.rows last before) =>
      (atHeader change path last).map fun last => put key (.rows last before) entries

/-- Opens a table for its header: a new one, or one that was only passed through.  It becomes the
last entry of its table. -/
def openTable (key : String) (entries : Entries) : Option Entries :=
  match lookup key entries with
  | none => some (put key (.branch .header []) entries)
  | some (.branch .passed inner) =>
    some (put key (.branch .header inner) (entries.filter fun e => e.1 ≠ key))
  | some _ => none

/-- Adds a table to an array of tables. -/
def openRow (key : String) (entries : Entries) : Option Entries :=
  match lookup key entries with
  | none => some (put key (.rows [] []) entries)
  | some (.rows last before) => some (put key (.rows [] (last :: before)) entries)
  | some _ => none

/-- Adds a value to a table. -/
def addLeaf (key : String) (v : Value) (entries : Entries) : Option Entries :=
  match lookup key entries with
  | none => some (put key (.leaf v) entries)
  | some _ => none

/-- Adds a value below a table by a dotted key.  The table that the key ends in, if it is not the
one that the line belongs to, must be one that dotted keys have made. -/
def addDotted (key : String) (v : Value) : List String → Entries → Option Entries
  | [], entries => addLeaf key v entries
  | part :: path, entries =>
    match lookup part entries with
    | none => (addDotted key v path []).map fun made => put part (.branch .dotted made) entries
    | some (.branch .dotted inner) =>
      (addDotted key v path inner).map fun inner => put part (.branch .dotted inner) entries
    | some (.branch .passed inner) =>
      if path.isEmpty then none
      else (addDotted key v path inner).map fun inner => put part (.branch .passed inner) entries
    | some (.branch .header _) => none
    | some (.rows last before) =>
      if path.isEmpty then none
      else (addDotted key v path last).map fun last => put part (.rows last before) entries
    | some (.leaf _) => none

mutual

/-- The value of a finished part. -/
def Node.value : Node → Value
  | .leaf v => v
  | .branch _ entries => .table (entryValues entries)
  | .rows last before => .list (rowValues [.table (entryValues last)] before)

/-- The values of the entries of a table. -/
def entryValues : Entries → List (String × Value)
  | [] => []
  | (key, node) :: rest => (key, node.value) :: entryValues rest

/-- The values of the tables of an array, in front of those that follow them. -/
def rowValues (after : List Value) : List Entries → List Value
  | [] => after
  | row :: rest => rowValues (.table (entryValues row) :: after) rest

end

end Switchboard.Settings.Toml
