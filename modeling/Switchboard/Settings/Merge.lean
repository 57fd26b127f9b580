/-
# Merging

Putting a value under a name.  A table is merged into what is there entry by entry, at every depth;
any other value takes the place of what is there.  Names are the same in either letter case, and are
kept in lower case.
-/
import Switchboard.Settings.Value
import Switchboard.Text.Casing

namespace Switchboard.Settings

open Text

mutual

/-- Puts a value under a name of `target`, which becomes a table if it is none. -/
def mergeAt (target : Value) (name : String) : Value → Value
  | .table entries =>
    let here := (lookup (lowerString name) target.entries).getD (.table [])
    .table (put (lowerString name) (mergeEntries here entries) target.entries)
  | v => .table (put (lowerString name) v target.entries)

/-- Merges entries into `target` one after the other; without entries it stays as it is. -/
def mergeEntries (target : Value) : List (String × Value) → Value
  | [] => target
  | (name, v) :: rest => mergeEntries (mergeAt target name v) rest

end

end Switchboard.Settings
