/-
# Reading YAML

A settings file in YAML is one document that is a table; a file without a document is an empty
table.  The keys of tables are texts or whole numbers, and the program breaks down at any other.
-/
import Switchboard.Settings.Yaml.Node
import Switchboard.Settings.ReadError
import Switchboard.Settings.Value

namespace Switchboard.Settings

namespace Yaml

open Number (float?)

/-- The name that a key makes. -/
def Node.name : Node → Except ReadError String
  | .text s => .ok s
  | .whole n => .ok (toString n)
  | _ => .error .oddKey

mutual

/-- The value of a node. -/
def Node.value : Node → Except ReadError Value
  | .bad => .ok .nothing
  | .null => .ok .nothing
  | .bool b => .ok (.bool b)
  | .whole n => .ok (.whole n)
  | .real text =>
    match float? text.toList with
    | some x => .ok (.real x)
    | none => .error .unreadable
  | .text s => .ok (.text s)
  | .list items => (itemValues items).map .list
  | .table entries => (entryValues [] entries).map .table

/-- The values of the items of a list. -/
def itemValues : List Node → Except ReadError (List Value)
  | [] => .ok []
  | n :: rest => do
    let v ← n.value
    return v :: (← itemValues rest)

/-- The values of the entries of a table; `done` has those before. -/
def entryValues (done : List (String × Value)) :
    List (Node × Node) → Except ReadError (List (String × Value))
  | [] => .ok done
  | (key, n) :: rest => do
    let name ← key.name
    let v ← n.value
    entryValues (put name v done) rest

end

/-- The entries that a document spells. -/
def read (text : String) : Except ReadError (List (String × Value)) :=
  match documents? text.toList with
  | some [] => .ok []
  | some [n] =>
    match n.value with
    | .ok (.table entries) => .ok entries
    | .ok _ => .error .unreadable
    | .error e => .error e
  | _ => .error .unreadable

end Yaml
end Switchboard.Settings
