/-
# File formats

The formats in which files may give settings, told apart by the ending of the file's name.
-/
import Switchboard.Settings.Ini
import Switchboard.Settings.Json5
import Switchboard.Settings.Ron
import Switchboard.Settings.Toml.Reader
import Switchboard.Settings.Yaml.Reader

namespace Switchboard.Settings

/-- A format that can be read. -/
inductive Format where
  | toml
  | json
  | yaml
  | ini
  | ron
  | json5
  deriving DecidableEq, Repr

namespace Format

/-- All formats, with the endings of their files. -/
def endings : List (String × Format) := 
  [("toml", toml), ("json", json), ("yaml", yaml), ("yml", yaml), ("ini", ini), ("ron", ron),
   ("json5", json5)]

/-- A number of a JSON document; a whole number that does not fit 64 bits with a sign is real. -/
def ofNumber : Json.Number → Value
  | .whole n => if n < Nat.pow 2 63 then .whole n else .real (Float.ofInt n)
  | .double x => .real x

mutual

/-- A JSON value as a value of settings. -/
def ofJson : Json → Value
  | .null => .nothing
  | .bool b => .bool b
  | .number n => ofNumber n
  | .text s => .text s
  | .array items => .list (ofItems items)
  | .object members => .table (ofMembers members)

/-- JSON values as values of settings. -/
def ofItems : List Json → List Value
  | [] => []
  | v :: rest => ofJson v :: ofItems rest

/-- The members of a JSON object as entries. -/
def ofMembers : List (String × Json) → List (String × Value)
  | [] => []
  | (key, v) :: rest => (key, ofJson v) :: ofMembers rest

end

/-- The layer that a JSON document makes, which must be an object. -/
def readJson? (text : String) : Option (List (String × Value)) :=
  match Json.read? text.toList with
  | some (.object members) => some (ofMembers members)
  | _ => none

/-- A text without the mark of byte order that may stand in front of it. -/
def unmarked (text : String) : String :=
  match text.toList with
  | '\ufeff' :: rest => String.ofList rest
  | _ => text

/-- The layer that a document makes, if it can be read. -/
def readable (layer : Option (List (String × Value))) : Except ReadError (List (String × Value)) :=
  match layer with
  | some entries => .ok entries
  | none => .error .unreadable

/-- The layer that the text of a file makes. -/
def read (format : Format) (text : String) : Except ReadError (List (String × Value)) :=
  let text := unmarked text
  match format with
  | toml => readable (Toml.read? text)
  | json => readable (readJson? text)
  | yaml => Yaml.read text
  | ini => readable (Ini.read? text)
  | ron => readable (Ron.read? text)
  | json5 => readable (Json5.read? text)

end Format
end Switchboard.Settings
