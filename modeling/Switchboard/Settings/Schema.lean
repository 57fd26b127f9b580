/-
# What the settings say

The settings of the server and the connector, and how they are read.  Layers of settings are
lenient: a text may be given as a truth value or a number, and the port as anything that makes a
number.
-/
import Switchboard.Settings.Value
import Switchboard.Connector.Credentials
import Switchboard.Number.Plain
import Switchboard.Number.Reading
import Switchboard.Text.Casing

namespace Switchboard

/-- Where the server listens, and below which path. -/
structure ServerSettings where
  host : String
  port : Nat
  mountPath : String
  deriving DecidableEq, Repr

/-- All settings. -/
structure Settings where
  server : ServerSettings
  credentials : Option Credentials
  deriving DecidableEq, Repr

namespace ServerSettings

/-- Where the connector is mounted unless the settings say otherwise. -/
def defaultMountPath : String := "/webhooks/slack"

/-- Reads a port. -/
def port? {α : Type} [Record.Source α] (v : α) : Option Nat :=
  match Record.Source.natural? v with
  | some n => if n < 65536 then some n else none
  | none => none

/-- Reads the settings of the server. -/
def ofSource? {α : Type} [Record.Source α] (v : α) : Option ServerSettings :=
  match Record.slots? [["host"], ["port"], ["mount_path"]] v with
  | some [host, port, mountPath] => do
    some ⟨← host.required Record.Source.text?, ← port.required port?,
      ← mountPath.orDefault defaultMountPath Record.Source.text?⟩
  | _ => none

/-- The object that stands for the settings of the server. -/
def toJson (s : ServerSettings) : Json :=
  .object [("host", .text s.host), ("port", .number (.whole s.port)),
    ("mount_path", .text s.mountPath)]

end ServerSettings

namespace Settings

/-- Reads all settings. -/
def ofSource? {α : Type} [Record.Source α] (v : α) : Option Settings :=
  match Record.slots? [["server"], ["slack"]] v with
  | some [server, slack] => do
    some ⟨← server.required ServerSettings.ofSource?, ← slack.omissible Credentials.ofSource?⟩
  | _ => none

/-- The object that stands for all settings. -/
def toJson (s : Settings) : Json :=
  .object [("server", s.server.toJson),
    ("slack", match s.credentials with
      | some c => c.toJson
      | none => .null)]

/-- A number of 64 bits without sign near a double: halves go away from zero, and what is out of
range goes to the nearest end. -/
def roundedNatural (x : Float) : Nat := x.round.toUInt64.toNat

/-- The natural number that a text names. -/
def naturalOfText? (s : String) : Option Nat :=
  let lowered := Text.lowerString s
  if lowered = "true" || lowered = "on" || lowered = "yes" then some 1
  else if lowered = "false" || lowered = "off" || lowered = "no" then some 0
  else Number.word64? s.toList

/-- The natural number that a value makes. -/
def Value.natural? : Value → Option Nat
  | .bool b => some b.toNat
  | .whole (.ofNat n) => some n
  | .real x => some (roundedNatural x)
  | .text s => naturalOfText? s
  | _ => none

/-- The text that a value makes. -/
def Value.text? : Value → Option String
  | .bool b => some (toString b)
  | .whole n => some (toString n)
  | .real x => some (Number.plainFloat x)
  | .text s => some s
  | .moment s => some s
  | _ => none

/-- Values of settings as a source of records; a list may be longer than the record. -/
instance : Record.Source Value where
  isNull
    | .nothing => true
    | _ => false
  text? := Value.text?
  natural? := Value.natural?
  items?
    | .list items => some items
    | _ => none
  shape?
    | .table entries => some (.named entries)
    | .list items => some (.listed items)
    | _ => none
  allowsExtraItems := true

end Settings
end Switchboard
