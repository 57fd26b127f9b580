/-
# Credentials

The block of settings that makes a connector, each of them optional.  Three of the settings have a
second name.
-/
import Switchboard.Record
import Switchboard.Json.Printer

namespace Switchboard

/-- The settings of a connector as they are given. -/
structure Credentials where
  token : Option String := none
  channel : Option String := none
  ignoredReasons : Option (List String) := none
  secret : Option String := none
  deriving DecidableEq, Repr

namespace Credentials

/-- The names of the settings; the first of each is the one that is written. -/
def names : List Record.Names :=
  [["slack_token", "token"], ["slack_channel", "channel"],
   ["errors_ignore_retry", "errors_to_ignore_on_retry"], ["signing_secret"]]

/-- Reads the settings. -/
def ofSource? {α : Type} [Record.Source α] (v : α) : Option Credentials :=
  match Record.slots? names v with
  | some [token, channel, reasons, secret] => do
    some ⟨← token.omissible Record.Source.text?, ← channel.omissible Record.Source.text?,
      ← reasons.omissible (Record.listOf? Record.Source.text?),
      ← secret.omissible Record.Source.text?⟩
  | _ => none

/-- A text or null. -/
def textOrNull : Option String → Json
  | some s => .text s
  | none => .null

/-- A list of texts or null. -/
def listOrNull : Option (List String) → Json
  | some ss => .array (ss.map .text)
  | none => .null

/-- The object that stands for the settings. -/
def toJson (c : Credentials) : Json :=
  .object [("slack_token", textOrNull c.token), ("slack_channel", textOrNull c.channel),
    ("errors_ignore_retry", listOrNull c.ignoredReasons),
    ("signing_secret", textOrNull c.secret)]

end Credentials
end Switchboard
