/-
# Buttons

A quick reply that is offered to the user: a label, and the text that comes back when the user
clicks it.
-/
import Switchboard.Record
import Switchboard.Text.Quoted

namespace Switchboard

/-- A quick reply. -/
structure Button where
  title : String
  payload : String
  deriving DecidableEq, Repr

namespace Button

/-- The object that stands for a button. -/
def toJson (b : Button) : Json := .object [("title", .text b.title), ("payload", .text b.payload)]

/-- Reads a button; both fields must be there. -/
def ofSource? {α : Type} [Record.Source α] (v : α) : Option Button :=
  match Record.slots? [["title"], ["payload"]] v with
  | some [title, payload] => do
    some ⟨← title.required Record.Source.text?, ← payload.required Record.Source.text?⟩
  | _ => none

/-- A button as descriptions show it. -/
def describe (b : Button) : String :=
  s!"Button \x7b title: {Text.quote b.title}, payload: {Text.quote b.payload} \x7d"

end Button
end Switchboard
