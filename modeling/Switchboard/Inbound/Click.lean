/-
# Clicks

The document that reports a click on a button of an interactive message.  Only the first action
counts.
-/
import Switchboard.Record

namespace Switchboard.Inbound

open Record

/-- What was clicked. -/
structure ClickedAction where
  kind : Option String
  name : Option String
  deriving DecidableEq, Repr

/-- The report of a click. -/
structure Interaction where
  kind : String
  actions : List ClickedAction
  user : Option String
  deriving DecidableEq, Repr

/-- Reads an action. -/
def ClickedAction.ofTerm? (t : Json.Term) : Option ClickedAction :=
  match slots? [["type"], ["name"]] t with
  | some [kind, name] => do
    some ⟨← kind.optional Json.Term.text?, ← name.optional Json.Term.text?⟩
  | _ => none

/-- Reads the id of a user. -/
def userId? (t : Json.Term) : Option String :=
  match slots? [["id"]] t with
  | some [id] => id.required Json.Term.text?
  | _ => none

/-- Reads the report of a click. -/
def Interaction.ofTerm? (t : Json.Term) : Option Interaction :=
  match slots? [["type"], ["actions"], ["user"]] t with
  | some [kind, actions, user] => do
    some ⟨← kind.required Json.Term.text?, ← actions.orDefault [] (listOf? ClickedAction.ofTerm?),
      ← user.optional userId?⟩
  | _ => none

/-- Who clicked, and the payload of the button, if the report is of a click on a button. -/
def Interaction.click? (i : Interaction) : Option (String × String) :=
  if i.kind = "interactive_message" then
    match i.actions with
    | ⟨some "button", some name⟩ :: _ => i.user.map fun user => (user, name)
    | _ => none
  else none

end Switchboard.Inbound
