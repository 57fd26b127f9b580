/-
# Payloads

What the body of a webhook request says: a handshake to be answered, a click on a button, a message
from a user, or nothing that concerns the connector.
-/
import Switchboard.Inbound.Event
import Switchboard.Inbound.Click
import Switchboard.Inbound.Form
import Switchboard.Log

namespace Switchboard.Inbound

/-- The meaning of a body. -/
inductive Payload where
  | challenge (value : Json)
  | buttonClick (sender text : String)
  | userMessage (sender text : String) (ownIds : List String)
  | unrecognized

namespace Payload

/-- Notes a click report that cannot be read.  What the reader says is wrong with it belongs to the note
as well, and is left out here, since the readers of this library do not say. -/
def unreadableClick : Log.Event :=
  { level := .debug, sentence := "Unparseable interactive payload, ignoring" }

/-- Notes an event report that cannot be read; what is wrong with it is left out as well. -/
def unreadableEvent : Log.Event :=
  { level := .debug, sentence := "Unrecognized event payload, ignoring" }

/-- The meaning of the document in a form's payload field. -/
def ofClickText (s : String) : Payload × List Log.Event :=
  match (Json.Term.read? s.toList).bind Interaction.ofTerm? with
  | none => (unrecognized, [unreadableClick])
  | some report =>
    match report.click? with
    | some (sender, text) => (buttonClick sender text, [])
    | none => (unrecognized, [])

/-- The meaning of a form. -/
def ofForm (pairs : List (String × String)) : Payload × List Log.Event :=
  match lastValue? "payload" pairs with
  | some s => ofClickText s
  | none => (unrecognized, [])

/-- The meaning of a callback. -/
def ofCallback (c : Callback) : Payload :=
  match c.event with
  | some e =>
    if e.isUserMessage then userMessage (e.user.getD "") (e.text.getD "") c.ownIds
    else unrecognized
  | none => unrecognized

/-- The meaning of a JSON body.  A challenge counts before anything else. -/
def ofJson (v : Json) : Payload × List Log.Event :=
  match v.get? "challenge" with
  | some value => (challenge value, [])
  | none =>
    match Callback.ofJson? v with
    | some c => (ofCallback c, [])
    | none => (unrecognized, [unreadableEvent])

/-- The value of a body that is a JSON document. -/
def bodyJson? (body : Bytes) : Option Json := (Text.decode? body).bind Json.read?

/-- The meaning of a body that is taken for JSON. -/
def ofJsonBody (body : Bytes) : Payload × List Log.Event :=
  match bodyJson? body with
  | some v => ofJson v
  | none => (unrecognized, [])

/-- The meaning of a body.  A body that is taken for a form but has no fields is taken for JSON. -/
def ofBody (isForm : Bool) (body : Bytes) : Payload × List Log.Event :=
  if isForm then
    match formPairs body with
    | [] => ofJsonBody body
    | pairs => ofForm pairs
  else ofJsonBody body

end Payload
end Switchboard.Inbound
