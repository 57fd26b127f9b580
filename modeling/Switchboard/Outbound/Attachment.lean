/-
# Button attachments

Slack shows quick replies as the actions of an attachment.  An action carries the button's payload
under two names, and the attachment carries a tag that comes back with every click.  Members stand
in the order of their keys.
-/
import Switchboard.Message.Button

namespace Switchboard.Outbound

/-- The most buttons that one message may show. -/
def maxButtons : Nat := 5

/-- The most characters of a tag. -/
def callbackIdLength : Nat := 20

/-- The action that stands for a button. -/
def action (b : Button) : Json :=
  .object [("name", .text b.payload), ("text", .text b.title), ("type", .text "button"),
    ("value", .text b.payload)]

/-- The actions of all buttons, in their order. -/
def actions (bs : List Button) : List Json := bs.map action

/-- What a tag is made from: the message, or all titles where the message is empty. -/
def callbackSource (message : String) (bs : List Button) : List Char :=
  if message.isEmpty then bs.flatMap fun b => b.title.toList else message.toList

/-- The tag: the first characters of its source, with underscores for spaces. -/
def callbackId (message : String) (bs : List Button) : String :=
  String.ofList <|
    ((callbackSource message bs).map fun c => if c = ' ' then '_' else c).take callbackIdLength

/-- The attachment that shows buttons. -/
def buttonAttachment (message : String) (bs : List Button) : Json :=
  .object [("actions", .array (actions bs)), ("callback_id", .text (callbackId message bs)),
    ("fallback", .text message)]

end Switchboard.Outbound
