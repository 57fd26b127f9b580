/-
# Output channels

A channel says how each kind of thing is sent through it.  A channel that can send text can send
the rest as text too; `Channel.ofText` fills in those forms.  A response is sent in three parts,
in a fixed order, whatever the channel.
-/
import Switchboard.Outbound.Plan
import Switchboard.Message.Response
import Switchboard.Message.UserMessage

namespace Switchboard.Outbound

/-- How things are sent; each operation takes the recipient first. -/
structure Channel (π : Type) where
  name : String
  text (recipient message : String) : Plan π
  image (recipient url caption : String) : Plan π
  attachment (recipient : String) (value : Json) (message : String) : Plan π
  buttons (recipient message : String) (bs : List Button) : Plan π

/-- The line that stands for a button, numbered from 1. -/
def buttonLine (b : Button) (index : Nat) : String :=
  s!"{index + 1}: {b.title} ({b.payload})"

/-- The text that stands for an image. -/
def imageText (url caption : String) : String :=
  if caption.isEmpty then "Image: " ++ url else caption ++ "\n\nImage: " ++ url

/-- The channel that sends everything as text. -/
def Channel.ofText {π : Type} (name : String) (text : String → String → Plan π) : Channel π where
  name
  text
  image recipient url caption := text recipient (imageText url caption)
  attachment recipient value message :=
    (if message.isEmpty then .done else text recipient message) >>
      text recipient ("Attachment: " ++ value.print)
  buttons recipient message bs :=
    text recipient message >> .forEach (fun (b, i) => text recipient (buttonLine b i)) bs.zipIdx

namespace Channel

variable {π : Type} (c : Channel π) (recipient : String)

/-- The text of a response, with its buttons if it has any. -/
def planText (r : Response) : Plan π :=
  match r.text, r.buttons with
  | some s, [] => c.text recipient s
  | none, [] => .done
  | s, bs => c.buttons recipient (s.getD "") bs

/-- The image of a response. -/
def planImage (r : Response) : Plan π :=
  match r.image with
  | some url => c.image recipient url ""
  | none => .done

/-- The attachment of a response. -/
def planAttachment (r : Response) : Plan π :=
  match r.attachment with
  | some value => c.attachment recipient value ""
  | none => .done

/-- A response: its text and buttons, then its image, then its attachment. -/
def respond (r : Response) : Plan π :=
  c.planText recipient r >> c.planImage recipient r >> c.planAttachment recipient r

end Channel

/-- A channel of plain text, whose posts are pairs of recipient and text. -/
def plainText (name : String) : Channel (String × String) :=
  .ofText name fun recipient message => .single (recipient, message)

/-- One use of a channel.  A reply to a message goes to its sender. -/
inductive Operation where
  | text (recipient message : String)
  | image (recipient url caption : String)
  | attachment (recipient : String) (value : Json) (message : String)
  | buttons (recipient message : String) (bs : List Button)
  | respond (recipient : String) (r : Response)
  | reply (m : UserMessage) (r : Response)

/-- The plan of one use. -/
def Operation.plan {π : Type} (c : Channel π) : Operation → Plan π
  | text recipient message => c.text recipient message
  | image recipient url caption => c.image recipient url caption
  | attachment recipient value message => c.attachment recipient value message
  | buttons recipient message bs => c.buttons recipient message bs
  | respond recipient r => c.respond recipient r
  | reply m r => c.respond m.sender r

end Switchboard.Outbound
