/-
# The Slack channel

Posts to Slack go to a configured channel where there is one, and to the recipient otherwise.  A
text goes out as one post for each of its paragraphs; buttons go out in an attachment, unless there
are more of them than Slack shows.
-/
import Switchboard.Outbound.Channel
import Switchboard.Outbound.Attachment

namespace Switchboard.Outbound

/-- One post to Slack, made as the bot itself. -/
structure SlackPost where
  channel : String
  text : Option String := none
  attachments : Option Json := none

/-- The object that asks Slack for a post, as the bot itself unless told otherwise. -/
def SlackPost.toJson (p : SlackPost) (asUser : Bool := true) : Json :=
  .object <|
    [("channel", .text p.channel), ("as_user", .bool asUser)] ++
    Response.member "text" (p.text.map .text) ++ Response.member "attachments" p.attachments

/-- Splits a text at every blank line, from left to right; the current paragraph and those before
it are reversed. -/
def paragraphsFrom (current : List Char) (done : List (List Char)) : List Char → List (List Char)
  | [] => (current.reverse :: done).reverse
  | '\n' :: '\n' :: rest => paragraphsFrom [] (current.reverse :: done) rest
  | c :: rest => paragraphsFrom (c :: current) done rest

/-- The paragraphs of a text that are not empty. -/
def paragraphs (message : String) : List String :=
  ((paragraphsFrom [] [] message.toList).filter fun p => !p.isEmpty).map String.ofList

/-- Tells that buttons are left out. -/
def tooManyButtons (n : Nat) : Log.Event where
  level := .warning
  sentence := "Slack allows only up to 5 buttons, sending text without buttons"
  details := [("count", toString n), ("max", toString maxButtons)]

/-- The posts of a text, one for each of its paragraphs. -/
def slackText (recipient message : String) : Plan SlackPost :=
  .forEach (fun p => .single { channel := recipient, text := some p }) (paragraphs message)

/-- The name that messages from and to Slack carry. -/
def slackName : String := "slack"

/-- The channel that posts to Slack, always to `override` if it is given. -/
def slackChannel (override : Option String) : Channel SlackPost where
  name := slackName
  text recipient message := slackText (override.getD recipient) message
  image recipient url caption :=
    let shown := Json.object [("image_url", .text url), ("text", .text caption)]
    .single { channel := override.getD recipient, attachments := some (.array [shown]) }
  attachment recipient value message :=
    .single { channel := override.getD recipient, text := some message, attachments := some value }
  buttons recipient message bs :=
    if maxButtons < bs.length then
      .note (tooManyButtons bs.length) (slackText (override.getD recipient) message)
    else
      .single { channel := override.getD recipient, text := some message,
                attachments := some (.array [buttonAttachment message bs]) }

end Switchboard.Outbound
