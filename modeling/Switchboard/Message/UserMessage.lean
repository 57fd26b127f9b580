/-
# User messages

What the engine is handed: a text, who sent it, through which channel it came, through which channel
a reply goes, and when it was received.
-/
import Switchboard.Message.Instant
import Switchboard.Text.Quoted

namespace Switchboard

/-- A message from a user. -/
structure UserMessage where
  text : String
  sender : String
  inputChannel : String
  outputChannel : String
  /-- In seconds since the start of 1970. -/
  receivedAt : Nat
  deriving DecidableEq, Repr

/-- A message as descriptions show it, with its number. -/
def UserMessage.describe (m : UserMessage) (id : String) : String :=
  s!"UserMessage \x7b message_id: {id}, text: {Text.quote m.text}, " ++
  s!"output_channel: {Text.quote m.outputChannel}, sender_id: {Text.quote m.sender}, " ++
  s!"input_channel: {Text.quote m.inputChannel}, received_at: {Instant.text m.receivedAt} \x7d"

end Switchboard
