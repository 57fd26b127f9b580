/-
# The echo engine

An engine that stands in for a real one: it says back what it was told and offers two quick replies,
and it has an answer to each of them.
-/
import Switchboard.Engine.Basic

namespace Switchboard.Engine

/-- The quick replies. -/
def echoButtons : List Button := [⟨"Yes", "/affirm"⟩, ⟨"No", "/deny"⟩]

/-- The answer to a text. -/
def echoResponse (text : String) : Response :=
  if text = "/affirm" then .ofText "Great!"
  else if text = "/deny" then .ofText "Maybe next time."
  else (Response.ofText ("You said: " ++ text)).withButtons echoButtons

/-- Notes that the engine has a message in hand. -/
def echoEvent (m : UserMessage) : Log.Event where
  level := .info
  sentence := "Echo engine handling message"
  details := [("sender_id", m.sender), ("channel", m.inputChannel)]

/-- Answers every message once. -/
def echo : Engine := fun m => .note (echoEvent m) (.replies [echoResponse m.text])

end Switchboard.Engine
