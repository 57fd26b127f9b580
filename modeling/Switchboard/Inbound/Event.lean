/-
# Event callbacks

The body that reports an event in a workspace: the event itself, and the users on whose behalf it
is delivered, which are the bot's own.
-/
import Switchboard.Record

namespace Switchboard.Inbound

open Record

/-- What happened. -/
structure Event where
  kind : Option String
  text : Option String
  user : Option String
  botId : Option String
  deriving DecidableEq, Repr

/-- The body of a callback; an authorization counts by the user it names, if it names one. -/
structure Callback where
  event : Option Event
  authedUsers : List String
  authorized : List (Option String)
  deriving DecidableEq, Repr

/-- Reads an event. -/
def Event.ofJson? (v : Json) : Option Event :=
  match slots? [["type"], ["text"], ["user"], ["bot_id"]] v with
  | some [kind, text, user, botId] => do
    some ⟨← kind.optional Json.text?, ← text.optional Json.text?, ← user.optional Json.text?,
      ← botId.optional Json.text?⟩
  | _ => none

/-- Reads the user of an authorization. -/
def authorizedUser? (v : Json) : Option (Option String) :=
  match slots? [["user_id"]] v with
  | some [user] => user.optional Json.text?
  | _ => none

/-- Reads a callback. -/
def Callback.ofJson? (v : Json) : Option Callback :=
  match slots? [["event"], ["authed_users"], ["authorizations"]] v with
  | some [event, users, authorized] => do
    some ⟨← event.optional Event.ofJson?, ← users.orDefault [] (listOf? Json.text?),
      ← authorized.orDefault [] (listOf? authorizedUser?)⟩
  | _ => none

/-- The kinds of event that carry a message. -/
def messageKinds : List String := ["message", "app_mention"]

/-- Whether an event is a message that a user has written: bots have a number of their own. -/
def Event.isUserMessage (e : Event) : Bool :=
  (e.kind.any messageKinds.contains) && (e.text.any fun t => !t.isEmpty) &&
    (e.botId.all String.isEmpty)

/-- Adds an id that is not there yet. -/
def addId (ids : List String) (id : String) : List String :=
  if ids.contains id then ids else ids ++ [id]

/-- The ids under which the bot may be mentioned: those given outright, and those of the
authorizations that are not among them yet. -/
def Callback.ownIds (c : Callback) : List String :=
  (c.authorized.filterMap id).foldl addId c.authedUsers

end Switchboard.Inbound
