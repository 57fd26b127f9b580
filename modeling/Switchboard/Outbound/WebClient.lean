/-
# The web client

How a post reaches Slack: a request to its web interface, under the bot's token.  The answer says in
its content whether the post was made; its status does not matter, except that two statuses allow no
content.
-/
import Switchboard.Http.Url
import Switchboard.Inbound.Payload
import Switchboard.Outbound.Slack
import Switchboard.Text.Quoted

namespace Switchboard.Outbound

/-- A client for one bot. -/
structure WebClient where
  token : String
  base : String := "https://slack.com/api"
  deriving DecidableEq, Repr

/-- A request as a server sees it. -/
structure ApiRequest where
  method : String
  url : Http.Url
  authorization : String
  contentType : String
  body : String
  deriving DecidableEq, Repr

/-- What a server answers. -/
structure ApiAnswer where
  status : Nat := 200
  body : Bytes
  deriving DecidableEq, Repr

/-- The content of an answer.  An answer that says that there is none, or that nothing has changed,
ends with its headers. -/
def ApiAnswer.content (a : ApiAnswer) : Bytes :=
  if a.status = 204 || a.status = 304 then [] else a.body

/-- What a server answers to a request; none if it cannot be reached. -/
abbrev Transport := ApiRequest → Option ApiAnswer

namespace WebClient

/-- The client with another address of the interface; slashes at its end do not count. -/
def withBase (c : WebClient) (base : String) : WebClient :=
  { c with base := String.ofList (Text.dropRight '/' base.toList) }

/-- The client as descriptions show it, without the token. -/
def describe (c : WebClient) : String :=
  s!"SlackWebClient \x7b api_base: {Text.quote c.base}, .. \x7d"

/-- Whether a token may stand in a header. -/
def isHeaderText (token : String) : Bool :=
  token.toList.all fun c => c = '\t' || (0x20 ≤ c.toNat && c ≠ '\x7f')

/-- Why a request was not sent, as a failure. -/
def unsent (why : String) : Failure := .network ("Failed to send message: " ++ why)

/-- The request that makes a post.  The user of the URL gives way to the token. -/
def request (c : WebClient) (post : SlackPost) (asUser : Bool := true) :
    Except Failure ApiRequest :=
  match Http.Url.read? (c.base ++ "/chat.postMessage") with
  | none => .error (unsent "builder error")
  | some url =>
    let url := url.withoutUser
    if !url.hasHost then .error (unsent s!"builder error for url ({url.text})")
    else if !isHeaderText c.token then .error (unsent "builder error")
    else if !url.isRequestable then .error (unsent s!"builder error for url ({url.text})")
    else .ok {
      method := "POST", url, authorization := "Bearer " ++ c.token,
      contentType := "application/json", body := (post.toJson asUser).print }

/-- Why an answer cannot be understood, as a failure. -/
def unreadable : Failure :=
  .parsing "Failed to parse chat.postMessage response: error decoding response body"

/-- Why Slack did not make a post, as a failure. -/
def refused (reason : String) : Failure := .slack ("Failed to post message: " ++ reason)

/-- What an answer says about the post. -/
def verdict (answer : ApiAnswer) : Except Failure Unit :=
  match Inbound.Payload.bodyJson? answer.content with
  | none => .error unreadable
  | some v =>
    if (v.get? "ok").bind Json.bool? = some true then .ok ()
    else .error (refused (((v.get? "error").bind Json.text?).getD "Unknown error"))

/-- Notes a post that was made. -/
def postedEvent (post : SlackPost) : Log.Event where
  level := .debug
  sentence := "Posted Slack message"
  details := [("channel", post.channel)]

/-- What came of a post: the outcome, the requests that were sent, and the log. -/
structure Report where
  outcome : Except Failure Unit
  sent : List ApiRequest := []
  log : List Log.Event := []

/-- Makes a post. -/
def post (c : WebClient) (transport : Transport) (p : SlackPost) (asUser : Bool := true) : Report :=
  match c.request p asUser with
  | .error e => { outcome := .error e }
  | .ok request =>
    match transport request with
    | none =>
      { outcome := .error (unsent s!"error sending request for url ({request.url.text})") }
    | some answer =>
      match verdict answer with
      | .ok () => { outcome := .ok (), sent := [request], log := [postedEvent p] }
      | .error e => { outcome := .error e, sent := [request] }

end WebClient
end Switchboard.Outbound
