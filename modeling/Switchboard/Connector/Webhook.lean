/-
# The webhook

What the connector does with one request.  A retry that is to be passed over is acknowledged before
anything else; a request with a bad signature is turned away; a handshake is answered; and a message
goes to the engine.  However the engine ends, the client is told that all is well, as far as the guard
of the connector reaches: it is up only while the engine is waited for.
-/
import Switchboard.Connector.Signature
import Switchboard.Engine.Basic
import Switchboard.Inbound.Masking
import Switchboard.Inbound.Mention
import Switchboard.Inbound.Payload
import Switchboard.Http.Message
import Switchboard.Http.Mount

namespace Switchboard.Connector

open Inbound Outbound

/-- What handling a request has done.  A request without a response was dropped. -/
structure Outcome where
  response : Option Http.Response
  delivered : List UserMessage := []
  posts : List SlackPost := []
  log : List Log.Event := []
  attempts : Nat

/-- The circumstances in which a request is handled: the clock, the posting service, and how many
posts have been attempted before. -/
structure Circumstances where
  now : Int
  service : Service
  attempts : Nat

/-- The header with the number of a retry. -/
def retryCountHeader : String := "x-slack-retry-num"

/-- The header with the reason of a retry. -/
def retryReasonHeader : String := "x-slack-retry-reason"

/-- The number and reason of a retry that is passed over. -/
def suppressed? (c : Connector) (headers : Http.Headers) : Option (String × String) :=
  match Http.text? headers retryCountHeader, Http.text? headers retryReasonHeader with
  | some count, some reason =>
    if !count.isEmpty && c.ignores reason then some (count, reason) else none
  | _, _ => none

/-- The response to a retry that is passed over: no more retries, please. -/
def retryResponse : Http.Response := { status := 201, headers := [("x-slack-no-retry", "1")] }

/-- Notes a retry that is passed over. -/
def retryEvent (count reason : String) : Log.Event where
  level := .warning
  sentence := "Received retry request from Slack, not reprocessing"
  details := [("retry", count), ("reason", reason)]

/-- Notes a request that is turned away. -/
def rejectedEvent (e : SignatureError) : Log.Event where
  level := .warning
  sentence := "Rejected Slack webhook request"
  details := [("error", e.failure.message)]

/-- Notes a handshake. -/
def challengeEvent : Log.Event :=
  { level := .info, sentence := "Answering Slack URL verification challenge" }

/-- Notes a body without meaning for the connector. -/
def ignoredEvent : Log.Event :=
  { level := .debug, sentence := "Ignoring unrecognized Slack payload" }

/-- Notes a search for mentions that is left out. -/
def leftOutEvent : Log.Event where
  level := .warning
  sentence := "Skipping mention pattern"
  details := [("error", Search.tooBigMessage)]

/-- Notes a message. -/
def receivedEvent (m : UserMessage) : Log.Event where
  level := .info
  sentence := "Received Slack message"
  details := [("sender_id", m.sender), ("text", mask m.text)]

/-- The reason of a breakdown, as it is told. -/
def reasonOf : Engine.Debris → String
  | .text reason => reason
  | .thing _ => "unknown panic"

/-- Notes how the engine ended, unless it finished.  Of an error that breaks down over its account, and
of a collapse, there is nothing to note. -/
def endingEvents : Engine.Ending → List Log.Event
  | .finished => []
  | .failed (.told account _) =>
    [{ level := .error, sentence := "Exception when trying to handle message",
       details := [("error", account)] }]
  | .failed .untold => []
  | .brokeDown debris =>
    [{ level := .error, sentence := "Message handler panicked",
       details := [("panic", reasonOf debris)] }]
  | .collapsed => []

/-- Whether an ending stays inside the connector.  The guard is up while the engine is waited for, so
a breakdown is caught there; it is not up any more while the connector tells of the error, and lets go
of the error or of the debris. -/
def contains : Engine.Ending → Bool
  | .finished => true
  | .failed (.told _ isFragile) => !isFragile
  | .failed .untold => false
  | .brokeDown (.text _) => true
  | .brokeDown (.thing isFragile) => !isFragile
  | .collapsed => false

/-- The content type of a form. -/
def formType : String := "application/x-www-form-urlencoded"

/-- Whether the headers announce a form. -/
def announcesForm (headers : Http.Headers) : Bool :=
  (Http.text? headers "content-type").any fun t => formType.toList.isPrefixOf t.toList

/-- The message that the engine is handed. -/
def userMessage (c : Connector) (sender text : String) (receivedAt : Nat) : UserMessage where
  text
  sender
  inputChannel := c.name
  outputChannel := c.output.name
  receivedAt

/-- The outcome of a request that is answered without a delivery. -/
def Circumstances.answered (here : Circumstances) (response : Http.Response)
    (log : List Log.Event) : Outcome :=
  { response := some response, log, attempts := here.attempts }

/-- Hands a message to the engine and tells the client that all is well.  Where the ending is not
contained, the request is dropped. -/
def handOver (c : Connector) (engine : Engine) (here : Circumstances) (m : UserMessage) : Outcome :=
  let (o, ending) := (engine m).run here.service c.output m.sender { attempts := here.attempts }
  { response := if contains ending then some (.ofStatus 200) else none,
    delivered := [m], posts := o.posted.reverse,
    log := receivedEvent m :: o.log.reverse ++ endingEvents ending, attempts := o.attempts }

/-- Delivers a text.  A message bears the moment at which it was received, so one that comes while
the clock is outside the calendar is dropped. -/
def deliver (c : Connector) (engine : Engine) (here : Circumstances) (sender text : String) :
    Outcome :=
  match Instant.dated? here.now with
  | some moment => c.handOver engine here (c.userMessage sender text moment)
  | none => { response := none, attempts := here.attempts }

/-- Acts on the meaning of a body. -/
def actOn (c : Connector) (engine : Engine) (here : Circumstances) : Payload → Outcome
  | .challenge value => here.answered (.ofJson value.print) [challengeEvent]
  | .buttonClick sender text => c.deliver engine here sender text
  | .userMessage sender text ownIds =>
    let outcome := c.deliver engine here sender (sanitize text ownIds)
    { outcome with log := List.replicate (leftOut ownIds) leftOutEvent ++ outcome.log }
  | .unrecognized => here.answered (.ofStatus 200) [ignoredEvent]

/-- The meaning of a request. -/
def classify (headers : Http.Headers) (body : Bytes) : Payload × List Log.Event :=
  Payload.ofBody (announcesForm headers) body

/-- Handles a request that is neither too long nor a retry to be passed over. -/
def receive (c : Connector) (engine : Engine) (here : Circumstances) (headers : Http.Headers)
    (body : Bytes) : Outcome :=
  match c.verifyRequest here.now headers body with
  | (.error e, log) => here.answered (.ofStatus 401) (log ++ [rejectedEvent e])
  | (.ok (), log) =>
    let (payload, notes) := classify headers body
    let outcome := c.actOn engine here payload
    { outcome with log := log ++ notes ++ outcome.log }

/-- Handles a request to the webhook whose body is short enough. -/
def handle (c : Connector) (engine : Engine) (here : Circumstances) (headers : Http.Headers)
    (body : Bytes) : Outcome :=
  let outcome :=
    match c.suppressed? headers with
    | some (count, reason) => here.answered retryResponse [retryEvent count reason]
    | none => c.receive engine here headers body
  { outcome with log := Log.within c.activity outcome.log }

/-- The longest body that is accepted. -/
def maxBody : Nat := 2097152

/-- The response to a body that is too long. -/
def tooLongResponse : Http.Response :=
  .ofText 413 "Failed to buffer the request body: length limit exceeded"

/-- The response of the health probe. -/
def healthResponse : Http.Response :=
  .ofJson (Json.object [("status", .text "ok")]).print

/-- The response to a method that an endpoint does not have. -/
def wrongMethod (allowed : String) : Http.Response :=
  { status := 405, headers := [("allow", allowed)] }

/-- Handles a request to an endpoint. -/
def answer (c : Connector) (engine : Engine) (here : Circumstances) (endpoint : Http.Endpoint)
    (request : Http.Request) : Outcome :=
  match endpoint with
  | .health =>
    if request.method = "GET" || request.method = "HEAD" then here.answered healthResponse []
    else here.answered (wrongMethod "GET,HEAD") []
  | .webhook =>
    if request.method = "GET" || request.method = "HEAD" then here.answered (.ofStatus 200) []
    else if request.method = "POST" then
      if maxBody < request.body.length then here.answered tooLongResponse []
      else c.handle engine here request.headers request.body
    else here.answered (wrongMethod "GET,HEAD,POST") []

/-- A response as it is sent to a request: it tells its length, and one to `HEAD` has no body. -/
def finished (request : Http.Request) (response : Http.Response) : Http.Response :=
  if request.method = "HEAD" then response.withLength.withoutBody else response.withLength

/-- Handles a request to the connector below a mount point. -/
def serve (c : Connector) (engine : Engine) (mount : Http.Mount) (here : Circumstances)
    (request : Http.Request) : Outcome :=
  let outcome :=
    match mount.endpoint? request.path with
    | some endpoint => c.answer engine here endpoint request
    | none => here.answered (.ofStatus 404) []
  { outcome with response := outcome.response.map (finished request) }

/-- A request and the engine that it meets. -/
abbrev Call := Http.Request × Engine

/-- Handles requests in turn; the attempts of one are counted on in the next. -/
def serveAll (c : Connector) (mount : Http.Mount) (here : Circumstances) : List Call → List Outcome
  | [] => []
  | (request, engine) :: rest =>
    let outcome := c.serve engine mount here request
    outcome :: c.serveAll mount { here with attempts := outcome.attempts } rest

end Switchboard.Connector
