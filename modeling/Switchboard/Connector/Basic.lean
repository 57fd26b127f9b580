/-
# The connector

A connector holds what has been settled about one Slack app: where replies go, which retries are
not worth a second look, and the secret that requests are signed with.
-/
import Switchboard.Connector.Credentials
import Switchboard.Failure
import Switchboard.Text.Blank
import Switchboard.Text.Quoted
import Switchboard.Outbound.Slack

namespace Switchboard

/-- A connector that is ready to serve. -/
structure Connector where
  token : String
  channel : Option String := none
  ignoredReasons : List String
  secret : Option String := none
  activity : String := "slack_input"
  deriving DecidableEq, Repr

/-- What is wrong with credentials. -/
inductive CredentialsError where
  | missing
  | noToken
  | blankToken
  deriving DecidableEq, Repr

/-- What is wrong, as a failure. -/
def CredentialsError.failure : CredentialsError → Failure
  | missing => .configuration "no credentials given for the slack channel"
  | noToken => .configuration "slack_token not set"
  | blankToken => .configuration "slack_token must not be empty"

namespace Connector

/-- The reasons for a retry that are passed over unless others are given. -/
def defaultReasons : List String := ["http_timeout"]

/-- A connector without a secret; the token must hold more than blanks. -/
def create (token : String) (channel : Option String) (reasons : Option (List String)) :
    Except CredentialsError Connector :=
  if Text.allBlank token then .error .blankToken
  else .ok { token, channel, ignoredReasons := reasons.getD defaultReasons }

/-- Requires signatures under a secret; an empty secret requires none. -/
def withSecret (c : Connector) (secret : String) : Connector :=
  { c with secret := if secret.isEmpty then none else some secret }

/-- Places what the connector logs inside an activity. -/
def withActivity (c : Connector) (activity : String) : Connector := { c with activity }

/-- The connector that credentials make. -/
def ofCredentials : Option Credentials → Except CredentialsError Connector
  | none => .error .missing
  | some credentials =>
    match credentials.token with
    | none => .error .noToken
    | some token =>
      match create token credentials.channel credentials.ignoredReasons with
      | .error e => .error e
      | .ok c =>
        match credentials.secret with
        | some secret => .ok (c.withSecret secret)
        | none => .ok c

/-- The name of the connector's channel. -/
def name (_ : Connector) : String := Outbound.slackName

/-- Whether a retry for this reason is passed over. -/
def ignores (c : Connector) (reason : String) : Bool := c.ignoredReasons.contains reason

/-- The channel that replies go out on. -/
def output (c : Connector) : Outbound.Channel Outbound.SlackPost :=
  Outbound.slackChannel c.channel

/-- The reasons that are passed over, each once. -/
def distinctReasons (c : Connector) : List String := c.ignoredReasons.eraseDups

/-- An optional text as descriptions show it. -/
def describeOption : Option String → String
  | some s => s!"Some({Text.quote s})"
  | none => "None"

/-- The connector as descriptions show it, without token and secret. -/
def describe (c : Connector) : String :=
  let reasons := ", ".intercalate (c.distinctReasons.map Text.quote)
  s!"SlackInput \x7b slack_channel: {describeOption c.channel}, " ++
  s!"errors_ignore_retry: \x7b{reasons}\x7d, verifies_signatures: {c.secret.isSome}, .. \x7d"

end Connector
end Switchboard
