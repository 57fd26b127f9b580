/-
# Running the server

From the environment and the files to a server that listens.  Every step can fail; what has been
logged until then is part of the result.  Checking the settings goes as far as making the connector.
-/
import Switchboard.Server.Address
import Switchboard.Server.App
import Switchboard.Settings.Load

namespace Switchboard.Server

/-- Why an address cannot be listened on. -/
inductive BindError where
  | inUse
  | notLocal
  deriving DecidableEq, Repr

/-- Why the server does not run. -/
inductive RunError where
  | settings (e : Settings.LoadError)
  | credentials (e : CredentialsError)
  | mountPoint
  | address
  | binding (e : BindError)
  deriving DecidableEq, Repr

/-- What the error is about. -/
def RunError.subject : RunError → String
  | settings e => e.message
  | credentials _ => "Failed to configure the Slack connector"
  | mountPoint => "Failed to mount the Slack connector"
  | address => "Invalid server address"
  | binding _ => "Failed to bind to address"

/-- Whether an error breaks the program down instead of being reported. -/
def RunError.breaksDown : RunError → Bool
  | settings e => e.breaksDown
  | mountPoint => true
  | _ => false

/-- The failure of the connector behind an error, if there is one. -/
def RunError.failure? : RunError → Option Failure
  | credentials e => some e.failure
  | _ => none

/-- The error in one line. -/
def RunError.message (e : RunError) : String :=
  match e.failure? with
  | some f => e.subject ++ ": " ++ f.message
  | none => e.subject

/-- What lies behind the error. -/
def RunError.cause : RunError → String
  | settings _ => "invalid configuration"
  | credentials e => e.failure.message
  | mountPoint => "invalid path"
  | address => "invalid socket address syntax"
  | binding .inUse => "Address already in use (os error 98)"
  | binding .notLocal => "Cannot assign requested address (os error 99)"

/-- What the command line puts in the place of settings. -/
structure Overrides where
  host : Option String := none
  port : Option Nat := none
  deriving DecidableEq, Repr

/-- The settings with the overrides. -/
def Overrides.apply (o : Overrides) (s : Settings) : Settings :=
  { s with server.host := o.host.getD s.server.host, server.port := o.port.getD s.server.port }

/-- The addresses on which others listen already. -/
abbrev Taken := List Address

/-- Whether an IP address belongs to every machine: a loopback address or the unspecified one. -/
def Ip.isLocal : Ip → Bool
  | v4 bytes => bytes.head? = some 127 || bytes = [0, 0, 0, 0]
  | v6 groups =>
    groups = [0, 0, 0, 0, 0, 0, 0, 1] || groups = [0, 0, 0, 0, 0, 0, 0, 0] ||
      (groups.take 6 = [0, 0, 0, 0, 0, 0xffff] && (groups.getD 6 0 / 256 = 127))

/-- Whether an IP address stands for all addresses of the machine. -/
def Ip.isUnspecified : Ip → Bool
  | v4 bytes => bytes = [0, 0, 0, 0]
  | v6 groups => groups = [0, 0, 0, 0, 0, 0, 0, 0]

/-- Whether listening on one address keeps others from listening on the other. -/
def clash (a b : Address) : Bool :=
  a.port ≠ 0 && a.port = b.port && (a.ip = b.ip || a.ip.isUnspecified || b.ip.isUnspecified)

/-- Why an address cannot be listened on, if it cannot. -/
def bindError? (taken : Taken) (a : Address) : Option BindError :=
  if !a.ip.isLocal then some .notLocal
  else if taken.any (clash a) then some .inUse
  else none

/-- The address that the settings name. -/
def address? (s : ServerSettings) : Option Address :=
  Address.read? (s.host ++ ":" ++ toString s.port).toList

/-- Notes the connector. -/
def configuredEvent (s : Settings) (c : Connector) : Log.Event where
  level := .info
  sentence := "Slack connector configured"
  details := [("channel", Connector.describeOption c.channel), ("mount", s.server.mountPath)]

/-- Notes the address on which the server listens. -/
def listeningEvent (a : Address) : Log.Event :=
  { level := .info, sentence := "HTTP server listening on http://" ++ a.text }

/-- Notes the end of a run. -/
def shutdownEvents : List Log.Event :=
  [{ level := .info, sentence := "Shutdown signal received" },
   { level := .info, sentence := "Server shutdown complete" }]

/-- Runs the server with settings, until it is interrupted. -/
def runWith (taken : Taken) (s : Settings) : Except RunError Unit × List Log.Event :=
  match connector s with
  | .error e => (.error (.credentials e), [])
  | .ok c =>
    let configured := configuredEvent s c
    match mount? s c, address? s.server with
    | none, _ => (.error .mountPoint, [configured])
    | some _, none => (.error .address, [configured])
    | some _, some a =>
      match bindError? taken a with
      | some e => (.error (.binding e), [configured, listeningEvent a])
      | none => (.ok (), configured :: listeningEvent a :: shutdownEvents)

/-- Loads the settings and runs the server. -/
def run (env : Settings.Environment) (files : Settings.Files) (overrides : Overrides)
    (taken : Taken) : Except RunError Unit × List Log.Event :=
  match Settings.load env files with
  | .error e => (.error (.settings e), [])
  | .ok s => runWith taken (overrides.apply s)

/-- Notes that the settings are good. -/
def validEvent (c : Connector) : Log.Event where
  level := .info
  sentence := "Configuration is valid"
  details := [("slack", c.describe)]

/-- Checks settings. -/
def checkWith (s : Settings) : Except RunError Unit × List Log.Event :=
  match connector s with
  | .error e => (.error (.credentials e), [])
  | .ok c => (.ok (), [validEvent c])

/-- Loads the settings and checks them. -/
def check (env : Settings.Environment) (files : Settings.Files) :
    Except RunError Unit × List Log.Event :=
  match Settings.load env files with
  | .error e => (.error (.settings e), [])
  | .ok s => checkWith s

end Switchboard.Server
