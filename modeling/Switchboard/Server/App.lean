/-
# The application

A connector with the echo engine, mounted where the settings say.
-/
import Switchboard.Connector.Webhook
import Switchboard.Engine.Echo
import Switchboard.Settings.Schema

namespace Switchboard.Server

/-- What is being served. -/
structure App where
  connector : Connector
  mount : Http.Mount

/-- The activity inside which the server's connector logs. -/
def activity : String := "slack"

/-- The connector that the settings make. -/
def connector (s : Settings) : Except CredentialsError Connector :=
  (Connector.ofCredentials s.credentials).map fun c => c.withActivity activity

/-- Mounts a connector; not every path can be a mount point. -/
def mount? (s : Settings) (c : Connector) : Option App :=
  (Http.Mount.ofPath? s.server.mountPath).map fun m => ⟨c, m⟩

/-- Handles requests in turn. -/
def App.serveAll (app : App) (here : Connector.Circumstances) (requests : List Http.Request) :
    List Connector.Outcome :=
  app.connector.serveAll app.mount here (requests.map fun r => (r, Engine.echo))

end Switchboard.Server
