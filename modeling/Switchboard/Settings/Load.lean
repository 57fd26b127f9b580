/-
# Loading settings

Settings come in layers: what is built in, three files, and the environment.  Later layers count
before earlier ones.  Loading fails if a file cannot be read, or if the layers together do not make
settings.
-/
import Switchboard.Settings.Environment
import Switchboard.Settings.Files
import Switchboard.Settings.Schema

namespace Switchboard.Settings

/-- Why settings cannot be loaded: a file cannot be read, a key has an index that no list can
have, or the layers together do not make settings. -/
inductive LoadError where
  | file (e : ReadError)
  | index
  | unfit
  deriving DecidableEq, Repr

/-- The sentence that reports why settings cannot be loaded. -/
def LoadError.message : LoadError → String
  | file _ => "Failed to build configuration"
  | index => "Failed to build configuration"
  | unfit => "Failed to deserialize configuration"

/-- Whether an error breaks the program down instead of being reported. -/
def LoadError.breaksDown : LoadError → Bool
  | file e => e = .oddKey
  | index => true
  | unfit => false

/-- What is built in. -/
def defaults : Layer :=
  [("server", .table [("host", .text "0.0.0.0"), ("port", .whole 5005),
     ("mount_path", .text ServerSettings.defaultMountPath)]),
   ("slack", .table [("errors_ignore_retry", .list [.text "http_timeout"])])]

/-- The stage of deployment, which names one of the files. -/
def stage (env : Environment) : String := (env.get? "PARLEY_ENV").getD "development"

/-- The files that may give settings, without their endings. -/
def fileNames (env : Environment) : List String :=
  ["config/default", "config/" ++ stage env, "config/local"]

/-- The layer of a file; one that is not there makes an empty layer. -/
def fileLayer (files : Files) (name : String) : Except LoadError Layer :=
  match files.find? name with
  | some (format, text) => (format.read text).mapError .file
  | none => .ok []

/-- Lays a layer over what is there. -/
def lay (target : Value) (layer : Layer) : Except LoadError Value :=
  match overlay? target layer with
  | some made => .ok made
  | none => .error .index

/-- All layers, the lowest first. -/
def layers (env : Environment) (files : Files) : List (Except LoadError Layer) :=
  .ok defaults :: (fileNames env).map (fileLayer files) ++ [.ok env.layer]

/-- What the layers make, each over those before it; the first one that fails counts. -/
def build (env : Environment) (files : Files) : Except LoadError Value :=
  (layers env files).foldlM (fun target layer => layer.bind (lay target)) (.table [])

/-- Loads the settings. -/
def load (env : Environment) (files : Files) : Except LoadError Settings :=
  match build env files with
  | .error e => .error e
  | .ok v =>
    match Settings.ofSource? v with
    | some settings => .ok settings
    | none => .error .unfit

end Switchboard.Settings
