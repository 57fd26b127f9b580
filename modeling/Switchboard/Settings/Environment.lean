/-
# Environment variables

The variables whose names start with `PARLEY_` make a layer of settings.  The rest of the name is a
path, with two underscores between its steps.  A value is taken for a truth value or a number where
it can be; the reasons for retries are a list, cut at every comma.
-/
import Switchboard.Settings.Path
import Switchboard.Text.Search
import Switchboard.Text.Utf8

namespace Switchboard.Settings

open Text Number

/-- Variables with their values. -/
abbrev Environment := List (String × String)

/-- What the names of the variables start with, in lower case. -/
def variableStart : List Char := "parley_".toList

/-- The key whose value is a list. -/
def listKey : String := "slack.errors_ignore_retry"

/-- Two underscores as one point. -/
def pointed (name : List Char) : List Char :=
  replaceHits (fun s => if ['_', '_'].isPrefixOf s then some 2 else none) ['.'] name

/-- The key that a variable sets, if it sets one. -/
def variableKey? (name : String) : Option String :=
  let lowered := lower name.toList
  if variableStart.isPrefixOf lowered then
    some (String.ofList (pointed (lowered.drop variableStart.length)))
  else none

/-- The value that a variable's text stands for. -/
def variableValue (key text : String) : Value :=
  let s := text.toList
  let lowered := lower s
  if lowered = "true".toList then .bool true
  else if lowered = "false".toList then .bool false
  else
    match integer64? s, float? s with
    | some n, _ => .whole n
    | none, some x => .real x
    | none, none =>
      if key = listKey then .list ((split ',' s).map fun piece => .text (String.ofList piece))
      else .text text

/-- The layer that the environment makes.  Nothing settles in which order its variables are taken, and
it matters where the path of one leads through the path of another; here they are taken in the order of
the environment. -/
def Environment.layer (env : Environment) : Layer :=
  env.filterMap fun (name, text) =>
    (variableKey? name).map fun key => (key, variableValue key text)

/-- The variables of an environment block, in which a zero byte ends each `NAME=value`. -/
def Environment.ofBlock (block : Bytes) : Environment :=
  (split 0 block).filterMap fun entry =>
    match (decode? entry).map (cut '=') with
    | some (name, some value) => some (String.ofList name, String.ofList value)
    | _ => none

/-- The value of a variable. -/
def Environment.get? (env : Environment) (name : String) : Option String := lookup name env

end Switchboard.Settings
