/-
# Log events

What the connector tells its operator.  An event has a level, a sentence, named details, and the
name of the activity inside which it happened, if any.
-/

namespace Switchboard.Log

/-- How much an event matters. -/
inductive Level where
  | debug
  | info
  | warning
  | error
  deriving DecidableEq, Repr

/-- The name of a level as logs show it. -/
def Level.name : Level → String
  | debug => "DEBUG"
  | info => "INFO"
  | warning => "WARN"
  | error => "ERROR"

/-- An event with its details in the order of their mention. -/
structure Event where
  level : Level
  sentence : String
  details : List (String × String) := []
  activity : Option String := none
  deriving DecidableEq, Repr

/-- An event in one line. -/
def Event.line (e : Event) : String :=
  e.level.name ++ " " ++ e.sentence ++ String.join (e.details.map fun d => s!" {d.1}={d.2}")

/-- Places events inside an activity. -/
def within (activity : String) (events : List Event) : List Event :=
  events.map fun e => { e with activity := some activity }

end Switchboard.Log
