/-
# Sending plans

What to send is laid out first and carried out afterwards.  A plan posts items one after another and
says of every post how to go on, whether it went out or failed.  `p >> q` goes on with `q` only where
`p` got done, so a failure of `p` is a failure of the whole.
-/
import Switchboard.Failure
import Switchboard.Log

namespace Switchboard.Outbound

/-- A plan of sending.  What follows a post depends on the failure of the post, if it failed. -/
inductive Plan (π : Type) where
  | done
  | stop (failure : Failure)
  | note (event : Log.Event) (next : Plan π)
  | post (item : π) (next : Option Failure → Plan π)

/-- What the posting service makes of each attempt, counted from 1. -/
abbrev Service := Nat → Option Failure

/-- The service that every post gets through. -/
def Service.faultless : Service := fun _ => none

/-- What sending has done so far, the latest first. -/
structure Outbox (π : Type) where
  attempts : Nat
  posted : List π := []
  log : List Log.Event := []

/-- The same outbox with one more event. -/
def Outbox.note {π : Type} (o : Outbox π) (event : Log.Event) : Outbox π :=
  { o with log := event :: o.log }

/-- The outbox after an attempt to post an item. -/
def Outbox.attempt {π : Type} (o : Outbox π) (item : π) : Option Failure → Outbox π
  | none => { o with attempts := o.attempts + 1, posted := item :: o.posted }
  | some _ => { o with attempts := o.attempts + 1 }

namespace Plan

variable {π α : Type}

/-- Posts one item, and stops if that fails. -/
def single (item : π) : Plan π :=
  .post item fun
    | none => .done
    | some failure => .stop failure

/-- Goes on with a second plan where the first got done. -/
def andThen (p : Plan π) (q : Unit → Plan π) : Plan π :=
  match p with
  | done => q ()
  | stop failure => .stop failure
  | note event next => .note event (next.andThen q)
  | post item next => .post item fun failure => (next failure).andThen q

instance : AndThen (Plan π) := ⟨andThen⟩

/-- Carries out the plans for some things in turn. -/
def forEach (f : α → Plan π) : List α → Plan π
  | [] => .done
  | a :: rest => f a >> forEach f rest

/-- Carries out a plan: `none` if it got done, else the failure with which it stopped. -/
def run (service : Service) (o : Outbox π) : Plan π → Outbox π × Option Failure
  | done => (o, none)
  | stop failure => (o, some failure)
  | note event next => next.run service (o.note event)
  | post item next =>
    let failure := service (o.attempts + 1)
    (next failure).run service (o.attempt item failure)

/-- The items that a plan posts where no post fails. -/
def items : Plan π → List π
  | done => []
  | stop _ => []
  | note _ next => next.items
  | post item next => item :: (next none).items

end Plan
end Switchboard.Outbound
