/-
# Sessions

The uses of a channel one after another.  The attempts of one use are counted on in the next, so the
posting service sees one row of attempts.
-/
import Switchboard.Outbound.Channel

namespace Switchboard.Outbound

/-- What came of one use of a channel: the items that went out, the attempts made before and after
it, the events, and the failure that it returned, if it failed. -/
structure Use (π : Type) where
  operation : Operation
  before : Nat
  posted : List π
  after : Nat
  log : List Log.Event
  failure : Option Failure

namespace Channel

variable {π : Type} (c : Channel π)

/-- Uses the channel once, after `before` attempts. -/
def perform (service : Service) (before : Nat) (operation : Operation) : Use π :=
  let (o, failure) := (operation.plan c).run service { attempts := before }
  { operation, before, posted := o.posted.reverse, after := o.attempts, log := o.log.reverse,
    failure }

/-- Uses the channel several times. -/
def performAll (service : Service) (before : Nat) : List Operation → List (Use π)
  | [] => []
  | operation :: rest =>
    let use := c.perform service before operation
    use :: performAll service use.after rest

/-- What one use posts where no post fails. -/
def posts (operation : Operation) : List π := (c.perform .faultless 0 operation).posted

end Channel
end Switchboard.Outbound
