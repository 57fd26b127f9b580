/-
# Histories

Requests one after another, each with the moment at which it comes and the engine that it meets, and
what came of each of them.  The clock may move between requests in any way.  `Connector.serveAll` is
the history in which it stands still.
-/
import Switchboard.Connector.Webhook

namespace Switchboard

/-- A request that comes at a moment and meets an engine. -/
structure Visit where
  now : Int
  request : Http.Request
  engine : Engine

/-- A visit, how many posts had been attempted before it, and what came of it. -/
structure Exchange where
  visit : Visit
  before : Nat
  outcome : Connector.Outcome

namespace Connector

/-- What comes of a visit after `before` attempts. -/
def receiveVisit (c : Connector) (mount : Http.Mount) (service : Outbound.Service) (before : Nat)
    (v : Visit) : Exchange where
  visit := v
  before
  outcome := c.serve v.engine mount { now := v.now, service, attempts := before } v.request

/-- What comes of visits in turn. -/
def history (c : Connector) (mount : Http.Mount) (service : Outbound.Service) (before : Nat) :
    List Visit → List Exchange
  | [] => []
  | v :: rest =>
    let e := c.receiveVisit mount service before v
    e :: c.history mount service e.outcome.attempts rest

/-- A call in the circumstances of the moment. -/
def Circumstances.visit (here : Circumstances) (call : Call) : Visit :=
  ⟨here.now, call.1, call.2⟩

/-- Requests that all come at one moment make a history like any other. -/
theorem serveAll_eq_history (c : Connector) (mount : Http.Mount) (here : Circumstances)
    (calls : List Call) :
    c.serveAll mount here calls =
      (c.history mount here.service here.attempts (calls.map here.visit)).map
        Exchange.outcome := by
  induction calls generalizing here with
  | nil => rfl
  | cons call rest ih =>
      simp only [serveAll, List.map_cons, history]
      rw [ih]
      rfl

/-- Each exchange of a history is what came of its visit. -/
theorem eq_receiveVisit_of_mem {c : Connector} {mount : Http.Mount} {service : Outbound.Service}
    {e : Exchange} {visits : List Visit} :
    ∀ {before : Nat}, e ∈ c.history mount service before visits →
      e = c.receiveVisit mount service e.before e.visit := by
  induction visits with
  | nil => intro _ h; exact absurd h List.not_mem_nil
  | cons v rest ih =>
      intro before h
      rcases List.mem_cons.mp h with rfl | h
      · rfl
      · exact ih h

theorem history_visits (c : Connector) (mount : Http.Mount) (service : Outbound.Service)
    (before : Nat) (visits : List Visit) :
    (c.history mount service before visits).map Exchange.visit = visits := by
  induction visits generalizing before with
  | nil => rfl
  | cons v rest ih => exact congrArg (v :: ·) (ih _)

end Connector
end Switchboard
