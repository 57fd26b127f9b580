/-
# Engines

The engine decides what to do with a message.  What it does is a script: it notes events, replies to
the message or uses the channel in other ways, sees how each use fared, and in the end finishes,
fails or breaks down.  An engine that fails leaves an error and one that breaks down leaves debris,
and both are the engine's own: to tell of them or to let go of them can break down in its turn.
-/
import Switchboard.Message.UserMessage
import Switchboard.Outbound.Channel

namespace Switchboard.Engine

/-- The error that an engine fails with.  It gives an account of itself, and a fragile one breaks down
when it is let go; or it breaks down over its account.  One that does both ends the whole process, and
is left out. -/
inductive Error where
  | told (account : String) (isFragile : Bool)
  | untold
  deriving DecidableEq, Repr

/-- What a breakdown leaves: a text, which is its reason, or a thing of another kind.  A fragile thing
breaks down when it is let go. -/
inductive Debris where
  | text (reason : String)
  | thing (isFragile : Bool)
  deriving DecidableEq, Repr

/-- What an engine does about one message.  It breaks down where it is waited for, or it collapses
where it is not: as it is called, or as it is let go. -/
inductive Script where
  | finish
  | fail (error : Error)
  | breakDown (debris : Debris)
  | collapse
  | note (event : Log.Event) (next : Script)
  | reply (response : Response) (next : Option Failure → Script)
  | send (operation : Outbound.Operation) (next : Option Failure → Script)

/-- How a script ended. -/
inductive Ending where
  | finished
  | failed (error : Error)
  | brokeDown (debris : Debris)
  | collapsed
  deriving DecidableEq, Repr

open Outbound in
/-- Runs a script whose replies go to `sender` through a channel. -/
def Script.run {π : Type} (service : Service) (channel : Channel π) (sender : String)
    (o : Outbox π) : Script → Outbox π × Ending
  | finish => (o, .finished)
  | fail error => (o, .failed error)
  | breakDown debris => (o, .brokeDown debris)
  | collapse => (o, .collapsed)
  | note event next => Script.run service channel sender (o.note event) next
  | reply response next =>
    let (o, failure) := (channel.respond sender response).run service o
    Script.run service channel sender o (next failure)
  | send operation next =>
    let (o, failure) := (operation.plan channel).run service o
    Script.run service channel sender o (next failure)

/-- Sends replies in turn and fails with the first that does not go out. -/
def Script.replies : List Response → Script
  | [] => finish
  | r :: rest =>
    reply r fun
      | none => Script.replies rest
      | some failure => fail (.told failure.message false)

end Engine

/-- An engine: a script for every message. -/
abbrev Engine := UserMessage → Engine.Script

end Switchboard
