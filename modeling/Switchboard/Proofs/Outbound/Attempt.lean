/-
# Attempts

The attempts to post that are made when a plan or a script is carried out, one by one and with what
came of each.  An outbox only counts the attempts and keeps what went out; `Outbox.Grows` says that
a row of attempts accounts for all that has become of an outbox, which makes the row the right one.
-/
import Switchboard.Engine.Basic
import Switchboard.Proofs.Outbound.Recipient

namespace Switchboard

open Outbound

variable {π : Type}

namespace Outbound

/-- An attempt to post an item, with the failure of the post, if it failed. -/
structure Attempt (π : Type) where
  item : π
  failure : Option Failure

/-- The items of the attempts that got through. -/
def accepted (attempts : List (Attempt π)) : List π :=
  (attempts.filter fun a => a.failure.isNone).map Attempt.item

/-- The attempts that a plan makes. -/
def Plan.attempts (service : Service) (o : Outbox π) : Plan π → List (Attempt π)
  | done => []
  | stop _ => []
  | note event next => next.attempts service (o.note event)
  | post item next =>
    let failure := service (o.attempts + 1)
    ⟨item, failure⟩ :: (next failure).attempts service (o.attempt item failure)

/-! ## What attempts make of an outbox -/

/-- An outbox that has come from another by a row of attempts: it holds the items that got through,
the number of attempts is right, and each attempt met the answer of the service to its number. -/
structure Outbox.Grows (service : Service) (o : Outbox π) (attempts : List (Attempt π))
    (o' : Outbox π) : Prop where
  posted : o'.posted = (accepted attempts).reverse ++ o.posted
  count : o'.attempts = o.attempts + attempts.length
  answers : attempts.map Attempt.failure
    = (List.range' (o.attempts + 1) attempts.length).map service

namespace Outbox.Grows

variable {service : Service} {o o' o'' : Outbox π}

theorem refl : o.Grows service [] o := ⟨rfl, rfl, rfl⟩

theorem trans {as bs : List (Attempt π)} (h : o.Grows service as o')
    (h' : o'.Grows service bs o'') : o.Grows service (as ++ bs) o'' where
  posted := by
    rw [h'.posted, h.posted]
    simp [accepted]
  count := by
    rw [h'.count, h.count, List.length_append, Nat.add_assoc]
  answers := by
    have hnext : o'.attempts + 1 = o.attempts + 1 + as.length := by
      rw [h.count]
      omega
    rw [List.map_append, h.answers, h'.answers, hnext, List.length_append, ← List.map_append,
      ← List.range'_append_1]

/-- One attempt. -/
theorem attempt (item : π) :
    o.Grows service [⟨item, service (o.attempts + 1)⟩]
      (o.attempt item (service (o.attempts + 1))) := by
  cases h : service (o.attempts + 1) with
  | none => exact ⟨rfl, rfl, by simp [h]⟩
  | some failure => exact ⟨rfl, rfl, by simp [h]⟩

end Outbox.Grows

/-- The attempts of a plan are all that becomes of the outbox. -/
theorem Plan.run_grows (service : Service) (p : Plan π) (o : Outbox π) :
    o.Grows service (p.attempts service o) (p.run service o).1 := by
  induction p generalizing o with
  | done => exact .refl
  | stop _ => exact .refl
  | note event next ih =>
      obtain ⟨hposted, hcount, hanswers⟩ := ih (o.note event)
      exact ⟨hposted, hcount, hanswers⟩
  | post item next ih => exact (Outbox.Grows.attempt item).trans (ih _ _)

/-- What a plan attempts has every property of all that it may post. -/
theorem Plan.Every.of_mem_attempts {P : π → Prop} {p : Plan π} (hp : p.Every P)
    {service : Service} {o : Outbox π} {a : Attempt π} (ha : a ∈ p.attempts service o) :
    P a.item := by
  induction p generalizing o with
  | done => cases ha
  | stop _ => cases ha
  | note event next ih => exact ih hp ha
  | post item next ih =>
      rcases List.mem_cons.mp ha with rfl | ha
      · exact hp.1
      · exact ih _ (hp.2 _) ha

end Outbound

/-! ## Scripts -/

namespace Engine

/-- The attempts that a script makes. -/
def Script.attempts (service : Service) (channel : Channel π) (sender : String) (o : Outbox π) :
    Script → List (Attempt π)
  | finish => []
  | fail _ => []
  | breakDown _ => []
  | collapse => []
  | note event next => next.attempts service channel sender (o.note event)
  | reply response next =>
    let plan := channel.respond sender response
    let (o', failure) := plan.run service o
    plan.attempts service o ++ (next failure).attempts service channel sender o'
  | send operation next =>
    let plan := operation.plan channel
    let (o', failure) := plan.run service o
    plan.attempts service o ++ (next failure).attempts service channel sender o'

/-- The attempts of a script are all that becomes of the outbox. -/
theorem Script.run_grows (service : Service) (channel : Channel π) (sender : String)
    (s : Script) (o : Outbox π) :
    o.Grows service (s.attempts service channel sender o)
      (s.run service channel sender o).1 := by
  induction s generalizing o with
  | finish => exact .refl
  | fail _ => exact .refl
  | breakDown _ => exact .refl
  | collapse => exact .refl
  | note event next ih =>
      obtain ⟨hposted, hcount, hanswers⟩ := ih (o.note event)
      exact ⟨hposted, hcount, hanswers⟩
  | reply response next ih => exact (Plan.run_grows service _ o).trans (ih _ _)
  | send operation next ih => exact (Plan.run_grows service _ o).trans (ih _ _)

/-- Whether all that a script does with the channel is for one recipient.  Replies are, for they go
to the sender of the message. -/
def Script.Answers (sender : String) : Script → Prop
  | finish => True
  | fail _ => True
  | breakDown _ => True
  | collapse => True
  | note _ next => next.Answers sender
  | reply _ next => ∀ failure, (next failure).Answers sender
  | send operation next =>
    operation.recipient = sender ∧ ∀ failure, (next failure).Answers sender

/-- A row of replies is for the sender. -/
theorem answers_replies (sender : String) :
    ∀ responses : List Response, (Script.replies responses).Answers sender
  | [] => trivial
  | _ :: rest => fun failure => by
      cases failure with
      | none => exact answers_replies sender rest
      | some _ => trivial

/-- Where a channel's plans have a property that depends on the recipient, what a script attempts
that answers one recipient has the property for that recipient. -/
theorem Script.Answers.of_mem_attempts {P : String → π → Prop} {channel : Channel π}
    (hchannel : channel.Obeys fun recipient plan => plan.Every (P recipient)) {sender : String}
    {s : Script} (hs : s.Answers sender) {service : Service} {o : Outbox π} {a : Attempt π}
    (ha : a ∈ s.attempts service channel sender o) : P sender a.item := by
  induction s generalizing o with
  | finish => cases ha
  | fail _ => cases ha
  | breakDown _ => cases ha
  | collapse => cases ha
  | note event next ih => exact ih hs ha
  | reply response next ih =>
      rcases List.mem_append.mp ha with ha | ha
      · exact (hchannel.respond sender response).of_mem_attempts ha
      · exact ih _ (hs _) ha
  | send operation next ih =>
      obtain ⟨rfl, hnext⟩ := hs
      rcases List.mem_append.mp ha with ha | ha
      · exact (hchannel.plan operation).of_mem_attempts ha
      · exact ih _ (hnext _) ha

end Engine
end Switchboard
