/-
# Who is written to

Every post that is attempted while a request is handled is made as the bot itself, and goes to the
configured channel, or else to the sender that the request names.  Requests may come in any order and
any posts may fail; the engines may do as they like, as long as they answer the message they are
handed (`Engine.Script.Answers`).
-/
import Switchboard.Proofs.Connector.Verdict
import Switchboard.Proofs.Outbound.Attempt

namespace Switchboard

open Inbound Outbound Connector

/-- The attempts to post that are made while a visit is dealt with. -/
def Exchange.attempted (e : Exchange) (c : Connector) (service : Service) :
    List (Attempt SlackPost) :=
  e.outcome.delivered.flatMap fun m =>
    (e.visit.engine m).attempts service c.output m.sender { attempts := e.before }

/-- Whether attempts are all that an exchange has done about posting: those that got through are its
posts, and they are as many as the attempts it has made, with the service's answers to these. -/
structure Exchange.Tried (e : Exchange) (service : Service) (attempts : List (Attempt SlackPost)) :
    Prop where
  posts : e.outcome.posts = accepted attempts
  count : e.outcome.attempts = e.before + attempts.length
  answers : attempts.map Attempt.failure
    = (List.range' (e.before + 1) attempts.length).map service

section Exchange

variable {e : Exchange} {c : Connector} {service : Service}

theorem Exchange.Idle.attempted_eq (h : e.Idle) : e.attempted c service = [] := by
  rw [Exchange.attempted, h.delivered]
  rfl

theorem Exchange.Idle.tried (h : e.Idle) : e.Tried service [] :=
  ⟨h.posts, h.attempts, rfl⟩

/-- What a visit that meets its fate attempts is all that is done about posting. -/
theorem Exchange.Meets.tried {f : Fate} (h : e.Meets c service f) :
    e.Tried service (e.attempted c service) := by
  cases hm : f.message? c e.visit.now with
  | none =>
      rw [(h.idle hm).attempted_eq]
      exact (h.idle hm).tried
  | some m =>
      have hattempted : e.attempted c service
          = (e.visit.engine m).attempts service c.output m.sender { attempts := e.before } := by
        simp [Exchange.attempted, h.delivered, hm]
      have hsent := h.sent
      simp only [hm, Circumstances.sent, Prod.mk.injEq] at hsent
      obtain ⟨hposted, hcount, hanswers⟩ :=
        Engine.Script.run_grows service c.output m.sender (e.visit.engine m) { attempts := e.before }
      rw [hattempted]
      refine ⟨?_, hsent.2.trans hcount, hanswers⟩
      rw [hsent.1, hposted]
      simp

/-- What is delivered of a visit that meets its fate is what the payload says. -/
theorem Exchange.Meets.utterance_of_mem (h : e.Meets c service (e.visit.fate c)) {m : UserMessage}
    (hm : m ∈ e.outcome.delivered) :
    e.visit.payload.utterance? = some (m.sender, m.text) := by
  rw [h.delivered, Option.mem_toList] at hm
  cases hf : e.visit.fate c with
  | delivered sender text =>
      rw [hf] at hm
      obtain ⟨moment, -, rfl⟩ := Option.map_eq_some_iff.mp hm
      exact utterance_of_delivered hf
  | _ => simp [hf, Fate.message?] at hm

/-- In every history, what is attempted for a visit is all that is done about posting. -/
theorem tried_of_mem {mount : Http.Mount} {before : Nat} {visits : List Visit}
    (he : e ∈ c.history mount service before visits) : e.Tried service (e.attempted c service) := by
  by_cases hreach : Reaches mount e.visit.request
  · exact (meets_fate_of_mem he hreach).tried
  · have hidle := idle_of_mem he hreach
    rw [hidle.attempted_eq]
    exact hidle.tried

end Exchange

/-- In every history in which the engines answer what they are handed, every post that is attempted
for a visit is made as the bot itself and goes to the configured channel, or else to the sender that
the visit names.  To the sender of another visit it goes only if that is the configured channel.
The attempts are all that is done about posting. -/
theorem posts_go_to_the_sender (c : Connector) (mount : Http.Mount) (service : Service)
    (before : Nat) (visits : List Visit)
    (hanswers : ∀ v ∈ visits, ∀ m, (v.engine m).Answers m.sender) :
    ∀ e ∈ c.history mount service before visits,
      e.Tried service (e.attempted c service) ∧
      ∀ a ∈ e.attempted c service, ∃ sender text,
        e.visit.payload.utterance? = some (sender, text) ∧
        a.item.toJson.get? "as_user" = some (.bool true) ∧
        a.item.toJson.get? "channel" = some (.text (c.channel.getD sender)) ∧
        ∀ e' ∈ c.history mount service before visits, ∀ sender' text',
          e'.visit.payload.utterance? = some (sender', text') → sender' ≠ sender →
          a.item.toJson.get? "channel" = some (.text sender') → c.channel = some sender' := by
  intro e he
  refine ⟨tried_of_mem he, fun a ha => ?_⟩
  by_cases hreach : Reaches mount e.visit.request
  · have hmeets := meets_fate_of_mem he hreach
    obtain ⟨m, hm, ha⟩ := List.mem_flatMap.mp ha
    have hvisit : e.visit ∈ visits := by
      rw [← history_visits c mount service before visits]
      exact List.mem_map_of_mem he
    obtain ⟨hbot, hchannel⟩ : a.item.Addressed (c.channel.getD m.sender) :=
      (hanswers e.visit hvisit m).of_mem_attempts (P := fun recipient =>
        SlackPost.Addressed (c.channel.getD recipient)) (obeys_slackChannel c.channel) ha
    refine ⟨m.sender, m.text, hmeets.utterance_of_mem hm, hbot, hchannel, ?_⟩
    -- The post goes to one channel only, so another sender is reached through the configured one.
    intro e' he' sender' text' hsaid hother hgoes
    have hsame : c.channel.getD m.sender = sender' :=
      Json.text.inj (Option.some.inj (hchannel.symm.trans hgoes))
    cases hc : c.channel with
    | none =>
        rw [hc] at hsame
        exact absurd hsame.symm hother
    | some channel =>
        rw [hc] at hsame
        exact congrArg some hsame
  · rw [(idle_of_mem he hreach).attempted_eq] at ha
    cases ha

/-- A click that is answered with a text of two paragraphs. -/
def answeredClick : Visit :=
  { click 1000 with engine := fun _ => .replies [.ofText "Fine.\n\nAnything else?"] }

/-- A service that every second post gets through. -/
def everySecond : Service := fun n => if n % 2 = 0 then none else some (.network "down")

/-- Two clicks of the user `U` are answered, each by posts to that user up to the first that fails. -/
theorem clicks_are_answered :
    ∃ c, Connector.ofCredentials (some { token := some "t" }) = .ok c ∧
      (c.history .root everySecond 1 [answeredClick, answeredClick]).map
          (fun e => (e.attempted c everySecond).map fun a => (a.item.channel, a.failure.isNone))
        = [[("U", true), ("U", false)], [("U", true), ("U", false)]] ∧
      ∀ e ∈ c.history .root everySecond 1 [answeredClick, answeredClick],
        e.Tried everySecond (e.attempted c everySecond) ∧
        ∀ a ∈ e.attempted c everySecond,
          a.item.toJson.get? "channel" = some (.text (c.channel.getD "U")) := by
  obtain ⟨c, hc⟩ : ∃ c, Connector.ofCredentials (some { token := some "t" }) = .ok c := ⟨_, rfl⟩
  have hall : ∀ v ∈ [answeredClick, answeredClick], v = answeredClick := by simp
  have hanswers : ∀ v ∈ [answeredClick, answeredClick], ∀ m, (v.engine m).Answers m.sender := by
    intro v hv m
    rw [hall v hv]
    exact Engine.answers_replies m.sender _
  have hspoken : answeredClick.payload.utterance? = some ("U", "yes") := utterance?_click 1000
  refine ⟨c, hc, ?_, fun e he => ?_⟩
  · cases hc
    decide +kernel
  · have hvisit : e.visit = answeredClick := by
      refine hall e.visit ?_
      rw [← history_visits c .root everySecond 1 [answeredClick, answeredClick]]
      exact List.mem_map_of_mem he
    obtain ⟨htried, hgoes⟩ := posts_go_to_the_sender c .root everySecond 1 _ hanswers e he
    refine ⟨htried, fun a ha => ?_⟩
    obtain ⟨sender, text, hsaid, -, hchannel, -⟩ := hgoes a ha
    rw [hvisit, hspoken] at hsaid
    cases hsaid
    exact hchannel

end Switchboard
