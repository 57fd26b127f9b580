/-
# What engines show

The connector means to keep from the client what an engine does about a message and how it ends.  Its
guard reaches as far as `Engine.Ending.Contained` says: an engine may finish, fail with an error that can
be told and let go, or break down and leave a text, or a thing that can be let go.  The guard is not up
when the connector tells of an error or lets go of an error or of debris, and it is not up before the
engine is waited for or when the engine itself is let go.  An engine that breaks down there is not
contained, and the client, whose message has been delivered, gets no response.

The main statement, `engines_show_only_by_escaping`, compares two histories of the same requests, in which
other engines are met, other posts fail, and another number of posts has been attempted before.
-/
import Switchboard.Proofs.Connector.Verdict

namespace Switchboard

open Outbound Connector

/-- The same visit with another engine. -/
def Visit.meeting (v : Visit) (engine : Engine) : Visit := { v with engine }

/-- Two exchanges, over two services, in which the same was delivered; and the responses are the same
just if the endings of both engines are contained or neither is. -/
structure Exchange.Alike (c : Connector) (service service' : Service) (e e' : Exchange) : Prop where
  delivered : e.outcome.delivered = e'.outcome.delivered
  response : e.outcome.response = e'.outcome.response ↔
    (e.Contained c service ↔ e'.Contained c service')

/-! ## One visit -/

/-- Where no message is delivered, the engine has no part in the response. -/
theorem Fate.response?_congr {c : Connector} {f : Fate} {now : Int} (hf : f.message? c now = none)
    (engine engine' : Engine) (service service' : Service) (before before' : Nat) :
    f.response? c engine ⟨now, service, before⟩ = f.response? c engine' ⟨now, service', before'⟩ := by
  cases f with
  | delivered sender text => rw [response?, response?, hf, Option.bind_none, Option.bind_none]
  | _ => rfl

section Meets

variable {c : Connector} {service service' : Service} {e e' : Exchange}

/-- Two exchanges that meet one fate at one moment are alike. -/
theorem Exchange.Meets.alike {f : Fate} (h : e.Meets c service f) (h' : e'.Meets c service' f)
    (hnow : e.visit.now = e'.visit.now) : e.Alike c service service' e' := by
  refine ⟨h.delivered.trans (hnow ▸ h'.delivered.symm), ?_⟩
  cases hm : f.message? c e.visit.now with
  | none =>
      have hm' : f.message? c e'.visit.now = none := hnow ▸ hm
      have hsame : e.outcome.response = e'.outcome.response := by
        rw [h.response, h'.response, ← hnow]
        exact congrArg (Option.map Http.Response.withLength) (Fate.response?_congr hm _ _ _ _ _ _)
      exact iff_of_true hsame (iff_of_true (h.idle hm).contained (h'.idle hm').contained)
  | some m =>
      obtain ⟨hanswered, hdropped⟩ := h.response_of_message hm
      obtain ⟨hanswered', hdropped'⟩ := h'.response_of_message (hnow ▸ hm)
      by_cases hc : e.Contained c service
      · by_cases hc' : e'.Contained c service'
        · rw [hanswered hc, hanswered' hc']
          exact iff_of_true rfl (iff_of_true hc hc')
        · rw [hanswered hc, hdropped' hc']
          exact iff_of_false (Option.some_ne_none _) fun hiff => hc' (hiff.mp hc)
      · by_cases hc' : e'.Contained c service'
        · rw [hdropped hc, hanswered' hc']
          exact iff_of_false (Option.some_ne_none _).symm fun hiff => hc (hiff.mpr hc')
        · rw [hdropped hc, hdropped' hc']
          exact iff_of_true rfl (iff_of_false hc hc')

/-- An exchange that bears a verdict is answered. -/
theorem Exchange.Bears.answered {k : Verdict} (h : e.Bears c service k) :
    e.outcome.response ≠ none := by
  obtain ⟨r, hr⟩ : ∃ r, e.outcome.response = some r := by
    cases k with
    | passedOver => exact ⟨_, h.1⟩
    | turnedAway => exact ⟨_, h.1⟩
    | echoed =>
        obtain ⟨value, -, hresponse, -⟩ := h
        exact ⟨_, hresponse⟩
    | delivered =>
        obtain ⟨m, -, -, -, -, hresponse, -⟩ := h
        exact ⟨_, hresponse⟩
    | ignored => exact ⟨_, h.1⟩
  rw [hr]
  exact Option.some_ne_none r

/-- A visit that reaches the webhook is dropped just if the ending of the engine is not contained, or a
message would have to be dated and cannot be. -/
theorem Exchange.Meets.dropped_iff (h : e.Meets c service (e.visit.fate c)) :
    e.outcome.response = none ↔ ¬ e.Contained c service ∨ ¬ e.visit.Datable c := by
  constructor
  · intro hnone
    by_cases hc : e.Contained c service
    · by_cases hdate : e.visit.Datable c
      · exact absurd hnone (h.bears hdate hc).answered
      · exact .inr hdate
    · exact .inl hc
  · rintro (hescapes | hdate)
    · exact h.unanswered hescapes
    · exact (h.dropped hdate).1

end Meets

variable (c : Connector) (mount : Http.Mount)

/-- What comes of one visit is alike whatever engine it meets. -/
theorem alike_meeting (service service' : Service) (before before' : Nat) (v : Visit)
    (engine : Engine) :
    (c.receiveVisit mount service before v).Alike c service service'
      (c.receiveVisit mount service' before' (v.meeting engine)) := by
  by_cases h : Reaches mount v.request
  · have hmeets := receiveVisit_meets (c := c) (v := v) service before h
    exact hmeets.alike (receiveVisit_meets (v := v.meeting engine) service' before' h) rfl
  · obtain ⟨response, haside⟩ := receiveVisit_aside (c := c) h
    obtain ⟨hidle, hresponse⟩ := haside service before v.engine
    obtain ⟨hidle', hresponse'⟩ := haside service' before' engine
    exact ⟨hidle.delivered.trans hidle'.delivered.symm,
      iff_of_true (hresponse.trans hresponse'.symm) (iff_of_true hidle.contained hidle'.contained)⟩

/-! ## Histories -/

/-- Two histories of the same requests are alike in every exchange, whatever engines are met in either,
however they end, and whichever posts fail: the same is delivered, and the engine of a visit shows in its
response just if its ending is contained in one history and not in the other.  What is delivered is
acknowledged just if the ending is contained.  A visit is dropped just if it is not, or if a message
cannot be dated. -/
theorem engines_show_only_by_escaping (service service' : Service) (before before' : Nat)
    (pairs : List (Visit × Engine)) :
    let run := c.history mount service before (pairs.map Prod.fst)
    let run' := c.history mount service' before' (pairs.map fun p => p.1.meeting p.2)
    List.Forall₂ (Exchange.Alike c service service') run run' ∧
      ∀ e ∈ run,
        (e.outcome.delivered ≠ [] →
          (e.outcome.response = some acknowledged ↔ e.Contained c service)) ∧
        (e.outcome.response = none ↔
          ¬ e.Contained c service ∨ Reaches mount e.visit.request ∧ ¬ e.visit.Datable c) := by
  intro run run'
  refine ⟨?_, fun e he => ?_⟩
  · -- The attempts counted on to the later visits differ, so both counts are general.
    show List.Forall₂ _ (c.history mount service before _) (c.history mount service' before' _)
    induction pairs generalizing before before' with
    | nil => exact .nil
    | cons p rest ih =>
        simp only [List.map_cons, history]
        exact .cons (alike_meeting c mount service service' before before' p.1 p.2) (ih _ _)
  · by_cases hreach : Reaches mount e.visit.request
    · have hmeets := meets_fate_of_mem he hreach
      refine ⟨fun hd => ⟨fun hr => ?_, hmeets.acknowledged_of_contained hd⟩, ?_⟩
      · refine Classical.byContradiction fun hescapes => ?_
        rw [hmeets.unanswered hescapes] at hr
        cases hr
      · rw [hmeets.dropped_iff, and_iff_right hreach]
    · have hidle := idle_of_mem he hreach
      refine ⟨fun hd => absurd hidle.delivered hd, iff_of_false ?_ ?_⟩
      · obtain ⟨response, haside⟩ := receiveVisit_aside (c := c) hreach
        rw [eq_receiveVisit_of_mem he, (haside service e.before e.visit.engine).2]
        exact Option.some_ne_none response
      · rintro (hescapes | ⟨h, -⟩)
        · exact hescapes hidle.contained
        · exact hreach h

/-- A click is acknowledged if the engine finishes.  If it breaks down and leaves a thing that breaks down
as it is let go, the same message is delivered, and the click gets no response.  A click before 1970 gets
none, whatever engine it meets. -/
theorem fragile_debris_goes_unanswered :
    ∃ c e e', Connector.ofCredentials (some { token := some "t" }) = .ok c ∧
      c.history .root .faultless 0 [click 1000] = [e] ∧
      c.history .root .faultless 0 [(click 1000).meeting fun _ => .breakDown (.thing true)] = [e'] ∧
      e.outcome.delivered ≠ [] ∧ e'.outcome.delivered = e.outcome.delivered ∧
      e.outcome.response = some acknowledged ∧ e'.outcome.response = none ∧
      ∀ engine, ∃ e'', c.history .root .faultless 0 [(click (-1)).meeting engine] = [e''] ∧
        e''.Idle ∧ e''.outcome.response = none := by
  obtain ⟨c, hc⟩ : ∃ c, Connector.ofCredentials (some { token := some "t" }) = .ok c := ⟨_, rfl⟩
  have hsecret : c.secret = none := (ofCredentials_eq_ok hc).2.2
  have hmeets : ∀ now engine, (c.receiveVisit .root .faultless 0 ((click now).meeting engine)).Meets c
      .faultless (.delivered "U" "yes") := by
    intro now engine
    rw [← fate_click hsecret now]
    exact receiveVisit_meets (v := (click now).meeting engine) .faultless 0 reaches_clickRequest
  have hmessage : (Fate.delivered "U" "yes").message? c 1000
      = some (c.userMessage "U" "yes" 1000) := rfl
  have hdelivered : ∀ engine, (c.receiveVisit .root .faultless 0
      ((click 1000).meeting engine)).outcome.delivered = [c.userMessage "U" "yes" 1000] :=
    fun engine => (hmeets 1000 engine).delivered
  have hfinishes : (c.receiveVisit .root .faultless 0 (click 1000)).Contained c .faultless :=
    fun _ _ => .finished
  have hescapes : ¬ (c.receiveVisit .root .faultless 0
      ((click 1000).meeting fun _ => .breakDown (.thing true))).Contained c .faultless := by
    intro hcontained
    have hmem : c.userMessage "U" "yes" 1000 ∈ (c.receiveVisit .root .faultless 0
        ((click 1000).meeting fun _ => .breakDown (.thing true))).outcome.delivered := by
      rw [hdelivered]
      exact List.mem_singleton_self _
    exact nomatch hcontained _ hmem
  refine ⟨c, _, _, hc, rfl, rfl, ?_, (hdelivered _).trans (hdelivered _).symm, ?_, ?_, ?_⟩
  · rw [show (c.receiveVisit .root .faultless 0 (click 1000)).outcome.delivered = _ from hdelivered _]
    exact List.cons_ne_nil _ _
  · exact ((hmeets 1000 fun _ => .finish).response_of_message hmessage).1 hfinishes
  · exact (hmeets 1000 _).unanswered hescapes
  · intro engine
    refine ⟨_, rfl, (hmeets (-1) engine).idle rfl, ?_⟩
    rw [(hmeets (-1) engine).response]
    rfl

end Switchboard
