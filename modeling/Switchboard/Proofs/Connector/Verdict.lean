/-
# The law of the webhook

A request that the webhook looks into gets one of five verdicts.  The verdict can be told from the
response and from whether the engine was called (`Exchange.Shows`), it has a cause in the headers,
the clock and the body (`Visit.Earns`), and it settles the whole outcome (`Exchange.Bears`).

The law has two exceptions, both for requests that say something.  A message bears the moment at which
it was received, so while the clock shows none that has a date, such a request is dropped without a
response.  And an engine may end in a way that the connector does not contain; then the message is
delivered, and the request is dropped.  `lawful_iff_datable_and_contained` says that the law holds in
every history with these exceptions and no others.
-/
import Mathlib.Data.List.Basic
import Mathlib.Data.List.Flatten
import Switchboard.Proofs.Connector.Fate
import Switchboard.Proofs.Connector.Signature
import Switchboard.Proofs.Json.Print
import Switchboard.Proofs.Message.Instant

namespace Switchboard

open Inbound Outbound Connector

/-- What becomes of a request that the webhook looks into. -/
inductive Verdict where
  | passedOver
  | turnedAway
  | echoed
  | delivered
  | ignored
  deriving DecidableEq, Repr

/-- The response to a handshake. -/
def echo (value : Json) : Http.Response where
  status := 200
  headers := [("content-type", "application/json"),
    ("content-length", toString value.print.utf8ByteSize)]
  body := value.print

/-- Who says what, if a payload says something: a click counts as it is, and a message without the
mentions of the connector. -/
def Inbound.Payload.utterance? : Payload → Option (String × String)
  | .buttonClick sender text => some (sender, text)
  | .userMessage sender text ownIds => some (sender, sanitize text ownIds)
  | .challenge _ => none
  | .unrecognized => none

namespace Visit

variable (v : Visit) (c : Connector)

/-- The meaning of the request. -/
def payload : Payload := (classify v.request.headers v.request.body).1

/-- Whether the request is no retry to be passed over and its signature is accepted. -/
def Admitted : Prop :=
  ¬ c.PassesOver v.request.headers ∧ c.Accepts v.now v.request.headers v.request.body

instance : Decidable (v.Admitted c) := inferInstanceAs (Decidable (_ ∧ _))

/-- What the engine should hear of the request, and from whom. -/
def utterance? : Option (String × String) :=
  if v.Admitted c then v.payload.utterance? else none

/-- The cause of a verdict. -/
def Earns : Verdict → Prop
  | .passedOver => c.PassesOver v.request.headers
  | .turnedAway =>
    ¬ c.PassesOver v.request.headers ∧ ¬ c.Accepts v.now v.request.headers v.request.body
  | .echoed => v.Admitted c ∧ ∃ value, v.payload = .challenge value
  | .delivered => v.Admitted c ∧ ∃ sender text, v.payload.utterance? = some (sender, text)
  | .ignored => v.Admitted c ∧ v.payload = .unrecognized

/-- Whether the moment of the request has a date, if the request is to be delivered. -/
def Datable : Prop := v.Earns c .delivered → 0 ≤ v.now ∧ v.now ≤ Instant.lastMoment

end Visit

namespace Exchange

variable (e : Exchange) (c : Connector) (service : Service)

/-- The mark of a verdict. -/
def Shows : Verdict → Prop
  | .passedOver => ∃ r, e.outcome.response = some r ∧ r.status = 201
  | .turnedAway => ∃ r, e.outcome.response = some r ∧ r.status = 401
  | .echoed => ∃ r, e.outcome.response = some r ∧ r.status = 200 ∧ r.body ≠ ""
  | .delivered => e.outcome.delivered ≠ []
  | .ignored =>
    e.outcome.delivered = [] ∧ ∃ r, e.outcome.response = some r ∧ r.status = 200 ∧ r.body = ""

/-- All that a verdict settles.  Posts are attempted only by the engine that is called, and it is
called once. -/
def Bears : Verdict → Prop
  | .passedOver => e.outcome.response = some passedOver ∧ e.Idle
  | .turnedAway => e.outcome.response = some turnedAway ∧ e.Idle
  | .echoed => ∃ value, e.visit.payload = .challenge value ∧
      e.outcome.response = some (echo value) ∧ e.Idle
  | .delivered => ∃ m : UserMessage, e.visit.payload.utterance? = some (m.sender, m.text) ∧
      m.inputChannel = "slack" ∧ m.outputChannel = "slack" ∧ (m.receivedAt : Int) = e.visit.now ∧
      e.outcome.response = some acknowledged ∧ e.outcome.delivered = [m] ∧
      (e.outcome.posts, e.outcome.attempts) =
        Circumstances.sent ⟨e.visit.now, service, e.before⟩ c e.visit.engine (some m)
  | .ignored => e.outcome.response = some acknowledged ∧ e.Idle

/-- The law: one verdict shows, it is the one that the visit earns, and it settles the outcome. -/
structure Lawful : Prop where
  one : ∃ k, e.Shows k ∧ ∀ k', e.Shows k' → k' = k
  cause : ∀ k, e.Shows k ↔ e.visit.Earns c k
  settled : ∀ k, e.visit.Earns c k → e.Bears c service k

/-- What was delivered, without the marks of the message. -/
def utterances : List (String × String) := e.outcome.delivered.map fun m => (m.sender, m.text)

end Exchange

/-! ## Causes -/

/-- The verdict of a fate. -/
def Fate.verdict : Fate → Verdict
  | .passedOver _ _ => .passedOver
  | .refused _ => .turnedAway
  | .challenged _ => .echoed
  | .delivered _ _ => .delivered
  | .ignored => .ignored

section Cause

variable {v : Visit} {c : Connector}

theorem Visit.fate_of_admitted (h : v.Admitted c) : v.fate c = v.payload.fate :=
  fate_of_accepts h.1 h.2

/-- A visit earns one verdict, the one that its fate has. -/
theorem earns_iff {k : Verdict} : v.Earns c k ↔ (v.fate c).verdict = k := by
  by_cases hpass : c.PassesOver v.request.headers
  · obtain ⟨count, reason, hfate⟩ : ∃ count reason, v.fate c = .passedOver count reason :=
      fate_of_passesOver hpass
    cases k <;> simp [Visit.Earns, Visit.Admitted, hpass, hfate, Fate.verdict]
  · by_cases haccept : c.Accepts v.now v.request.headers v.request.body
    · have hadmitted : v.Admitted c := ⟨hpass, haccept⟩
      rw [Visit.fate_of_admitted hadmitted]
      cases hp : v.payload <;> cases k <;>
        simp [Visit.Earns, hadmitted, hpass, haccept, hp, Payload.fate, Payload.utterance?,
          Fate.verdict]
    · obtain ⟨why, hfate⟩ : ∃ why, v.fate c = .refused why := fate_of_not_accepts hpass haccept
      cases k <;> simp [Visit.Earns, Visit.Admitted, hpass, haccept, hfate, Fate.verdict]

/-- The value of a handshake is the value of the payload. -/
theorem payload_of_challenged {value : Json} (h : v.fate c = .challenged value) :
    v.payload = .challenge value := by
  obtain ⟨hadmitted, value', hvalue⟩ : v.Earns c .echoed := by
    rw [earns_iff, h]
    rfl
  have hfate : v.fate c = .challenged value' := by
    rw [Visit.fate_of_admitted hadmitted, hvalue]
    rfl
  obtain rfl : value = value' := Fate.challenged.inj (h.symm.trans hfate)
  exact hvalue

theorem Inbound.Payload.fate_eq_delivered_iff {p : Payload} {sender text : String} :
    p.fate = .delivered sender text ↔ p.utterance? = some (sender, text) := by
  cases p <;> simp [Payload.fate, Payload.utterance?]

/-- What is delivered is what the payload says. -/
theorem utterance_of_delivered {sender text : String} (h : v.fate c = .delivered sender text) :
    v.payload.utterance? = some (sender, text) := by
  obtain ⟨hadmitted, -⟩ : v.Earns c .delivered := by
    rw [earns_iff, h]
    rfl
  rw [← Payload.fate_eq_delivered_iff, ← Visit.fate_of_admitted hadmitted]
  exact h

/-- A visit says something just if its fate is to be delivered. -/
theorem utterance?_eq_some_iff {sender text : String} :
    v.utterance? c = some (sender, text) ↔ v.fate c = .delivered sender text := by
  constructor
  · intro h
    by_cases hadmitted : v.Admitted c
    · rw [Visit.utterance?, if_pos hadmitted] at h
      rw [Visit.fate_of_admitted hadmitted, Payload.fate_eq_delivered_iff]
      exact h
    · rw [Visit.utterance?, if_neg hadmitted] at h
      cases h
  · intro h
    obtain ⟨hadmitted, -⟩ : v.Earns c .delivered := by
      rw [earns_iff, h]
      rfl
    rw [Visit.utterance?, if_pos hadmitted]
    exact utterance_of_delivered h

theorem exists_delivered_of_earns (h : v.Earns c .delivered) :
    ∃ sender text, v.fate c = .delivered sender text := by
  obtain ⟨hadmitted, sender, text, hspoken⟩ := h
  refine ⟨sender, text, ?_⟩
  rw [Visit.fate_of_admitted hadmitted, Payload.fate_eq_delivered_iff]
  exact hspoken

theorem utterance?_eq_none (h : ¬ v.Earns c .delivered) : v.utterance? c = none := by
  cases hu : v.utterance? c with
  | none => rfl
  | some u =>
      refine absurd ?_ h
      rw [earns_iff, utterance?_eq_some_iff.mp hu]
      rfl

theorem message?_eq_none (h : ¬ v.Earns c .delivered) : (v.fate c).message? c v.now = none := by
  cases hf : v.fate c with
  | delivered sender text =>
      refine absurd ?_ h
      rw [earns_iff, hf]
      rfl
  | _ => rfl

end Cause

/-! ## Marks -/

section Mark

variable {e : Exchange} {c : Connector} {service : Service}

/-- A response is the only one of its exchange. -/
theorem exists_response_iff {r : Http.Response} {p : Http.Response → Prop}
    (h : e.outcome.response = some r) : (∃ r', e.outcome.response = some r' ∧ p r') ↔ p r := by
  rw [h]
  exact ⟨fun ⟨_, hr, hp⟩ => Option.some.inj hr ▸ hp, fun hp => ⟨r, rfl, hp⟩⟩

/-- An exchange bears the mark of no verdict but its own. -/
theorem Exchange.Bears.shows_iff {k k' : Verdict} (h : e.Bears c service k) :
    e.Shows k' ↔ k' = k := by
  cases k with
  | passedOver =>
      obtain ⟨hresponse, hidle⟩ := h
      cases k' <;> simp [Shows, exists_response_iff hresponse, hidle.delivered, passedOver]
  | turnedAway =>
      obtain ⟨hresponse, hidle⟩ := h
      cases k' <;> simp [Shows, exists_response_iff hresponse, hidle.delivered, turnedAway]
  | echoed =>
      obtain ⟨value, -, hresponse, hidle⟩ := h
      cases k' <;>
        simp [Shows, exists_response_iff hresponse, hidle.delivered, echo, Json.print_ne_empty]
  | delivered =>
      obtain ⟨m, -, -, -, -, hresponse, hdelivered, -⟩ := h
      cases k' <;> simp [Shows, exists_response_iff hresponse, hdelivered, acknowledged]
  | ignored =>
      obtain ⟨hresponse, hidle⟩ := h
      cases k' <;> simp [Shows, exists_response_iff hresponse, hidle.delivered, acknowledged]

/-- A visit that should be delivered at a moment with a date is, as the message that it says. -/
theorem Visit.exists_message_of_datable {v : Visit} {sender text : String}
    (hf : v.fate c = .delivered sender text) (hdate : v.Datable c) :
    ∃ moment : Nat, v.now = moment ∧
      (v.fate c).message? c v.now = some (c.userMessage sender text moment) := by
  have hearns : v.Earns c .delivered := by
    rw [earns_iff, hf]
    rfl
  obtain ⟨moment, hmoment⟩ :=
    Option.isSome_iff_exists.mp (Instant.dated?_isSome_iff.mpr (hdate hearns))
  refine ⟨moment, (Instant.dated?_eq_some_iff.mp hmoment).1, ?_⟩
  rw [hf, Fate.message?, hmoment]
  rfl

/-- A visit that meets its fate bears the verdict of the fate, unless it should be delivered at a
moment without a date, or the ending of the engine is not contained. -/
theorem Exchange.Meets.bears (h : e.Meets c service (e.visit.fate c))
    (hdate : e.visit.Datable c) (hcontained : e.Contained c service) :
    e.Bears c service (e.visit.fate c).verdict := by
  cases hf : e.visit.fate c with
  | passedOver count reason =>
      rw [hf] at h
      exact ⟨h.response, h.idle rfl⟩
  | refused why =>
      rw [hf] at h
      exact ⟨h.response, h.idle rfl⟩
  | challenged value =>
      rw [hf] at h
      exact ⟨value, payload_of_challenged hf, h.response, h.idle rfl⟩
  | delivered sender text =>
      obtain ⟨moment, hnow, hmessage⟩ := e.visit.exists_message_of_datable hf hdate
      refine ⟨c.userMessage sender text moment, utterance_of_delivered hf, rfl, rfl, hnow.symm,
        (h.response_of_message hmessage).1 hcontained, ?_, ?_⟩
      · rw [h.delivered, hmessage]
        rfl
      · rw [h.sent, hmessage]
  | ignored =>
      rw [hf] at h
      exact ⟨h.response, h.idle rfl⟩

/-- A visit that should be delivered at a moment without a date is dropped. -/
theorem Exchange.Meets.dropped (h : e.Meets c service (e.visit.fate c))
    (hdate : ¬ e.visit.Datable c) : e.outcome.response = none ∧ e.Idle := by
  obtain ⟨hearns, hrange⟩ := Classical.not_imp.mp hdate
  have hnone : Instant.dated? e.visit.now = none :=
    Option.not_isSome_iff_eq_none.mp fun hs => hrange (Instant.dated?_isSome_iff.mp hs)
  obtain ⟨sender, text, hfate⟩ := exists_delivered_of_earns hearns
  rw [hfate] at h
  refine ⟨?_, h.idle ?_⟩
  · rw [h.response, Fate.response?, Fate.message?, hnone]
    rfl
  · rw [Fate.message?, hnone]
    rfl

/-- Where the law holds, the ending of the engine is contained. -/
theorem Exchange.Lawful.contained (hlaw : e.Lawful c service)
    (h : e.Meets c service (e.visit.fate c)) : e.Contained c service := by
  refine Classical.byContradiction fun hescapes => ?_
  have hshows : e.Shows .delivered := delivered_ne_nil_of_not_contained hescapes
  obtain ⟨m, -, -, -, -, hresponse, -⟩ := hlaw.settled .delivered ((hlaw.cause .delivered).mp hshows)
  rw [h.unanswered hescapes] at hresponse
  cases hresponse

/-- A visit that meets its fate is treated by the law just if it can be dated, and the ending of the
engine is contained. -/
theorem Exchange.Meets.lawful_iff (h : e.Meets c service (e.visit.fate c)) :
    e.Lawful c service ↔ e.visit.Datable c ∧ e.Contained c service := by
  constructor
  · intro hlaw
    refine ⟨Classical.byContradiction fun hdate => ?_, hlaw.contained h⟩
    obtain ⟨hresponse, hidle⟩ := h.dropped hdate
    obtain ⟨k, hk, -⟩ := hlaw.one
    -- Every mark but a delivery is one of a response, and here there is neither.
    cases k <;> simp [Shows, hresponse, hidle.delivered] at hk
  · rintro ⟨hdate, hcontained⟩
    have hbears := h.bears hdate hcontained
    refine ⟨⟨_, hbears.shows_iff.mpr rfl, fun _ => hbears.shows_iff.mp⟩, fun k => ?_, ?_⟩
    · rw [hbears.shows_iff, earns_iff]
      exact eq_comm
    · intro k hk
      rwa [← earns_iff.mp hk]

/-- What a visit says is delivered where it can be dated. -/
theorem Exchange.Meets.utterances_eq (h : e.Meets c service (e.visit.fate c))
    (hdate : e.visit.Datable c) : e.utterances = (e.visit.utterance? c).toList := by
  by_cases hearns : e.visit.Earns c .delivered
  · obtain ⟨sender, text, hfate⟩ := exists_delivered_of_earns hearns
    obtain ⟨moment, -, hmessage⟩ := e.visit.exists_message_of_datable hfate hdate
    rw [utterances, h.delivered, hmessage, utterance?_eq_some_iff.mpr hfate]
    rfl
  · rw [utterances, (h.idle (message?_eq_none hearns)).delivered, utterance?_eq_none hearns]
    rfl

/-- Nothing is delivered of a visit that cannot be dated, although it says something. -/
theorem Exchange.Meets.utterances_ne (h : e.Meets c service (e.visit.fate c))
    (hdate : ¬ e.visit.Datable c) :
    e.utterances = [] ∧ (e.visit.utterance? c).toList ≠ [] := by
  obtain ⟨hearns, -⟩ := Classical.not_imp.mp hdate
  obtain ⟨sender, text, hfate⟩ := exists_delivered_of_earns hearns
  rw [utterances, (h.dropped hdate).2.delivered, utterance?_eq_some_iff.mpr hfate]
  exact ⟨rfl, List.cons_ne_nil _ _⟩

theorem Exchange.Meets.utterances_sublist (h : e.Meets c service (e.visit.fate c)) :
    e.utterances.Sublist (e.visit.utterance? c).toList := by
  by_cases hdate : e.visit.Datable c
  · rw [h.utterances_eq hdate]
  · rw [(h.utterances_ne hdate).1]
    exact List.nil_sublist _

theorem Exchange.Meets.utterances_eq_iff (h : e.Meets c service (e.visit.fate c)) :
    e.utterances = (e.visit.utterance? c).toList ↔ e.visit.Datable c := by
  refine ⟨fun heq => Classical.byContradiction fun hdate => ?_, h.utterances_eq⟩
  obtain ⟨hnone, hsome⟩ := h.utterances_ne hdate
  exact hsome (heq.symm.trans hnone)

end Mark

/-! ## Histories -/

/-- Two lists of pieces, in which each piece of the first can be found in its place in the second,
have one flattening just if the pieces agree. -/
theorem flatMap_eq_iff_of_sublist {α β : Type} {f g : α → List β} {l : List α}
    (h : ∀ a ∈ l, (f a).Sublist (g a)) :
    l.flatMap f = l.flatMap g ↔ ∀ a ∈ l, f a = g a := by
  refine ⟨fun heq => ?_, List.flatMap_congr⟩
  induction l with
  | nil => exact fun _ ha => absurd ha List.not_mem_nil
  | cons a rest ih =>
      have hrest : ∀ b ∈ rest, (f b).Sublist (g b) := fun b hb => h b (List.mem_cons_of_mem _ hb)
      have hhead : (f a).Sublist (g a) := h a List.mem_cons_self
      have hlength := congrArg List.length heq
      simp only [List.flatMap_cons, List.length_append] at hlength heq
      have hle := (List.Sublist.flatMap_right rest hrest).length_le
      have hfirst : f a = g a := hhead.eq_of_length_le (by omega)
      rw [hfirst] at heq
      intro b hb
      rcases List.mem_cons.mp hb with rfl | hb
      · exact hfirst
      · exact ih hrest (List.append_cancel_left heq) b hb

/-- The law holds in every history, with two exceptions.  It holds of an exchange just if the visit
can be dated and the ending of the engine is contained.  A visit that cannot be dated is dropped; where
the ending is not contained, the message was delivered, and there is no response.  What is delivered in
the history is what its visits say, in their order, just if all visits can be dated. -/
theorem lawful_iff_datable_and_contained (c : Connector) (mount : Http.Mount) (service : Service)
    (before : Nat) (visits : List Visit) (hreach : ∀ v ∈ visits, Reaches mount v.request) :
    (∀ e ∈ c.history mount service before visits,
      (e.Lawful c service ↔ e.visit.Datable c ∧ e.Contained c service) ∧
      (¬ e.visit.Datable c → e.outcome.response = none ∧ e.Idle) ∧
      (¬ e.Contained c service → e.outcome.response = none ∧ e.Shows .delivered)) ∧
    ((c.history mount service before visits).flatMap Exchange.utterances
        = visits.filterMap (fun v => v.utterance? c) ↔
      ∀ v ∈ visits, v.Datable c) := by
  have hvisits := history_visits c mount service before visits
  have hmeets : ∀ e ∈ c.history mount service before visits,
      e.Meets c service (e.visit.fate c) := by
    intro e he
    have hmem : e.visit ∈ visits := by
      rw [← hvisits]
      exact List.mem_map_of_mem he
    exact meets_fate_of_mem he (hreach e.visit hmem)
  refine ⟨fun e he => ⟨(hmeets e he).lawful_iff, (hmeets e he).dropped, fun hescapes =>
    ⟨(hmeets e he).unanswered hescapes, delivered_ne_nil_of_not_contained hescapes⟩⟩, ?_⟩
  have hspoken : visits.filterMap (fun v => v.utterance? c)
      = (c.history mount service before visits).flatMap
        fun e => (e.visit.utterance? c).toList := by
    have hmap := List.flatMap_map Exchange.visit (fun v => (v.utterance? c).toList)
      (c.history mount service before visits)
    rwa [hvisits, ← List.filterMap_eq_flatMap_toList] at hmap
  have hdates : (∀ v ∈ visits, v.Datable c) ↔
      ∀ e ∈ c.history mount service before visits, e.visit.Datable c := by
    have hmap := List.forall_mem_map (f := Exchange.visit) (P := fun v => v.Datable c)
      (l := c.history mount service before visits)
    rwa [hvisits] at hmap
  rw [hspoken, hdates, flatMap_eq_iff_of_sublist fun e he => (hmeets e he).utterances_sublist]
  exact forall₂_congr fun e he => (hmeets e he).utterances_eq_iff

/-- A request that reports a click on a button. -/
def clickRequest : Http.Request where
  method := "POST"
  target := "/webhook"
  headers := [("content-type", Text.encodeString "application/x-www-form-urlencoded")]
  body := Text.encodeString <|
    "payload=\x7b\"type\":\"interactive_message\",\"actions\":[\x7b\"type\":\"button\"," ++
    "\"name\":\"yes\"\x7d],\"user\":\x7b\"id\":\"U\"\x7d\x7d"

/-- A click that is reported at a moment. -/
def click (now : Int) : Visit := ⟨now, clickRequest, fun _ => .finish⟩

theorem reaches_clickRequest : Reaches .root clickRequest :=
  reaches_root_iff.mpr ⟨by decide, rfl, by decide⟩

theorem utterance?_click (now : Int) : (click now).payload.utterance? = some ("U", "yes") := by
  show (classify clickRequest.headers clickRequest.body).1.utterance? = some ("U", "yes")
  decide +kernel

theorem admitted_click {c : Connector} (hsecret : c.secret = none) (now : Int) :
    (click now).Admitted c := by
  refine ⟨?_, ?_⟩
  · rintro ⟨count, -, hcount, -⟩
    cases hcount
  · rw [Accepts, verifyRequest, hsecret]

theorem fate_click {c : Connector} (hsecret : c.secret = none) (now : Int) :
    (click now).fate c = .delivered "U" "yes" := by
  rw [Visit.fate_of_admitted (admitted_click hsecret now), Payload.fate_eq_delivered_iff]
  exact utterance?_click now

/-- A click that is reported while the clock shows a moment is treated by the law. -/
theorem click_lawful :
    ∃ c, Connector.ofCredentials (some { token := some "t" }) = .ok c ∧
      (∀ e ∈ c.history .root .faultless 0 [click 1000], e.Lawful c .faultless) ∧
      (c.history .root .faultless 0 [click 1000]).flatMap Exchange.utterances
        = [click 1000].filterMap fun v => v.utterance? c := by
  obtain ⟨c, hc⟩ : ∃ c, Connector.ofCredentials (some { token := some "t" }) = .ok c := ⟨_, rfl⟩
  have hreach : ∀ v ∈ [click 1000], Reaches .root v.request := by
    intro v hv
    rw [List.mem_singleton.mp hv]
    exact reaches_clickRequest
  have hdate : ∀ v ∈ [click 1000], v.Datable c := by
    intro v hv _
    rw [List.mem_singleton.mp hv]
    exact ⟨by decide, by decide⟩
  obtain ⟨hlaw, hspoken⟩ :=
    lawful_iff_datable_and_contained c .root .faultless 0 [click 1000] hreach
  refine ⟨c, hc, fun e he => ?_, hspoken.mpr hdate⟩
  have hvisit : e.visit ∈ [click 1000] := by
    rw [← history_visits c .root .faultless 0 [click 1000]]
    exact List.mem_map_of_mem he
  have hfinishes : e.Contained c .faultless := by
    intro m _
    rw [List.mem_singleton.mp hvisit]
    exact .finished
  exact (hlaw e he).1.mpr ⟨hdate e.visit hvisit, hfinishes⟩

/-- A click that is reported one second before 1970 is dropped: the law does not hold of it. -/
theorem click_before_1970_dropped :
    ∃ c e, Connector.ofCredentials (some { token := some "t" }) = .ok c ∧
      c.history .root .faultless 0 [click (-1)] = [e] ∧
      Reaches .root e.visit.request ∧ e.visit.Earns c .delivered ∧
      e.visit.payload.utterance? = some ("U", "yes") ∧
      e.outcome.response = none ∧ e.outcome.delivered = [] ∧ ¬ e.Lawful c .faultless := by
  obtain ⟨c, hc⟩ : ∃ c, Connector.ofCredentials (some { token := some "t" }) = .ok c := ⟨_, rfl⟩
  have hsecret : c.secret = none := (ofCredentials_eq_ok hc).2.2
  have hspoken := utterance?_click (-1)
  have hearns : (click (-1)).Earns c .delivered :=
    ⟨admitted_click hsecret (-1), "U", "yes", hspoken⟩
  have hdate : ¬ (click (-1)).Datable c := fun h => absurd (h hearns).1 (by decide)
  have hmeets := receiveVisit_meets (c := c) (v := click (-1)) .faultless 0 reaches_clickRequest
  obtain ⟨hresponse, hidle⟩ := hmeets.dropped hdate
  exact ⟨c, _, hc, rfl, reaches_clickRequest, hearns, hspoken, hresponse, hidle.delivered,
    fun hlaw => hdate (hmeets.lawful_iff.mp hlaw).1⟩

end Switchboard
