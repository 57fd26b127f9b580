/-
# The gate

A connector made from credentials with a secret does something about a request only if the request
is signed under the secret, not long before or after the moment at which it comes.  The main
statement is `acts_only_on_authentic_visits`: it speaks of every request of every history, whatever
the engines do and however the clock moves.
-/
import Switchboard.Proofs.Connector.Fate
import Switchboard.Proofs.Connector.Signature
import Switchboard.Proofs.Http.Header
import Switchboard.Proofs.Json.Print

namespace Switchboard

open Outbound Connector

/-- A visit whose first time header is a number of 64 bits, at most 300 seconds off the clock, and
whose first signature header is the code of this time and the body under a secret. -/
def Visit.Authentic (v : Visit) (secret : String) : Prop :=
  ∃ time t, Http.text? v.request.headers "x-slack-request-timestamp" = some time ∧
    Number.word64? time.toList = some t ∧ (v.now - t).natAbs ≤ 300 ∧
    Http.text? v.request.headers "x-slack-signature" = some (String.ofList <| "v0=".toList ++
      Digest.hex (Digest.hmac (Text.encodeString secret)
        (Text.encodeString ("v0:" ++ time ++ ":") ++ v.request.body)))

/-- An exchange in which the webhook echoed the value of a handshake. -/
def Exchange.Echoes (e : Exchange) (mount : Http.Mount) : Prop :=
  Reaches mount e.visit.request ∧ ∃ value r,
    (classify e.visit.request.headers e.visit.request.body).1 = .challenge value ∧
    e.outcome.response = some r ∧ r.body = value.print

/-- An exchange in which an engine was called, a post was attempted or made, or a handshake was
answered. -/
def Exchange.Acts (e : Exchange) (mount : Http.Mount) : Prop :=
  e.outcome.delivered ≠ [] ∨ e.outcome.posts ≠ [] ∨ e.outcome.attempts ≠ e.before ∨
    e.Echoes mount

theorem Visit.authentic_iff {v : Visit} {secret : String} :
    v.Authentic secret ↔
      ∃ time t, Http.text? v.request.headers timeHeader = some time ∧
        Number.word64? time.toList = some t ∧ (v.now - t).natAbs ≤ maxAge ∧
        Http.text? v.request.headers signatureHeader
          = some (signatureOf secret time v.request.body) := by
  simp only [Visit.Authentic, ← signedBytes_eq]
  exact Iff.rfl

/-- Under a secret only authentic visits are accepted. -/
theorem Visit.authentic_of_accepts {v : Visit} {c : Connector} {secret : String}
    (hc : c.secret = some secret) (h : c.Accepts v.now v.request.headers v.request.body) :
    v.Authentic secret := by
  obtain ⟨time, signature, htime, hsignature, hcheck⟩ := (verifyRequest_eq_ok_iff hc).mp h
  obtain ⟨-, ⟨t, ht, hnear⟩, rfl⟩ := checkSignature_eq_ok_iff.mp hcheck
  exact Visit.authentic_iff.mpr ⟨time, t, htime, ht, hnear, hsignature⟩

/-- While the clock shows a moment, authentic visits are accepted. -/
theorem Visit.accepts_of_authentic {v : Visit} {c : Connector} {secret : String}
    (hc : c.secret = some secret) (hnow : 0 ≤ v.now) (h : v.Authentic secret) :
    c.Accepts v.now v.request.headers v.request.body := by
  obtain ⟨time, t, htime, ht, hnear, hsignature⟩ := Visit.authentic_iff.mp h
  exact (verifyRequest_eq_ok_iff hc).mpr
    ⟨time, _, htime, hsignature, checkSignature_eq_ok_iff.mpr ⟨hnow, ⟨t, ht, hnear⟩, rfl⟩⟩

namespace Exchange

variable {e : Exchange} {mount : Http.Mount}

/-- An idle exchange acts only by echoing a handshake. -/
theorem Idle.echoes_of_acts (h : e.Idle) (ha : e.Acts mount) : e.Echoes mount := by
  rcases ha with ha | ha | ha | ha
  · exact absurd h.delivered ha
  · exact absurd h.posts ha
  · exact absurd h.attempts ha
  · exact ha

/-- A response without a body echoes nothing. -/
theorem not_echoes_of_empty {r : Http.Response} (hr : e.outcome.response = some r)
    (hempty : r.body = "") : ¬ e.Echoes mount := by
  rintro ⟨-, value, r', -, hr', hbody⟩
  obtain rfl : r = r' := Option.some.inj (hr.symm.trans hr')
  exact Json.print_ne_empty value (hbody.symm.trans hempty)

/-- Nothing is done in an idle exchange whose response has no body. -/
theorem Idle.not_acts {r : Http.Response} (h : e.Idle) (hr : e.outcome.response = some r)
    (hempty : r.body = "") : ¬ e.Acts mount :=
  fun ha => not_echoes_of_empty hr hempty (h.echoes_of_acts ha)

/-- A handshake that is let in is echoed. -/
theorem echoes_of_accepts {c : Connector} {service : Service} {before : Nat} {visits : List Visit}
    (he : e ∈ c.history mount service before visits) (hreach : Reaches mount e.visit.request)
    (hpass : ¬ c.PassesOver e.visit.request.headers)
    (haccept : c.Accepts e.visit.now e.visit.request.headers e.visit.request.body) {value : Json}
    (hvalue : (classify e.visit.request.headers e.visit.request.body).1 = .challenge value) :
    e.Echoes mount := by
  have hfate : e.visit.fate c = .challenged value := by
    rw [Visit.fate, fate_of_accepts hpass haccept, hvalue]
    rfl
  have hmeets := meets_fate_of_mem he hreach
  rw [hfate] at hmeets
  exact ⟨hreach, value, _, hvalue, hmeets.response, rfl⟩

end Exchange

section Meets

variable {e : Exchange} {c : Connector} {service : Service}

/-- A visit that is not accepted is turned away, or passed over as a retry. -/
theorem Exchange.Meets.refused (h : e.Meets c service (e.visit.fate c))
    (haccept : ¬ c.Accepts e.visit.now e.visit.request.headers e.visit.request.body) :
    e.Idle ∧ (e.outcome.response = some turnedAway ∨
      c.PassesOver e.visit.request.headers ∧ e.outcome.response = some passedOver) := by
  by_cases hpass : c.PassesOver e.visit.request.headers
  · obtain ⟨count, reason, hfate⟩ : ∃ count reason, e.visit.fate c = .passedOver count reason :=
      fate_of_passesOver hpass
    rw [hfate] at h
    exact ⟨h.idle rfl, .inr ⟨hpass, h.response⟩⟩
  · obtain ⟨why, hfate⟩ : ∃ why, e.visit.fate c = .refused why :=
      fate_of_not_accepts hpass haccept
    rw [hfate] at h
    exact ⟨h.idle rfl, .inl h.response⟩

/-- Where a visit is not refused, the response is another one. -/
theorem Exchange.Meets.ne_turnedAway_of_fate {f : Fate} (h : e.Meets c service f)
    (hf : ∀ why, f ≠ .refused why) : e.outcome.response ≠ some turnedAway := by
  have hstatus : ∀ {r : Http.Response}, e.outcome.response = some r → r.status ≠ 401 →
      e.outcome.response ≠ some turnedAway := by
    intro r hr hne hturned
    obtain rfl : r = turnedAway := Option.some.inj (hr.symm.trans hturned)
    exact hne rfl
  cases f with
  | passedOver count reason => exact hstatus h.response (by decide)
  | refused why => exact absurd rfl (hf why)
  | challenged value =>
      exact hstatus h.response (by simp [Http.Response.ofJson, Http.Response.withLength])
  | delivered sender text =>
      intro hturned
      exact absurd (h.response_of_delivered hturned) (by decide)
  | ignored => exact hstatus h.response (by decide)

/-- A visit that is accepted is not refused. -/
theorem Visit.fate_ne_refused {v : Visit}
    (haccept : c.Accepts v.now v.request.headers v.request.body) (why : SignatureError) :
    v.fate c ≠ .refused why := by
  intro hwhy
  by_cases hpass : c.PassesOver v.request.headers
  · obtain ⟨count, reason, hfate⟩ : ∃ count reason, v.fate c = .passedOver count reason :=
      fate_of_passesOver hpass
    cases hfate.symm.trans hwhy
  · rw [Visit.fate, fate_of_accepts hpass haccept] at hwhy
    cases hp : (classify v.request.headers v.request.body).1 with
    | _ =>
        rw [hp] at hwhy
        cases hwhy

/-- A visit that is accepted is not turned away. -/
theorem Exchange.Meets.ne_turnedAway (h : e.Meets c service (e.visit.fate c))
    (haccept : c.Accepts e.visit.now e.visit.request.headers e.visit.request.body) :
    e.outcome.response ≠ some turnedAway :=
  h.ne_turnedAway_of_fate (Visit.fate_ne_refused haccept)

end Meets

/-- In every history of a connector whose credentials have a secret, a visit about which something
is done is authentic.  One that reaches the webhook and is not authentic is turned away, or passed
over as a retry, and nothing is done about it; one that is authentic is not turned away. -/
theorem acts_only_on_authentic_visits {credentials : Credentials} {secret : String}
    {c : Connector} (hsecret : credentials.secret = some secret) (hne : secret ≠ "")
    (hc : Connector.ofCredentials (some credentials) = .ok c) (mount : Http.Mount)
    (service : Service) (before : Nat) (visits : List Visit) :
    ∀ e ∈ c.history mount service before visits,
      (e.Acts mount → e.visit.Authentic secret) ∧
      (Reaches mount e.visit.request → ¬ e.visit.Authentic secret →
        e.Idle ∧ (e.outcome.response = some turnedAway ∨
          c.PassesOver e.visit.request.headers ∧ e.outcome.response = some passedOver)) ∧
      (Reaches mount e.visit.request → e.visit.Authentic secret → 0 ≤ e.visit.now →
        e.outcome.response ≠ some turnedAway) := by
  intro e he
  have hkey : c.secret = some secret := by
    rw [(ofCredentials_eq_ok hc).2.2, hsecret]
    simp [Option.filter, hne]
  by_cases hreach : Reaches mount e.visit.request
  · have hmeets := meets_fate_of_mem he hreach
    by_cases hauth : e.visit.Authentic secret
    · refine ⟨fun _ => hauth, fun _ h => absurd hauth h, fun _ _ hnow => ?_⟩
      exact hmeets.ne_turnedAway (Visit.accepts_of_authentic hkey hnow hauth)
    · obtain ⟨hidle, hresponse⟩ := hmeets.refused fun haccept =>
        hauth (Visit.authentic_of_accepts hkey haccept)
      refine ⟨fun hacts => absurd hacts ?_, fun _ _ => ⟨hidle, hresponse⟩,
        fun _ h => absurd h hauth⟩
      rcases hresponse with hresponse | ⟨-, hresponse⟩
      · exact hidle.not_acts hresponse rfl
      · exact hidle.not_acts hresponse rfl
  · refine ⟨fun hacts => ?_, fun h => absurd h hreach, fun h => absurd h hreach⟩
    exact absurd ((idle_of_mem he hreach).echoes_of_acts hacts).1 hreach

/-- A signature can stand in a header field. -/
theorem isPlain_of_mem_signature {secret time : String} {body : Bytes} {ch : Char}
    (h : ch ∈ (signatureOf secret time body).toList) : Http.IsPlain ch := by
  rcases List.mem_append.mp (String.toList_ofList ▸ h) with h | h
  · have hversion : ∀ ch ∈ "v0=".toList, Http.IsPlain ch := Http.isPlain_of_all (by decide)
    exact hversion ch h
  · exact Http.isPlain_of_mem_hex h

/-- Credentials with a secret. -/
def sealedCredentials : Credentials := { token := some "t", secret := some "s" }

/-- The headers of a signed request. -/
def signedHeaders (time signature : String) : Http.Headers :=
  [(timeHeader, Text.encodeString time), (signatureHeader, Text.encodeString signature)]

theorem text?_signedHeaders_eq_none {time signature name : String}
    (htime : Http.foldCase timeHeader ≠ Http.foldCase name)
    (hsignature : Http.foldCase signatureHeader ≠ Http.foldCase name) :
    Http.text? (signedHeaders time signature) name = none :=
  Http.text?_eq_none <|
    (Http.first?_cons_of_ne htime).trans (Http.first?_cons_of_ne hsignature)

/-- A handshake that comes without a signature. -/
def bareHandshake : Visit where
  now := 1000
  request :=
    { method := "POST", target := "/webhook", body := Text.encodeString "\x7b\"challenge\":1\x7d" }
  engine := fun _ => .finish

/-- The same handshake, signed under the secret of the credentials. -/
def signedHandshake : Visit :=
  let headers := signedHeaders "1000" (signatureOf "s" "1000" bareHandshake.request.body)
  { bareHandshake with request := { bareHandshake.request with headers } }

theorem signedHandshake_authentic : signedHandshake.Authentic "s" := by
  refine Visit.authentic_iff.mpr ⟨"1000", 1000, ?_, by decide, by decide, ?_⟩
  · refine Http.text?_eq_some_of_plain (Http.isPlain_of_all (by decide)) ?_
    exact Http.first?_cons_of_eq (by decide)
  · refine Http.text?_eq_some_of_plain (fun _ => isPlain_of_mem_signature) ?_
    exact (Http.first?_cons_of_ne (by decide)).trans (Http.first?_cons_of_eq (by decide))

theorem bareHandshake_not_authentic : ¬ bareHandshake.Authentic "s" := by
  rintro ⟨time, -, htime, -⟩
  cases htime

theorem reaches_bareHandshake : Reaches .root bareHandshake.request :=
  reaches_root_iff.mpr ⟨by decide, rfl, by decide⟩

theorem reaches_signedHandshake : Reaches .root signedHandshake.request :=
  reaches_root_iff.mpr ⟨by decide, rfl, by decide⟩

theorem bareHandshake_not_passedOver {c : Connector} :
    ¬ c.PassesOver bareHandshake.request.headers := by
  rintro ⟨count, -, hcount, -⟩
  cases hcount

theorem signedHandshake_not_passedOver {c : Connector} :
    ¬ c.PassesOver signedHandshake.request.headers := by
  rintro ⟨count, -, hcount, -⟩
  have hnone : Http.text? signedHandshake.request.headers "x-slack-retry-num" = none :=
    text?_signedHeaders_eq_none (by decide) (by decide)
  cases hnone.symm.trans hcount

theorem classify_signedHandshake :
    ∃ value, (classify signedHandshake.request.headers signedHandshake.request.body).1
      = .challenge value := by
  have hnone : Http.text? signedHandshake.request.headers "content-type" = none :=
    text?_signedHeaders_eq_none (by decide) (by decide)
  have hform : announcesForm signedHandshake.request.headers = false := by
    simp only [announcesForm, hnone, Option.any_none]
  rw [classify, hform]
  have hmatches : (Inbound.Payload.ofBody false signedHandshake.request.body).1 matches
      .challenge _ := by
    decide +kernel
  revert hmatches
  cases (Inbound.Payload.ofBody false signedHandshake.request.body).1 with
  | challenge value => exact fun _ => ⟨value, rfl⟩
  | _ => exact fun h => nomatch h

/-- The signed handshake is answered, being authentic, and the bare one is turned away. -/
theorem handshakes_at_the_gate :
    ∃ c e e', Connector.ofCredentials (some sealedCredentials) = .ok c ∧
      c.history .root .faultless 0 [signedHandshake, bareHandshake] = [e, e'] ∧
      e.Acts .root ∧ e.visit.Authentic "s" ∧
      e'.Idle ∧ e'.outcome.response = some turnedAway := by
  obtain ⟨c, hc⟩ : ∃ c, Connector.ofCredentials (some sealedCredentials) = .ok c := ⟨_, rfl⟩
  have hgate := acts_only_on_authentic_visits rfl (by decide) hc .root .faultless 0
    [signedHandshake, bareHandshake]
  obtain ⟨e, e', hhistory⟩ : ∃ e e', c.history .root .faultless 0
      [signedHandshake, bareHandshake] = [e, e'] := ⟨_, _, rfl⟩
  have hvisits := history_visits c .root .faultless 0 [signedHandshake, bareHandshake]
  rw [hhistory] at hvisits hgate
  obtain ⟨hfirst, hsecond⟩ : e.visit = signedHandshake ∧ e'.visit = bareHandshake := by
    simpa using hvisits
  have hkey : c.secret = some "s" := (ofCredentials_eq_ok hc).2.2
  have hacts : e.Acts .root := by
    have hmem : e ∈ c.history .root .faultless 0 [signedHandshake, bareHandshake] := by
      simp [hhistory]
    have haccept : c.Accepts e.visit.now e.visit.request.headers e.visit.request.body :=
      Visit.accepts_of_authentic hkey (by rw [hfirst]; decide)
        (hfirst ▸ signedHandshake_authentic)
    obtain ⟨value, hvalue⟩ := classify_signedHandshake
    rw [← hfirst] at hvalue
    exact .inr <| .inr <| .inr <| Exchange.echoes_of_accepts hmem
      (hfirst ▸ reaches_signedHandshake) (hfirst ▸ signedHandshake_not_passedOver) haccept hvalue
  obtain ⟨hidle, hresponse⟩ := (hgate e' (by simp)).2.1 (hsecond ▸ reaches_bareHandshake)
    (hsecond ▸ bareHandshake_not_authentic)
  refine ⟨c, e, e', hc, hhistory, hacts, (hgate e (by simp)).1 hacts, hidle, ?_⟩
  refine hresponse.resolve_right fun h => ?_
  rw [hsecond] at h
  exact bareHandshake_not_passedOver h.1

end Switchboard
