/-
# Which signatures pass

What is reported of a signature is settled by four conditions, and the first that fails decides: the time
is a number of 64 bits, the clock does not stand before 1970, the two are at most 300 seconds apart, and
the signature is the code of time and body (`Assessed`).  A request is judged by the first field of each of
its two headers, whatever fields follow.  The main statement is `signatures_pass_exactly`.
-/
import Switchboard.Proofs.Connector.Signature
import Switchboard.Proofs.Http.Header
import Switchboard.Proofs.Number.Digits

namespace Switchboard.Connector

/-- The result of a check as it is reported. -/
def reported (check : Except SignatureError Unit × List Log.Event) : Except Failure Unit :=
  check.1.mapError SignatureError.failure

/-- The signature that a secret gives to a time and a body. -/
def properSignature (secret time : String) (body : Bytes) : String :=
  String.ofList <| "v0=".toList ++ Digest.hex
    (Digest.hmac (Text.encodeString secret) (Text.encodeString ("v0:" ++ time ++ ":") ++ body))

/-- What is reported of a signature, told by the first condition that fails. -/
structure Assessed (secret : String) (now : Int) (time : String) (body : Bytes)
    (signature : String) (result : Except Failure Unit) : Prop where
  unreadable : result = .error (.signature "Invalid timestamp") ↔
    ¬ ∃ t, Number.Spells time.toList t
  early : result = .error (.signature "System time error") ↔
    (∃ t, Number.Spells time.toList t) ∧ now < 0
  stale : result = .error (.signature "Request timestamp is too old or in the future") ↔
    ∃ t, Number.Spells time.toList t ∧ 0 ≤ now ∧ 300 < (now - t).natAbs
  forged : result = .error (.signature "Invalid request signature") ↔
    ∃ t, Number.Spells time.toList t ∧ 0 ≤ now ∧ (now - t).natAbs ≤ 300 ∧
      Text.encodeString signature ≠ Text.encodeString (properSignature secret time body)
  passed : result = .ok () ↔
    ∃ t, Number.Spells time.toList t ∧ 0 ≤ now ∧ (now - t).natAbs ≤ 300 ∧
      Text.encodeString signature = Text.encodeString (properSignature secret time body)

theorem signatureOf_eq (secret time : String) (body : Bytes) :
    signatureOf secret time body = properSignature secret time body := by
  rw [properSignature, ← signedBytes_eq]
  rfl

section Assessed

variable {time : String} {t : Nat}

theorem not_spelled (h : Number.word64? time.toList = none) :
    ¬ ∃ t, Number.Spells time.toList t := by
  rintro ⟨t, ht⟩
  rw [← Number.word64?_eq_some_iff, h] at ht
  cases ht

/-- A text spells one number at most. -/
theorem exists_spelled_iff (h : Number.word64? time.toList = some t) {p : Nat → Prop} :
    (∃ t', Number.Spells time.toList t' ∧ p t') ↔ p t := by
  simp only [← Number.word64?_eq_some_iff, h, Option.some.injEq, exists_eq_left']

theorem spelled (h : Number.word64? time.toList = some t) :
    ∃ t, Number.Spells time.toList t :=
  ⟨t, Number.word64?_eq_some_iff.mp h⟩

/-- Whatever comes of a check, one of the five conditions holds and the result is reported that goes
with it. -/
theorem assessed_of_checked {secret : String} {now : Int} {body : Bytes} {signature : String}
    {check : Except SignatureError Unit × List Log.Event}
    (h : Checked secret now time body signature check) :
    Assessed secret now time body signature (reported check) := by
  have hbytes : Text.encodeString signature = Text.encodeString (properSignature secret time body)
      ↔ signature = signatureOf secret time body := by
    rw [signatureOf_eq]
    exact ⟨Text.encodeString_injective, congrArg _⟩
  cases h with
  | unreadable ht =>
      show Assessed secret now time body signature (.error (.signature "Invalid timestamp"))
      have hnone : ∀ p : Nat → Prop, ¬ ∃ t, Number.Spells time.toList t ∧ p t :=
        fun p ⟨t, h, _⟩ => not_spelled ht ⟨t, h⟩
      constructor <;> simp [not_spelled ht, hnone]
  | early ht hnow =>
      show Assessed secret now time body signature (.error (.signature "System time error"))
      have hneg : ¬ 0 ≤ now := Int.not_le.mpr hnow
      constructor <;> simp [spelled ht, hnow, hneg]
  | @stale t moment ht hnow hfar =>
      show Assessed secret now time body signature
        (.error (.signature "Request timestamp is too old or in the future"))
      have hnonneg : 0 ≤ now := hnow ▸ Int.natCast_nonneg moment
      have hlong : 300 < (now - t).natAbs := hfar
      constructor <;>
        simp [spelled ht, exists_spelled_iff ht, hnonneg, Int.not_lt.mpr, Nat.not_le.mpr, hlong]
  | @forged t ht hnow hnear hs =>
      show Assessed secret now time body signature
        (.error (.signature "Invalid request signature"))
      have hshort : (now - t).natAbs ≤ 300 := hnear
      have hother := mt hbytes.mp hs
      constructor <;>
        simp [spelled ht, exists_spelled_iff ht, hnow, Int.not_lt.mpr, Nat.not_lt.mpr, hshort,
          hother]
  | @passed t ht hnow hnear hs =>
      show Assessed secret now time body signature (.ok ())
      have hshort : (now - t).natAbs ≤ 300 := hnear
      have hsame := hbytes.mpr hs
      constructor <;>
        simp [spelled ht, exists_spelled_iff ht, hnow, Int.not_lt.mpr, Nat.not_lt.mpr, hshort,
          hsame]

end Assessed

section Request

variable {c : Connector} {secret : String} (hc : c.secret = some secret) {now : Int}
  {headers : Http.Headers} {body : Bytes} {time signature : String}
include hc

theorem verifySignature_eq : c.verifySignature now time body signature
    = checkSignature secret now time body signature := by
  rw [verifySignature, hc]

/-- A request is judged by the first field of each of its two headers. -/
theorem verifyRequest_of_shows (htime : Http.Shows headers timeHeader time)
    (hsignature : Http.Shows headers signatureHeader signature) :
    c.verifyRequest now headers body = c.verifySignature now time body signature := by
  rw [verifySignature_eq hc, verifyRequest, hc]
  simp only [Http.text?_eq_some_iff.mpr htime, Http.text?_eq_some_iff.mpr hsignature]

theorem verifyRequest_of_hides_time (htime : Http.Hides headers timeHeader) :
    c.verifyRequest now headers body = (.error (.missingHeader timeHeader), []) := by
  rw [verifyRequest, hc]
  simp only [Http.text?_eq_none_iff.mpr htime]

theorem verifyRequest_of_hides_signature (htime : Http.Shows headers timeHeader time)
    (hsignature : Http.Hides headers signatureHeader) :
    c.verifyRequest now headers body = (.error (.missingHeader signatureHeader), []) := by
  rw [verifyRequest, hc]
  simp only [Http.text?_eq_some_iff.mpr htime, Http.text?_eq_none_iff.mpr hsignature]

end Request

theorem secret_withSecret {c : Connector} {secret : String} (h : secret ≠ "") :
    (c.withSecret secret).secret = some secret := by
  simp [withSecret, h]

/-- Under a secret, what is reported of a signature is settled by the first of four conditions that
fails, and a signature passes if none does.  So a proper signature of a time, which may be any number of
64 bits, passes from 300 seconds before this time to 300 seconds after it.  A request is judged by what
the first fields of its two headers show; if one of them cannot be read, or there is none, this is what is
reported, of the time first. -/
theorem signatures_pass_exactly (c : Connector) {secret : String} (hsecret : secret ≠ "")
    (now : Int) (body : Bytes) :
    (∀ time signature, Assessed secret now time body signature
      (reported ((c.withSecret secret).verifySignature now time body signature))) ∧
    (∀ t < Nat.pow 2 64, Number.Spells (toString t).toList t ∧
      ∀ time, Number.Spells time.toList t →
        (reported ((c.withSecret secret).verifySignature now time body
            (properSignature secret time body)) = .ok () ↔
          max 0 ((t : Int) - 300) ≤ now ∧ now ≤ t + 300)) ∧
    ∀ headers,
      (∀ time signature, Http.Shows headers "x-slack-request-timestamp" time →
        Http.Shows headers "x-slack-signature" signature →
        (c.withSecret secret).verifyRequest now headers body
          = (c.withSecret secret).verifySignature now time body signature) ∧
      (Http.Hides headers "x-slack-request-timestamp" →
        reported ((c.withSecret secret).verifyRequest now headers body)
          = .error (.signature "Missing x-slack-request-timestamp header")) ∧
      ∀ time, Http.Shows headers "x-slack-request-timestamp" time →
        Http.Hides headers "x-slack-signature" →
        reported ((c.withSecret secret).verifyRequest now headers body)
          = .error (.signature "Missing x-slack-signature header") := by
  have hc : (c.withSecret secret).secret = some secret := secret_withSecret hsecret
  have hassessed : ∀ time signature, Assessed secret now time body signature
      (reported ((c.withSecret secret).verifySignature now time body signature)) := by
    intro time signature
    rw [verifySignature_eq hc]
    exact assessed_of_checked (checked_checkSignature secret now time body signature)
  refine ⟨hassessed, fun t ht => ⟨Number.spells_toString ht, fun time htime => ?_⟩,
    fun headers => ⟨fun time signature => verifyRequest_of_shows hc, fun htime => ?_,
      fun time htime hsignature => ?_⟩⟩
  · rw [(hassessed time _).passed, exists_spelled_iff (Number.word64?_eq_some_iff.mpr htime)]
    simp only [and_true]
    omega
  · rw [verifyRequest_of_hides_time hc htime]
    rfl
  · rw [verifyRequest_of_hides_signature hc htime hsignature]
    rfl

/-- A connector that has not been given a secret. -/
def openConnector : Connector := { token := "t", ignoredReasons := [] }

/-- Headers whose first time cannot be read, although a later one can. -/
def smearedHeaders : Http.Headers :=
  [(timeHeader, [0xff]), (timeHeader, Text.encodeString "1000"),
   (signatureHeader, Text.encodeString (properSignature "s" "1000" []))]

/-- A time that is spelled with a sign and a zero passes 300 seconds later and not after, and a time that
cannot be read is missed although it is repeated. -/
theorem spelled_time_passes_until_stale :
    reported ((openConnector.withSecret "s").verifySignature 1300 "+01000" []
        (properSignature "s" "+01000" [])) = .ok () ∧
      reported ((openConnector.withSecret "s").verifySignature 1301 "+01000" []
          (properSignature "s" "+01000" []))
        = .error (.signature "Request timestamp is too old or in the future") ∧
      reported ((openConnector.withSecret "s").verifyRequest 1000 smearedHeaders [])
        = .error (.signature "Missing x-slack-request-timestamp header") := by
  have hspelled : Number.Spells "+01000".toList 1000 :=
    Number.word64?_eq_some_iff.mp (by decide)
  have hnow := signatures_pass_exactly openConnector (by decide : "s" ≠ "") 1300 []
  have hlater := signatures_pass_exactly openConnector (by decide : "s" ≠ "") 1301 []
  have hmissed := signatures_pass_exactly openConnector (by decide : "s" ≠ "") 1000 []
  refine ⟨?_, ?_, ?_⟩
  · exact ((hnow.2.1 1000 (by decide)).2 "+01000" hspelled).mpr (by decide)
  · exact (hlater.1 "+01000" _).stale.mpr ⟨1000, hspelled, by decide, by decide⟩
  · have hfirst : Http.FirstIs smearedHeaders timeHeader [0xff] :=
      ⟨[], timeHeader, _, rfl, rfl, fun _ h => absurd h List.not_mem_nil⟩
    refine (hmissed.2.2 smearedHeaders).2.1 (.inr ⟨[0xff], hfirst, fun h => ?_⟩)
    exact absurd (h 0xff List.mem_cons_self) (by decide)

end Switchboard.Connector
