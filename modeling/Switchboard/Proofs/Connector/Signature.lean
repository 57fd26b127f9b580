/-
# When a signature is accepted

What a check of a signature comes to (`Checked`).  It passes if the time is a number of 64 bits, the
clock shows a moment that is near it, and the signature is the one that the secret gives.  A request is
accepted if the first field of each of the two headers passes, and credentials with a secret make a
connector that checks under this secret.
-/
import Switchboard.Connector.Signature
import Switchboard.Proofs.Message.Instant
import Switchboard.Proofs.Text.Utf8

namespace Switchboard.Connector

theorem distance_eq_natAbs (m n : Nat) : distance m n = ((m : Int) - n).natAbs := by
  unfold distance
  omega

/-- What is gathered is nothing just if nothing was there before and no two bytes differ. -/
theorem gathered_eq_zero_iff {s t : Bytes} (h : s.length = t.length) (seen : UInt8) :
    (s.zip t).foldl (fun seen p => seen ||| (p.1 ^^^ p.2)) seen = 0 ↔ seen = 0 ∧ s = t := by
  induction s generalizing t seen with
  | nil =>
      obtain rfl : t = [] := List.eq_nil_of_length_eq_zero h.symm
      simp
  | cons a s ih =>
      cases t with
      | nil => cases h
      | cons b t =>
          rw [List.zip_cons_cons, List.foldl_cons, ih (Nat.succ.inj h), UInt8.or_eq_zero_iff,
            UInt8.xor_eq_zero_iff, List.cons.injEq, and_assoc]

theorem sameBytes_iff {s t : Bytes} : sameBytes s t = true ↔ s = t := by
  unfold sameBytes
  by_cases h : s.length = t.length
  · simp [h, gathered_eq_zero_iff h]
  · have hne : s ≠ t := fun he => h (congrArg List.length he)
    simp [h, hne]

/-- Texts are compared by their bytes. -/
theorem sameBytes_encodeString {s t : String} :
    sameBytes (Text.encodeString s) (Text.encodeString t) = true ↔ s = t :=
  sameBytes_iff.trans ⟨Text.encodeString_injective, congrArg _⟩

theorem signedBytes_eq (time : String) (body : Bytes) :
    signedBytes time body = Text.encodeString ("v0:" ++ time ++ ":") ++ body := by
  simp [signedBytes, Text.encodeString, Text.encode, List.flatMap_append]

/-- What a check comes to, for each of the conditions that may be the first to fail, and for the case
that none does. -/
inductive Checked (secret : String) (now : Int) (time : String) (body : Bytes)
    (signature : String) : Except SignatureError Unit × List Log.Event → Prop
  | unreadable (ht : Number.word64? time.toList = none) :
      Checked secret now time body signature (.error .unreadableTime, [])
  | early {t : Nat} (ht : Number.word64? time.toList = some t) (hnow : now < 0) :
      Checked secret now time body signature (.error .clockBeforeEpoch, [])
  | stale {t moment : Nat} (ht : Number.word64? time.toList = some t) (hnow : now = moment)
      (hfar : maxAge < (now - t).natAbs) :
      Checked secret now time body signature (.error .stale, [staleEvent t moment])
  | forged {t : Nat} (ht : Number.word64? time.toList = some t) (hnow : 0 ≤ now)
      (hnear : (now - t).natAbs ≤ maxAge) (hs : signature ≠ signatureOf secret time body) :
      Checked secret now time body signature (.error .mismatch, [mismatchEvent])
  | passed {t : Nat} (ht : Number.word64? time.toList = some t) (hnow : 0 ≤ now)
      (hnear : (now - t).natAbs ≤ maxAge) (hs : signature = signatureOf secret time body) :
      Checked secret now time body signature (.ok (), [verifiedEvent])

theorem checked_checkSignature (secret : String) (now : Int) (time : String) (body : Bytes)
    (signature : String) :
    Checked secret now time body signature (checkSignature secret now time body signature) := by
  unfold checkSignature
  cases ht : Number.word64? time.toList with
  | none => exact .unreadable ht
  | some t =>
      cases hm : Instant.ofClock? now with
      | none => exact .early ht (Instant.ofClock?_eq_none_iff.mp hm)
      | some moment =>
          have hnow : now = moment := Instant.ofClock?_eq_some_iff.mp hm
          have hdistance : distance moment t = (now - t).natAbs := hnow ▸ distance_eq_natAbs moment t
          simp only [hdistance, sameBytes_encodeString]
          by_cases hfar : maxAge < (now - t).natAbs
          · rw [if_pos hfar]
            exact .stale ht hnow hfar
          · have hnear : (now - t).natAbs ≤ maxAge := Nat.not_lt.mp hfar
            have hnonneg : 0 ≤ now := hnow ▸ Int.natCast_nonneg moment
            rw [if_neg hfar]
            by_cases hs : signature = signatureOf secret time body
            · rw [if_pos hs]
              exact .passed ht hnonneg hnear hs
            · rw [if_neg hs]
              exact .forged ht hnonneg hnear hs

/-- Exactly the signatures that pass under a secret. -/
theorem checkSignature_eq_ok_iff {secret : String} {now : Int} {time : String} {body : Bytes}
    {signature : String} :
    (checkSignature secret now time body signature).1 = .ok () ↔
      0 ≤ now ∧ (∃ t, Number.word64? time.toList = some t ∧ (now - t).natAbs ≤ maxAge) ∧
        signature = signatureOf secret time body := by
  have hchecked := checked_checkSignature secret now time body signature
  generalize checkSignature secret now time body signature = check at hchecked
  cases hchecked with
  | unreadable ht => simp [ht]
  | early ht hnow => simp [Int.not_le.mpr hnow]
  | stale ht hnow hfar => simp [ht, Nat.not_le.mpr hfar]
  | forged ht hnow hnear hs => simp [hs]
  | passed ht hnow hnear hs => simp [ht, hnow, hnear, hs]

/-- Two secrets for which a signature passes or does not pass alike are not told apart. -/
theorem checkSignature_eq_of_ok_iff {secret secret' : String} {now : Int} {time : String}
    {body : Bytes} {signature : String}
    (h : (checkSignature secret now time body signature).1 = .ok () ↔
      (checkSignature secret' now time body signature).1 = .ok ()) :
    checkSignature secret now time body signature
      = checkSignature secret' now time body signature := by
  unfold checkSignature at h ⊢
  cases ht : Number.word64? time.toList with
  | none => rfl
  | some t =>
      cases hm : Instant.ofClock? now with
      | none => rfl
      | some moment =>
          by_cases hfar : maxAge < distance moment t
          · simp only [if_pos hfar]
          · -- Up to here no secret was looked at.
            simp only [ht, hm, if_neg hfar, sameBytes_encodeString] at h ⊢
            have hpassed : ∀ (p : Prop) [Decidable p],
                (if p then (.ok (), [verifiedEvent]) else (.error .mismatch, [mismatchEvent]) :
                  Except SignatureError Unit × List Log.Event).1 = .ok () ↔ p := by
              intro p _
              split
              · next hp => exact iff_of_true rfl hp
              · next hp => exact iff_of_false (by simp) hp
            rw [hpassed, hpassed] at h
            simp only [h]

/-- A request passes under a secret if the first fields of its two headers do. -/
theorem verifyRequest_eq_ok_iff {c : Connector} {secret : String} (hc : c.secret = some secret)
    {now : Int} {headers : Http.Headers} {body : Bytes} :
    (c.verifyRequest now headers body).1 = .ok () ↔
      ∃ time signature, Http.text? headers timeHeader = some time ∧
        Http.text? headers signatureHeader = some signature ∧
        (checkSignature secret now time body signature).1 = .ok () := by
  unfold verifyRequest
  rw [hc]
  cases ht : Http.text? headers timeHeader with
  | none => simp
  | some time =>
      cases hs : Http.text? headers signatureHeader with
      | none => simp
      | some signature => simp

/-- What an accepted set of credentials makes. -/
theorem ofCredentials_eq_ok {credentials : Credentials} {c : Connector}
    (h : ofCredentials (some credentials) = .ok c) :
    c.channel = credentials.channel ∧
      c.ignoredReasons = credentials.ignoredReasons.getD defaultReasons ∧
      c.secret = credentials.secret.filter fun s => !s.isEmpty := by
  unfold ofCredentials at h
  cases htoken : credentials.token with
  | none => simp [htoken] at h
  | some token =>
      simp only [htoken, create] at h
      by_cases hblank : Text.allBlank token = true
      · simp [hblank] at h
      · rw [if_neg hblank] at h
        cases hsecret : credentials.secret with
        | none =>
            simp only [hsecret, Except.ok.injEq] at h
            subst h
            exact ⟨rfl, rfl, rfl⟩
        | some secret =>
            simp only [hsecret, Except.ok.injEq] at h
            subst h
            refine ⟨rfl, rfl, ?_⟩
            by_cases he : secret.isEmpty = true <;> simp [withSecret, he, Option.filter]

end Switchboard.Connector
