/-
# What a signature binds

The time and the body of a request are signed as one row of bytes.  In general a row does not tell
where the time ends, for a body may hold a colon; but a time that is a number holds none, so that the
first colon behind the version is the border (`signedBytes_inj`).  A signature that passes for two
requests that differ is therefore a collision of the code, which is the main statement.
-/
import Switchboard.Proofs.Connector.Signature
import Switchboard.Proofs.Http.Header
import Switchboard.Proofs.Number.Digits
import Switchboard.Proofs.Text.Search
import Switchboard.Proofs.Text.Utf8

namespace Switchboard

/-! ## Digits of a digest -/

theorem Digest.digitChar_inj : ∀ m < 16, ∀ n < 16, Nat.digitChar m = Nat.digitChar n → m = n := by
  decide

theorem Digest.byteDigits_inj {b b' : UInt8} (h : byteDigits b = byteDigits b') : b = b' := by
  simp only [byteDigits, List.cons.injEq, and_true] at h
  have hlt : b.toNat < 256 := b.toNat_lt
  have hlt' : b'.toNat < 256 := b'.toNat_lt
  have hhigh : b.toNat / 16 = b'.toNat / 16 := digitChar_inj _ (by omega) _ (by omega) h.1
  have hlow : b.toNat % 16 = b'.toNat % 16 := digitChar_inj _ (by omega) _ (by omega) h.2
  exact UInt8.toNat_inj.mp (by omega)

theorem Digest.hex_inj : ∀ {s t : Bytes}, hex s = hex t → s = t
  | [], [], _ => rfl
  | [], _ :: _, h => nomatch h
  | _ :: _, [], h => nomatch h
  | b :: s, b' :: t, h => by
      have hdigits : byteDigits b ++ hex s = byteDigits b' ++ hex t := h
      obtain ⟨hfirst, hrest⟩ := List.append_inj hdigits rfl
      rw [byteDigits_inj hfirst, hex_inj hrest]

namespace Connector

/-! ## The row of bytes that is signed -/

/-- The bytes of a number hold no colon. -/
theorem colon_notMem_encode {s : List Char} {t : Nat} (h : Number.word64? s = some t) :
    0x3a ∉ Text.encode s := by
  have hcode : ∀ c ∈ s, 43 ≤ c.toNat ∧ c.toNat ≤ 57 := by
    intro c hc
    rcases Number.mem_of_word64? h hc with rfl | hdigit
    · decide
    · have := Number.isDigit_iff.mp hdigit
      omega
  have hplain : ∀ c ∈ s, Http.IsPlain c := fun c hc => by
    have := hcode c hc
    exact ⟨by omega, by omega⟩
  rw [Http.encode_plain hplain]
  intro hmem
  obtain ⟨c, hc, hcolon⟩ := List.mem_map.mp hmem
  have hnat : c.toNat = 58 := (Http.toNat_ofNat_plain (hplain c hc)).symm.trans
    (congrArg UInt8.toNat hcolon)
  have := hcode c hc
  omega

/-- Times that are numbers, and bodies of any kind, can be told from the row of bytes. -/
theorem signedBytes_inj {time time' : String} {body body' : Bytes} {t t' : Nat}
    (ht : Number.word64? time.toList = some t) (ht' : Number.word64? time'.toList = some t') :
    signedBytes time body = signedBytes time' body' ↔ time = time' ∧ body = body' := by
  constructor
  · intro h
    have hrow : ∀ time body, signedBytes time body
        = Text.encodeString "v0:" ++ (Text.encodeString time ++ 0x3a :: body) := by
      intro time body
      have hcolon : Text.encodeString ":" = [0x3a] := rfl
      rw [signedBytes, hcolon, List.append_assoc, List.append_assoc, List.singleton_append]
    rw [hrow, hrow] at h
    have hcut := congrArg (Text.cut 0x3a) (List.append_cancel_left h)
    rw [Text.encodeString, Text.encodeString, Text.cut_append (colon_notMem_encode ht),
      Text.cut_append (colon_notMem_encode ht'), Prod.mk.injEq, Option.some.injEq] at hcut
    exact ⟨Text.encodeString_injective hcut.1, hcut.2⟩
  · rintro ⟨rfl, rfl⟩
    rfl

theorem hmac_eq_of_signatureOf_eq {secret time time' : String} {body body' : Bytes}
    (h : signatureOf secret time body = signatureOf secret time' body') :
    Digest.hmac (Text.encodeString secret) (signedBytes time body)
      = Digest.hmac (Text.encodeString secret) (signedBytes time' body') :=
  Digest.hex_inj (List.append_cancel_left (String.ofList_injective h))

/-- Under a secret, what passes is a number for a time and the signature of the time and body. -/
theorem signatureOf_of_verifySignature {c : Connector} {secret : String}
    (hc : c.secret = some secret) {now : Int} {time : String} {body : Bytes} {signature : String}
    (h : (c.verifySignature now time body signature).1 = .ok ()) :
    (∃ t, Number.word64? time.toList = some t) ∧ signature = signatureOf secret time body := by
  rw [verifySignature, hc] at h
  obtain ⟨-, ⟨t, ht, -⟩, hsignature⟩ := checkSignature_eq_ok_iff.mp h
  exact ⟨⟨t, ht⟩, hsignature⟩

/-- Where both times are numbers, the rows of bytes are equal just if times and bodies are.  So if
one signature passes under a secret for two requests, at whatever moments, then they have the same
time, letter for letter, and the same body, or their rows of bytes are different and have one
code. -/
theorem signature_binds_time_and_body {secret time time' : String} {body body' : Bytes} :
    (∀ t t', Number.word64? time.toList = some t → Number.word64? time'.toList = some t' →
      (signedBytes time body = signedBytes time' body' ↔ time = time' ∧ body = body')) ∧
    ∀ (c c' : Connector) (now now' : Int) (signature : String),
      c.secret = some secret → c'.secret = some secret →
      (c.verifySignature now time body signature).1 = .ok () →
      (c'.verifySignature now' time' body' signature).1 = .ok () →
      (time = time' ∧ body = body') ∨
        (signedBytes time body ≠ signedBytes time' body' ∧
          Digest.hmac (Text.encodeString secret) (signedBytes time body)
            = Digest.hmac (Text.encodeString secret) (signedBytes time' body')) := by
  refine ⟨fun t t' => signedBytes_inj, fun c c' now now' signature hc hc' h h' => ?_⟩
  obtain ⟨⟨t, ht⟩, hsignature⟩ := signatureOf_of_verifySignature hc h
  obtain ⟨⟨t', ht'⟩, hsignature'⟩ := signatureOf_of_verifySignature hc' h'
  by_cases hsame : time = time' ∧ body = body'
  · exact .inl hsame
  · exact .inr ⟨fun hrow => hsame ((signedBytes_inj ht ht').mp hrow),
      hmac_eq_of_signatureOf_eq (hsignature.symm.trans hsignature')⟩

/-- A connector that checks under a secret. -/
def sealedConnector : Connector := { token := "t", ignoredReasons := [], secret := some "s" }

theorem sealedConnector_verifies {now : Int} {time : String} {t : Nat} (body : Bytes)
    (hnow : 0 ≤ now) (ht : Number.word64? time.toList = some t) (hnear : (now - t).natAbs ≤ 300) :
    (sealedConnector.verifySignature now time body (signatureOf "s" time body)).1 = .ok () :=
  checkSignature_eq_ok_iff.mpr ⟨hnow, ⟨t, ht, hnear⟩, rfl⟩

/-- A time that is spelled in another way, or that leaves its last digit to the body, makes another
row of bytes; and a request may pass twice. -/
theorem respelled_time_is_another_row :
    signedBytes "1000" [0x3a] ≠ signedBytes "+01000" [0x3a] ∧
      signedBytes "1000" [0x3a] ≠ signedBytes "100" [0x30, 0x3a] ∧
      ∃ signature, (sealedConnector.verifySignature 1000 "1000" [0x3a] signature).1 = .ok () ∧
        (sealedConnector.verifySignature 1300 "1000" [0x3a] signature).1 = .ok () ∧
        (("1000" = "1000" ∧ ([0x3a] : Bytes) = [0x3a]) ∨
          (signedBytes "1000" [0x3a] ≠ signedBytes "1000" [0x3a] ∧
            Digest.hmac (Text.encodeString "s") (signedBytes "1000" [0x3a])
              = Digest.hmac (Text.encodeString "s") (signedBytes "1000" [0x3a]))) := by
  have htime : Number.word64? "1000".toList = some 1000 := by decide
  have hspelled : Number.word64? "+01000".toList = some 1000 := by decide
  have hshort : Number.word64? "100".toList = some 100 := by decide
  have hnow : (sealedConnector.verifySignature 1000 "1000" [0x3a] (signatureOf "s" "1000" [0x3a])).1
      = .ok () := sealedConnector_verifies _ (by decide) htime (by decide)
  have hlater : (sealedConnector.verifySignature 1300 "1000" [0x3a]
      (signatureOf "s" "1000" [0x3a])).1 = .ok () :=
    sealedConnector_verifies _ (by decide) htime (by decide)
  refine ⟨fun h => ?_, fun h => ?_, signatureOf "s" "1000" [0x3a], hnow, hlater, ?_⟩
  · have hsame := (@signature_binds_time_and_body "s" _ _ _ _).1 _ _ htime hspelled |>.mp h
    exact absurd hsame.1 (by decide)
  · have hsame := (@signature_binds_time_and_body "s" _ _ _ _).1 _ _ htime hshort |>.mp h
    exact absurd hsame.1 (by decide)
  · exact signature_binds_time_and_body.2 sealedConnector sealedConnector 1000 1300 _ rfl rfl hnow
      hlater

end Connector
end Switchboard
