/-
# The echo of a handshake

A handshake asks for its challenge back, and the service takes the webhook for valid only if it gets
the one that it sent.  The main statement, `challenge_comes_back`, is about every request of every
history: the response is a document that means the same value.  What carries it is `Json.read?_print`,
as a value that comes from a document has the form that the reader gives to values.
-/
import Switchboard.Proofs.Connector.Verdict
import Switchboard.Proofs.Inbound.Report
import Switchboard.Proofs.Json.Settled

namespace Switchboard

open Inbound Connector

/-- A body that is a document, of an object whose last member with the key `challenge` has a value. -/
inductive Inbound.AsksBack : Bytes → Json → Prop where
  | mk {document : List Char} {before after : List (List Json.Piece × Json.Term)}
      {key : List Json.Piece} {t : Json.Term} {room : Nat} {object value : Json}
      (hread : Json.Term.read? document = some (.object (before ++ (key, t) :: after)))
      (hobject : Json.read? document = some object)
      (hkey : Json.join? key = some "challenge")
      (hafter : ∀ w ∈ after, Json.join? w.1 ≠ some "challenge")
      (hvalue : t.toJson? room = some value) : AsksBack (Text.encode document) value

section AsksBack

variable {body : Bytes} {value : Json}

theorem Inbound.AsksBack.settled (h : AsksBack body value) (hvalue : Json.Exact value) :
    Json.Settled Json.maxNesting value := by
  cases h with
  | mk hread hobject hkey hafter ht =>
      rw [Json.read?, hread, Option.bind_some] at hobject
      exact Json.settled_of_toJson? hvalue (Json.get?_of_toJson? hobject hkey hafter ht).2

theorem Inbound.AsksBack.ofJsonBody (h : AsksBack body value) :
    (Payload.ofJsonBody body).1 = .challenge value := by
  cases h with
  | @mk document _ _ _ _ _ object _ hread hobject hkey hafter ht =>
      have hbody : Payload.bodyJson? (Text.encode document) = some object := by
        rw [Payload.bodyJson?, Text.decode?_encode, Option.bind_some, hobject]
      rw [Json.read?, hread, Option.bind_some] at hobject
      have hget : object.get? "challenge" = some value :=
        (Json.get?_of_toJson? hobject hkey hafter ht).1
      simp only [Payload.ofJsonBody, hbody, Payload.ofJson, hget]

/-- A body that is not announced as a form asks its challenge back. -/
theorem classify_of_asksBack {headers : Http.Headers} (h : AsksBack body value)
    (hform : ∀ type, Http.Shows headers "content-type" type →
      ¬ formType.toList <+: type.toList) : (classify headers body).1 = .challenge value := by
  have hjson : announcesForm headers = false := by
    refine Bool.eq_false_iff.mpr fun hannounced => ?_
    obtain ⟨type, htype, hprefix⟩ := announcesForm_iff.mp hannounced
    exact hform type htype hprefix
  rw [classify, hjson]
  exact h.ofJsonBody

end AsksBack

/-- A handshake that is admitted gets its challenge back: the response is a JSON document that means
the same value, if there is no double in it. -/
theorem challenge_comes_back {c : Connector} {mount : Http.Mount} {service : Outbound.Service} {before : Nat}
    {visits : List Visit} {e : Exchange} (he : e ∈ c.history mount service before visits)
    (hreach : Reaches mount e.visit.request) (hadmitted : e.visit.Admitted c)
    (hform : ∀ type, Http.Shows e.visit.request.headers "content-type" type →
      ¬ formType.toList <+: type.toList)
    {value : Json} (hask : AsksBack e.visit.request.body value) (hvalue : Json.Exact value) :
    ∃ r, e.outcome.response = some r ∧ r.status = 200 ∧
      (r.headers.filter fun h => h.1 == "content-type") = [("content-type", "application/json")] ∧
      Payload.bodyJson? (Text.encodeString r.body) = some value := by
  have hfate : e.visit.fate c = .challenged value := by
    rw [Visit.fate_of_admitted hadmitted, Visit.payload, classify_of_asksBack hask hform]
    rfl
  have hresponse := (meets_fate_of_mem he hreach).response
  rw [hfate] at hresponse
  refine ⟨echo value, hresponse, rfl, rfl, ?_⟩
  have hread : Json.read? value.print.toList = some value :=
    Json.read?_print (hask.settled hvalue) (Nat.le_refl _)
  rw [Payload.bodyJson?, Text.encodeString, Text.decode?_encode]
  exact hread

/-- A challenge with escapes, numbers at both ends of the 64 bits, and members. -/
def hardChallenge : Json :=
  .array [.text "\"é\\\n😀", .number (.whole 18446744073709551615),
    .number (.whole (-9223372036854775808)), .object [("a", .null), ("b", .array [])]]

theorem settled_hardChallenge (room : Nat) : Json.Settled (room + 3) hardChallenge := by
  have hobject : Json.Settled (room + 2) (.object [("a", .null), ("b", .array [])]) := by
    refine .object ?_ fun m hm => ?_
    · exact List.pairwise_pair.mpr (by decide)
    · simp only [List.mem_cons, List.not_mem_nil, or_false] at hm
      rcases hm with rfl | rfl
      · exact .null
      · exact .array fun v hv => absurd hv List.not_mem_nil
  refine .array fun v hv => ?_
  simp only [List.mem_cons, List.not_mem_nil, or_false] at hv
  rcases hv with rfl | rfl | rfl | rfl
  · exact .text _
  · exact .whole (by decide) (by decide)
  · exact .whole (by decide) (by decide)
  · exact hobject

/-- A handshake that asks twice. -/
def doubleHandshake : Json :=
  .object [("challenge", .bool false), ("challenge", hardChallenge), ("type", .text "handshake")]

theorem asksBack_doubleHandshake : AsksBack (Text.encode doubleHandshake.chars) hardChallenge := by
  have hmembers : ∀ m ∈ [("challenge", Json.bool false), ("challenge", hardChallenge),
      ("type", Json.text "handshake")], Json.Settled 126 m.2 := by
    intro m hm
    simp only [List.mem_cons, List.not_mem_nil, or_false] at hm
    rcases hm with rfl | rfl | rfl
    · exact .bool _
    · exact settled_hardChallenge 123
    · exact .text _
  have hdocument : Json.Term.read? doubleHandshake.chars = some doubleHandshake.term :=
    Json.read?_chars (.object fun m hm => (hmembers m hm).exact)
  have hread : Json.Term.read? doubleHandshake.chars
      = some (.object ([(Json.pieces "challenge", (Json.bool false).term)] ++
        (Json.pieces "challenge", hardChallenge.term) ::
          [(Json.pieces "type", (Json.text "handshake").term)])) := hdocument
  have hobject : ∃ object, Json.read? doubleHandshake.chars = some object := by
    rw [Json.read?, hdocument, Option.bind_some]
    exact ⟨_, Json.toJson?_object_term fun m hm => (hmembers m hm).toJson?_term⟩
  obtain ⟨object, hobject⟩ := hobject
  refine .mk hread hobject (Json.join?_pieces "challenge") (fun w hw => ?_)
    (settled_hardChallenge 123).toJson?_term
  rw [List.mem_singleton.mp hw, Json.join?_pieces]
  decide

/-- The handshake as a visit to a connector that asks for no signature. -/
def doubleAsking : Visit where
  now := 1000
  request := { method := "POST", target := "/webhook", body := Text.encode doubleHandshake.chars }
  engine := fun _ => .finish

/-- Of the two challenges the second comes back. -/
theorem hard_challenge_comes_back :
    ∃ c e r, Connector.ofCredentials (some { token := some "t" }) = .ok c ∧
      c.history .root .faultless 0 [doubleAsking] = [e] ∧ e.outcome.response = some r ∧
      r.status = 200 ∧ Payload.bodyJson? (Text.encodeString r.body) = some hardChallenge := by
  obtain ⟨c, hc⟩ : ∃ c, Connector.ofCredentials (some { token := some "t" }) = .ok c := ⟨_, rfl⟩
  have hsecret : c.secret = none := (ofCredentials_eq_ok hc).2.2
  obtain ⟨e, hhistory⟩ : ∃ e, c.history .root .faultless 0 [doubleAsking] = [e] := ⟨_, rfl⟩
  have hvisit : e.visit = doubleAsking := by
    have hvisits := history_visits c .root .faultless 0 [doubleAsking]
    rw [hhistory] at hvisits
    exact List.singleton_inj.mp hvisits
  have hadmitted : doubleAsking.Admitted c := by
    refine ⟨?_, ?_⟩
    · rintro ⟨count, -, hcount, -⟩
      cases hcount
    · rw [Accepts, verifyRequest, hsecret]
  have hreach : Reaches .root doubleAsking.request :=
    reaches_root_iff.mpr ⟨by decide, rfl, by decide +kernel⟩
  have hform : ∀ type, Http.Shows doubleAsking.request.headers "content-type" type →
      ¬ formType.toList <+: type.toList := by
    intro type htype
    cases Http.text?_eq_some_iff.mpr htype
  obtain ⟨r, hr, hstatus, -, hbody⟩ := challenge_comes_back (hhistory ▸ List.mem_singleton_self e)
    (hvisit ▸ hreach) (hvisit ▸ hadmitted) (hvisit ▸ hform) (hvisit ▸ asksBack_doubleHandshake)
    (settled_hardChallenge 0).exact
  exact ⟨c, e, r, hc, hhistory, hr, hstatus, hbody⟩

end Switchboard
