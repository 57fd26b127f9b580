/-
# Responses that are printed and read

A printed response says its fields in the slots that the reader looks into (`slots?_term_toJson`), and
each of the fields is read back on its own.  Only an attachment of null is lost, because it cannot be
told from none.  The main statement is `response_reads_back`.
-/
import Switchboard.Outbound.Channel
import Switchboard.Proofs.Json.Settled
import Switchboard.Proofs.Record.Grammar
import Switchboard.Proofs.Record.Printed

namespace Switchboard

open Record

theorem Button.ofSource?_term (b : Button) : ofSource? b.toJson.term = some b := by
  have hslots : slots? [["title"], ["payload"]] b.toJson.term
      = some [.given (Json.text b.title).term, .given (Json.text b.payload).term] := by
    rw [toJson, slots?_term]
    rfl
  have htext : ∀ s : String,
      (Slot.given (Json.text s).term).required Source.text? = some s := Json.join?_pieces
  rw [ofSource?, hslots]
  simp only [htext]
  rfl

namespace Response

/-- What becomes of a response that is printed and read. -/
def readBack (r : Response) : Response :=
  { r with attachment := r.attachment.filter fun v => !Source.isNull v }

/-- The value that stands for buttons, if there are any. -/
def buttonsJson? (bs : List Button) : Option Json :=
  if bs.isEmpty then none else some (.array (bs.map Button.toJson))

/-! ## What a printed response says -/

theorem slots?_term_toJson (r : Response) :
    slots? [["text"], ["image"], ["buttons"], ["attachment"]] r.toJson.term
      = some [.named (r.text.map fun s => (Json.text s).term),
          .named (r.image.map fun s => (Json.text s).term),
          .named ((buttonsJson? r.buttons).map Json.term),
          .named (r.attachment.map Json.term)] := by
  obtain ⟨text, image, buttons, attachment⟩ := r
  rw [toJson, slots?_term]
  cases text <;> cases image <;> cases buttons <;> cases attachment <;> rfl

theorem toJson_eq (r : Response) :
    r.toJson = .object (member "text" (r.text.map .text) ++ member "image" (r.image.map .text) ++
      member "buttons" (buttonsJson? r.buttons) ++ member "attachment" r.attachment) := by
  rw [toJson, buttonsJson?]
  split <;> rfl

/-- The value of a member that is left out where there is none. -/
theorem forall_mem_member {p : Json → Prop} {key : String} {o : Option Json} (h : ∀ v ∈ o, p v) :
    ∀ m ∈ member key o, p m.2 := by
  intro m hm
  cases o with
  | none => exact absurd hm List.not_mem_nil
  | some v =>
      rw [List.mem_singleton.mp hm]
      exact h v rfl

theorem forall_mem_text {p : Json → Prop} (h : ∀ s, p (.text s)) (o : Option String) :
    ∀ v ∈ o.map Json.text, p v := by
  intro v hv
  obtain ⟨s, -, rfl⟩ := Option.map_eq_some_iff.mp hv
  exact h s

theorem exact_buttonsJson? (bs : List Button) : ∀ v ∈ buttonsJson? bs, Json.Exact v := by
  intro v hv
  obtain ⟨-, hbuttons⟩ := Option.ite_none_left_eq_some.mp hv
  cases hbuttons
  refine .array fun w hw => ?_
  obtain ⟨b, -, rfl⟩ := List.mem_map.mp hw
  refine .object fun m hm => ?_
  simp only [List.mem_cons, List.not_mem_nil, or_false] at hm
  rcases hm with rfl | rfl <;> exact .text _

theorem exact_toJson {r : Response} (h : ∀ v ∈ r.attachment, Json.Exact v) :
    Json.Exact r.toJson := by
  rw [toJson_eq]
  refine .object fun m hm => ?_
  simp only [List.mem_append] at hm
  rcases hm with ((htext | himage) | hbuttons) | hattachment
  · exact forall_mem_member (forall_mem_text .text r.text) m htext
  · exact forall_mem_member (forall_mem_text .text r.image) m himage
  · exact forall_mem_member (exact_buttonsJson? r.buttons) m hbuttons
  · exact forall_mem_member h m hattachment

/-! ## The fields -/

theorem omissible_text (o : Option String) :
    (Slot.named (o.map fun s => (Json.text s).term)).omissible Source.text? = some o := by
  cases o with
  | none => rfl
  | some s =>
      show (Json.join? (Json.pieces s)).map some = _
      rw [Json.join?_pieces, Option.map_some]

theorem orDefault_buttons (bs : List Button) :
    (Slot.named ((buttonsJson? bs).map Json.term)).orDefault []
      (listOf? Button.ofSource?) = some bs := by
  cases bs with
  | nil => rfl
  | cons b rest =>
      show (Json.itemTerms ((b :: rest).map Button.toJson)).mapM Button.ofSource? = _
      rw [Json.itemTerms_eq, List.map_map, mapM_eq_some_iff fun _ _ => Iff.rfl,
        List.forall₂_map_left_iff]
      exact List.forall₂_same.mpr fun b _ => b.ofSource?_term

/-- Only null means null. -/
theorem isNull_of_toJson? {room : Nat} {t : Json.Term} {v : Json} (h : t.toJson? room = some v) :
    Source.isNull v = Source.isNull t := by
  rw [Json.toJson?_iff] at h
  cases h <;> rfl

theorem omissible_attachment {o : Option Json}
    (h : ∀ v ∈ o, Json.Settled attachmentNesting v) :
    (Slot.named (o.map Json.term)).omissible (Json.Term.toJson? attachmentNesting)
      = some (o.filter fun v => !Source.isNull v) := by
  cases o with
  | none => rfl
  | some v =>
      have hv : Json.Settled attachmentNesting v := h v rfl
      show Slot.nullable _ v.term = _
      rw [Slot.nullable, ← isNull_of_toJson? hv.toJson?_term, hv.toJson?_term]
      cases hnull : Source.isNull v <;> simp [Option.filter, hnull]

theorem ofTerm?_term {r : Response}
    (h : ∀ v ∈ r.attachment, Json.Settled attachmentNesting v) :
    ofTerm? r.toJson.term = some r.readBack := by
  rw [ofTerm?, slots?_term_toJson]
  simp only [omissible_text, orDefault_buttons, omissible_attachment h]
  rfl

/-! ## There and back -/

theorem read?_print {r : Response}
    (h : ∀ v ∈ r.attachment, Json.Settled attachmentNesting v) :
    read? r.toJson.print.toList = some r.readBack := by
  have hexact : Json.Exact r.toJson := exact_toJson fun v hv => (h v hv).exact
  rw [read?, Json.print, String.toList_ofList, Json.read?_chars hexact]
  exact ofTerm?_term h

/-- An attachment that is read is not null, and it is what some document means. -/
theorem attachment_of_read? {s : List Char} {r : Response} (h : read? s = some r) {v : Json}
    (hv : v ∈ r.attachment) :
    Source.isNull v = false ∧ ∃ t : Json.Term, t.toJson? attachmentNesting = some v := by
  obtain ⟨document, -, hread⟩ := Option.bind_eq_some_iff.mp h
  rw [ofTerm?] at hread
  split at hread
  · rename_i slot _
    simp only [Option.bind_eq_bind, Option.bind_eq_some_iff, Option.some.injEq] at hread
    obtain ⟨_, -, _, -, _, -, attachment, hslot, rfl⟩ := hread
    obtain rfl : attachment = some v := hv
    cases slot with
    | given t =>
        rw [Slot.omissible, Slot.nullable] at hslot
        split at hslot
        · cases hslot
        · rename_i hnull
          obtain ⟨w, hw, hwv⟩ := Option.map_eq_some_iff.mp hslot
          cases hwv
          exact ⟨(isNull_of_toJson? hw).trans (Bool.eq_false_iff.mpr hnull), t, hw⟩
    | _ => cases hslot
  · cases hread

theorem readBack_of_read? {s : List Char} {r : Response} (h : read? s = some r) :
    r.readBack = r := by
  obtain ⟨text, image, buttons, attachment⟩ := r
  cases attachment with
  | none => rfl
  | some v =>
      have hnull : Source.isNull v = false := (attachment_of_read? h rfl).1
      simp [readBack, hnull]

/-- A response is printed as a document that reads as the response; only an attachment of null comes
back as none.  So what is read of any document, printed and read again, is the same response, and it
makes the same posts. -/
theorem response_reads_back :
    (∀ r : Response, (∀ v ∈ r.attachment, Json.Settled attachmentNesting v) →
      read? r.toJson.print.toList = some r.readBack) ∧
    ∀ (s : List Char) (r : Response), read? s = some r → (∀ v ∈ r.attachment, Json.Exact v) →
      ∃ r', read? r.toJson.print.toList = some r' ∧ r' = r ∧
        ∀ {π : Type} (c : Outbound.Channel π) (recipient : String) (service : Outbound.Service)
          (o : Outbound.Outbox π),
          (c.respond recipient r').run service o = (c.respond recipient r).run service o := by
  refine ⟨fun r h => read?_print h, fun s r hr hexact => ⟨r, ?_, rfl, fun _ _ _ _ => rfl⟩⟩
  have hsettled : ∀ v ∈ r.attachment, Json.Settled attachmentNesting v := by
    intro v hv
    obtain ⟨-, t, ht⟩ := attachment_of_read? hr hv
    exact Json.settled_of_toJson? (hexact v hv) ht
  rw [read?_print hsettled, readBack_of_read? hr]

/-- A list of the fields, with null for two of them. -/
def listedFields : Json :=
  .array [.null, .text "http://x/a.png", .array [.array [.text "Ja", .text "/yes"]], .null]

theorem read?_listedFields :
    read? listedFields.print.toList = some ⟨none, some "http://x/a.png", [⟨"Ja", "/yes"⟩], none⟩ := by
  have hbutton : Json.Exact (.array [.text "Ja", .text "/yes"]) := by
    refine .array fun v hv => ?_
    simp only [List.mem_cons, List.not_mem_nil, or_false] at hv
    rcases hv with rfl | rfl <;> exact .text _
  have hexact : Json.Exact listedFields := by
    refine .array fun v hv => ?_
    simp only [List.mem_cons, List.not_mem_nil, or_false] at hv
    rcases hv with rfl | rfl | rfl | rfl
    · exact .null
    · exact .text _
    · exact .array fun b hb => List.mem_singleton.mp hb ▸ hbutton
    · exact .null
  rw [read?, Json.print, String.toList_ofList, Json.read?_chars hexact]
  rfl

/-- A list of the fields is read like an object that names them, and an attachment of null does not come
back. -/
theorem listed_response_reads_back :
    (∃ r, read? listedFields.print.toList = some r ∧ read? r.toJson.print.toList = some r) ∧
      read? (toJson ⟨some "hi", none, [], some .null⟩).print.toList
        = some ⟨some "hi", none, [], none⟩ := by
  refine ⟨⟨_, read?_listedFields, ?_⟩, ?_⟩
  · obtain ⟨r', hr', rfl, -⟩ :=
      response_reads_back.2 _ _ read?_listedFields fun v hv => absurd hv (Option.not_mem_none v)
    exact hr'
  · refine response_reads_back.1 ⟨some "hi", none, [], some .null⟩ fun v hv => ?_
    cases hv
    exact .null

end Response

end Switchboard
