/-
# Replies in texts

What a response becomes on a channel that can only send texts: its text, a numbered line for each
button, however many there are, then a text for its image and one for its attachment.  The channel
sends these texts one after another and does nothing else, whatever its way of sending a text
(`respond_ofText`); where no text fails they all go out (`reply_is_told_in_texts`).
-/
import Switchboard.Proofs.Outbound.Halting
import Switchboard.Proofs.Outbound.Sequence

namespace Switchboard.Outbound

variable {π : Type}

/-! ## Texts -/

/-- The lines that stand for buttons: as many as there are buttons, the first of them numbered 1. -/
structure Numbered (bs : List Button) (lines : List String) : Prop where
  length : lines.length = bs.length
  line : ∀ (k : Nat) (b : Button), bs[k]? = some b →
    lines[k]? = some (toString (k + 1) ++ ": " ++ b.title ++ " (" ++ b.payload ++ ")")

/-- The texts that stand for the text of a response and its buttons.  Where there are buttons a text
goes before their lines, if only an empty one. -/
inductive Told (message : Option String) : List Button → List String → Prop where
  | alone : Told message [] message.toList
  | listed {bs : List Button} (any : bs ≠ []) {lines : List String} (h : Numbered bs lines) :
      Told message bs (message.getD "" :: lines)

/-- The text of an image. -/
def imageLine (url : String) : String := "Image: " ++ url

/-- The text of an attachment. -/
def attachmentLine (value : Json) : String := "Attachment: " ++ value.print

theorem numbered_buttonLine (bs : List Button) :
    Numbered bs (bs.zipIdx.map fun (b, i) => buttonLine b i) := by
  refine ⟨by simp, fun k b hb => ?_⟩
  rw [List.getElem?_map, List.getElem?_zipIdx, hb, Nat.zero_add]
  rfl

/-- Buttons have their lines in one way. -/
theorem Numbered.eq {bs : List Button} {lines lines' : List String} (h : Numbered bs lines)
    (h' : Numbered bs lines') : lines = lines' := by
  apply List.ext_getElem?
  intro k
  cases hb : bs[k]? with
  | none =>
      have hout : bs.length ≤ k := List.getElem?_eq_none_iff.mp hb
      rw [List.getElem?_eq_none (h.length ▸ hout),
        List.getElem?_eq_none (h'.length ▸ hout)]
  | some b => rw [h.line k b hb, h'.line k b hb]

/-! ## The plan of a response -/

section Response

variable (name : String) (text : String → String → Plan π) (recipient : String) (r : Response)

theorem exists_told : ∃ words, Told r.text r.buttons words := by
  cases r.buttons with
  | nil => exact ⟨_, .alone⟩
  | cons b bs => exact ⟨_, .listed (List.cons_ne_nil b bs) (numbered_buttonLine _)⟩

theorem planText_ofText {words : List String} (h : Told r.text r.buttons words) :
    (Channel.ofText name text).planText recipient r = .forEach (text recipient) words := by
  cases hbuttons : r.buttons with
  | nil =>
      rw [hbuttons] at h
      cases h with
      | alone => exact Channel.planText_of_eq_nil _ recipient hbuttons
      | listed any _ => exact absurd rfl any
  | cons b bs =>
      have hany : r.buttons ≠ [] := hbuttons ▸ List.cons_ne_nil b bs
      rw [hbuttons] at h
      cases h with
      | listed _ hlines =>
          rw [Channel.planText_of_ne_nil _ recipient hany, hbuttons, Plan.forEach,
            hlines.eq (numbered_buttonLine (b :: bs)), Plan.forEach_map]
          rfl

theorem planImage_ofText :
    (Channel.ofText name text).planImage recipient r
      = .forEach (text recipient) (r.image.map imageLine).toList := by
  rw [Channel.planImage_eq, Option.toList_map, Plan.forEach_map]
  rfl

theorem planAttachment_ofText :
    (Channel.ofText name text).planAttachment recipient r
      = .forEach (text recipient) (r.attachment.map attachmentLine).toList := by
  rw [Channel.planAttachment_eq, Option.toList_map, Plan.forEach_map]
  rfl

/-- A response is the texts that stand for it, sent one after another. -/
theorem respond_ofText {words : List String} (h : Told r.text r.buttons words) :
    (Channel.ofText name text).respond recipient r
      = .forEach (text recipient)
          (words ++ (r.image.map imageLine).toList ++ (r.attachment.map attachmentLine).toList) := by
  rw [Channel.respond, planText_ofText name text recipient r h, planImage_ofText,
    planAttachment_ofText, List.append_assoc, Plan.forEach_append, Plan.forEach_append]

end Response

/-! ## What is sent -/

/-- A response on a channel that can only send texts is its text and the numbered lines of its buttons,
then the text of its image, then the text of its attachment.  Whatever the channel does to send a text,
it does so with each of these in turn and does nothing else.  If it makes one post of a text, and no
post fails, the response is done and these are the posts. -/
theorem reply_is_told_in_texts (r : Response) :
    ∃ words, Told r.text r.buttons words ∧
      let texts := words ++ (r.image.map imageLine).toList ++
        (r.attachment.map attachmentLine).toList
      (∀ (π : Type) (name : String) (text : String → String → Plan π) (recipient : String),
        (Channel.ofText name text).respond recipient r = .forEach (text recipient) texts) ∧
      ∀ (π : Type) (name : String) (item : String → String → π) (before : Nat)
        (recipient : String),
        let channel := Channel.ofText name fun recipient message =>
          .single (item recipient message)
        let use := channel.perform .faultless before (.respond recipient r)
        use.failure = none ∧ use.posted = texts.map (item recipient) := by
  obtain ⟨words, hwords⟩ := exists_told r
  refine ⟨words, hwords, fun π name text recipient => respond_ofText name text recipient r hwords,
    ?_⟩
  intro π name item before recipient channel use
  have hchannel : channel.Halting := Channel.halting_ofText name fun _ _ => Plan.halts_single _
  have hdone : use.failure = none := hchannel.failure_of_faultless before _
  have hposted : use.posted = (channel.respond recipient r).items := hchannel.posted_eq_items hdone
  refine ⟨hdone, ?_⟩
  rw [hposted, respond_ofText name _ recipient r hwords, Plan.items_forEach_single]

end Switchboard.Outbound
