/-
# Replies on Slack

What a response becomes on Slack: its text, in one post together with the buttons or in one post for
each of its paragraphs, then its image, then its attachment (`reply_goes_out_in_order`).  Buttons are
shown only where there are at most five of them; otherwise they are left out.  So a response that
consists of more buttons than that and of no text leaves nothing to post, and the reply is done all
the same (`buttons_alone_vanish`).  Of all responses that have something to show, no others vanish
(`reply_vanishes_iff`).
-/
import Mathlib.Data.List.Forall2
import Switchboard.Proofs.Outbound.Halting
import Switchboard.Proofs.Outbound.Paragraph
import Switchboard.Proofs.Outbound.Sequence

namespace Switchboard.Outbound

/-! ## Posts -/

/-- The post of a paragraph, which has nothing besides its text. -/
def paragraphPost (channel : String) (p : List Char) : SlackPost :=
  { channel, text := some (String.ofList p) }

/-- The post of an image, which has no text of its own. -/
def imagePost (channel url : String) : SlackPost where
  channel
  attachments := some (.array [.object [("image_url", .text url), ("text", .text "")]])

/-- The post of an attachment, which goes out as it is under an empty text. -/
def attachmentPost (channel : String) (value : Json) : SlackPost :=
  { channel, text := some "", attachments := some value }

/-- The post of a text with one attachment under it. -/
def cardPost (channel message : String) (card : Json) : SlackPost :=
  { channel, text := some message, attachments := some (.array [card]) }

/-- An action that stands for a button: it shows the title, and a click brings the payload back. -/
structure StandsFor (b : Button) (a : Json) : Prop where
  kind : a.get? "type" = some (.text "button")
  label : a.get? "text" = some (.text b.title)
  name : a.get? "name" = some (.text b.payload)
  value : a.get? "value" = some (.text b.payload)

/-- An attachment that shows buttons under a text, in their order. -/
structure Shows (message : String) (bs : List Button) (card : Json) : Prop where
  fallback : card.get? "fallback" = some (.text message)
  tag : card.get? "callback_id" = some (.text (callbackId message bs))
  actions : ∃ as, card.get? "actions" = some (.array as) ∧ List.Forall₂ StandsFor bs as

/-- How the text of a response and its buttons go out.  One to five buttons are shown under the whole
text.  Where there are none, or too many, the text goes out alone, in paragraphs. -/
inductive Worded (channel message : String) (bs : List Button) : List SlackPost → Prop where
  | shown (any : 1 ≤ bs.length) (few : bs.length ≤ 5) {card : Json} (h : Shows message bs card) :
      Worded channel message bs [cardPost channel message card]
  | plain (h : bs.length = 0 ∨ 5 < bs.length) {ps : List (List Char)}
      (hps : Parted message.toList ps) : Worded channel message bs (ps.map (paragraphPost channel))

/-! ## The plan of a response -/

theorem standsFor_action (b : Button) : StandsFor b (action b) := ⟨rfl, rfl, rfl, rfl⟩

theorem shows_buttonAttachment (message : String) (bs : List Button) :
    Shows message bs (buttonAttachment message bs) := by
  refine ⟨rfl, rfl, actions bs, rfl, ?_⟩
  show List.Forall₂ StandsFor bs (bs.map action)
  rw [List.forall₂_map_right_iff]
  exact List.forall₂_same.mpr fun b _ => standsFor_action b

theorem items_slackText (channel message : String) :
    (slackText channel message).items
      = (pieces message.toList).map (paragraphPost channel) := by
  rw [slackText, Plan.items_forEach_single, paragraphs_eq, List.map_map]
  rfl

/-- A text that goes out alone goes out in its paragraphs. -/
theorem worded_slackText {bs : List Button} (h : bs.length = 0 ∨ 5 < bs.length)
    (channel message : String) :
    Worded channel message bs (slackText channel message).items := by
  rw [items_slackText]
  exact .plain h (parted_pieces _)

section Response

variable (override : Option String) (recipient : String) (r : Response)

theorem worded_buttons {bs : List Button} (hany : bs ≠ []) (message : String) :
    Worded (override.getD recipient) message bs
      ((slackChannel override).buttons recipient message bs).items := by
  show Worded _ _ _ (Plan.items (if maxButtons < bs.length then _ else _))
  split
  · next hmany =>
      exact worded_slackText (.inr hmany) _ message
  · next hfew =>
      exact .shown (List.length_pos_iff.mpr hany) (Nat.le_of_not_lt hfew)
        (shows_buttonAttachment message bs)

theorem worded_planText :
    Worded (override.getD recipient) (r.text.getD "") r.buttons
      ((slackChannel override).planText recipient r).items := by
  by_cases hany : r.buttons = []
  · have hnone : r.buttons.length = 0 := List.length_eq_zero_iff.mpr hany
    rw [Channel.planText_of_eq_nil _ _ hany]
    cases r.text with
    | none =>
        have hnothing : Parted "".toList [] := parted_pieces []
        exact .plain (.inl hnone) hnothing
    | some s =>
        rw [Option.toList_some, Plan.forEach_singleton]
        exact worded_slackText (.inl hnone) _ s
  · rw [Channel.planText_of_ne_nil _ _ hany]
    exact worded_buttons override recipient hany _

theorem items_planImage :
    ((slackChannel override).planImage recipient r).items
      = (r.image.map (imagePost (override.getD recipient))).toList := by
  rw [Channel.planImage_eq, Option.toList_map]
  exact Plan.items_forEach_single (imagePost (override.getD recipient)) r.image.toList

theorem items_planAttachment :
    ((slackChannel override).planAttachment recipient r).items
      = (r.attachment.map (attachmentPost (override.getD recipient))).toList := by
  rw [Channel.planAttachment_eq, Option.toList_map]
  exact Plan.items_forEach_single (attachmentPost (override.getD recipient)) r.attachment.toList

theorem items_respond_slack :
    ∃ worded, Worded (override.getD recipient) (r.text.getD "") r.buttons worded ∧
      ((slackChannel override).respond recipient r).items
        = worded ++ (r.image.map (imagePost (override.getD recipient))).toList ++
          (r.attachment.map (attachmentPost (override.getD recipient))).toList := by
  refine ⟨_, worded_planText override recipient r, ?_⟩
  rw [(halting_slackChannel override).items_respond, items_planImage, items_planAttachment]

end Response

/-! ## What is posted -/

/-- Where no post fails, a response on Slack is done, and its posts are those of its text and its
buttons, then the post of its image, then the post of its attachment, all to one channel. -/
theorem reply_goes_out_in_order (override : Option String) (before : Nat) (recipient : String)
    (r : Response) :
    let channel := override.getD recipient
    let use := (slackChannel override).perform .faultless before (.respond recipient r)
    use.failure = none ∧
    ∃ worded, Worded channel (r.text.getD "") r.buttons worded ∧
      use.posted = worded ++ (r.image.map (imagePost channel)).toList ++
        (r.attachment.map (attachmentPost channel)).toList := by
  intro channel use
  have hdone : use.failure = none :=
    (halting_slackChannel override).failure_of_faultless before _
  obtain ⟨worded, hworded, hitems⟩ := items_respond_slack override recipient r
  have hposted : use.posted = ((slackChannel override).respond recipient r).items :=
    (halting_slackChannel override).posted_eq_items hdone
  exact ⟨hdone, worded, hworded, hposted.trans hitems⟩

/-! ## What does not show -/

/-- The text and the buttons of a response lead to no post if the buttons do not go out and the text
is made of blank lines. -/
theorem Worded.eq_nil_iff {channel message : String} {bs : List Button} {posts : List SlackPost}
    (h : Worded channel message bs posts) :
    posts = [] ↔ (bs.length = 0 ∨ 5 < bs.length) ∧ ∃ n, message.toList = blankLines n := by
  cases h with
  | shown any few hshows =>
      constructor
      · intro hnil
        exact absurd hnil (List.cons_ne_nil _ _)
      · rintro ⟨hout, -⟩
        omega
  | plain hout hps =>
      rw [List.map_eq_nil_iff, hps.eq_nil_iff]
      exact ⟨fun hblank => ⟨hout, hblank⟩, And.right⟩

/-- More buttons than are shown, and nothing else that could go out. -/
structure Overfull (r : Response) : Prop where
  buttons : 5 < r.buttons.length
  image : r.image = none
  attachment : r.attachment = none
  text : ∃ n, (r.text.getD "").toList = blankLines n

theorem items_respond_slack_eq_nil_iff (override : Option String) (recipient : String)
    (r : Response) :
    ((slackChannel override).respond recipient r).items = [] ↔
      ((r.buttons.length = 0 ∨ 5 < r.buttons.length) ∧
        ∃ n, (r.text.getD "").toList = blankLines n) ∧ r.image = none ∧ r.attachment = none := by
  obtain ⟨worded, hworded, hitems⟩ := items_respond_slack override recipient r
  rw [hitems, List.append_eq_nil_iff, List.append_eq_nil_iff, hworded.eq_nil_iff,
    Option.toList_eq_nil_iff, Option.toList_eq_nil_iff, Option.map_eq_none_iff,
    Option.map_eq_none_iff, and_assoc (b := r.image = none)]

/-- A response that has something to show, and has gone out on Slack without a failure, has left no
post just if all it has are more buttons than are shown and perhaps blank lines. -/
theorem reply_vanishes_iff {service : Service} {override : Option String} {before : Nat}
    {recipient : String} {r : Response}
    (hdone : ((slackChannel override).perform service before (.respond recipient r)).failure
      = none)
    (hcarries : r.buttons ≠ [] ∨ r.image ≠ none ∨ r.attachment ≠ none ∨
      ∃ c ∈ (r.text.getD "").toList, c ≠ '\n') :
    ((slackChannel override).perform service before (.respond recipient r)).posted = [] ↔
      Overfull r := by
  have hposted : ((slackChannel override).perform service before (.respond recipient r)).posted
      = ((slackChannel override).respond recipient r).items :=
    (halting_slackChannel override).posted_eq_items hdone
  rw [hposted, items_respond_slack_eq_nil_iff]
  constructor
  · rintro ⟨⟨hout, n, htext⟩, himage, hattachment⟩
    have hmany : 5 < r.buttons.length := by
      rcases hcarries with hany | h | h | ⟨c, hc, hne⟩
      · exact hout.resolve_left fun hnone => hany (List.eq_nil_of_length_eq_zero hnone)
      · exact absurd himage h
      · exact absurd hattachment h
      · rw [htext] at hc
        exact absurd (List.eq_of_mem_replicate hc) hne
    exact ⟨hmany, himage, hattachment, n, htext⟩
  · intro h
    exact ⟨⟨.inr h.buttons, h.text⟩, h.image, h.attachment⟩

/-- The third line end is a paragraph, and it is posted although the buttons are left out and an earlier
post has been refused. -/
theorem odd_line_end_shows :
    let service : Service := fun n => if n = 1 then some (.slack "channel_not_found") else none
    let r : Response :=
      { text := some "\n\n\n", buttons := List.replicate 6 ⟨"More", "/more"⟩ }
    let use := (slackChannel (some "C1")).perform service 1 (.respond "u1" r)
    use.failure = none ∧ use.posted ≠ [] := by
  intro service r use
  have hdone : use.failure = none := rfl
  have hcarries : r.buttons ≠ [] := List.cons_ne_nil _ _
  refine ⟨hdone, fun hnone => ?_⟩
  obtain ⟨n, hblank⟩ := ((reply_vanishes_iff hdone (.inl hcarries)).mp hnone).text
  have hlength : "\n\n\n".toList.length = 2 * n :=
    (congrArg List.length hblank).trans List.length_replicate
  have hthree : "\n\n\n".toList.length = 3 := rfl
  omega

/-- Six buttons without a text are done without a post. -/
theorem buttons_alone_vanish :
    let r : Response := { buttons := List.replicate 6 ⟨"More", "/more"⟩ }
    let use := (slackChannel none).perform .faultless 0 (.respond "u1" r)
    r.buttons ≠ [] ∧ use.failure = none ∧ use.posted = [] :=
  ⟨List.cons_ne_nil _ _, rfl, rfl⟩

end Switchboard.Outbound
