/-
# Recipients

Where posts are sent.  `Plan.Every` says of a plan that all it may post has a property, whichever of
its posts fail.  The law of the Slack channel is `obeys_slackChannel`: its posts go to the
configured channel, or else to the recipient of the operation.
-/
import Switchboard.Outbound.Slack
import Switchboard.Proofs.Outbound.Law

namespace Switchboard.Outbound

variable {π α : Type}

/-! ## Everything that a plan may post -/

namespace Plan

/-- Whether everything that a plan may post has a property, however its posts fare. -/
def Every (P : π → Prop) : Plan π → Prop
  | done => True
  | stop _ => True
  | note _ next => next.Every P
  | post item next => P item ∧ ∀ failure, (next failure).Every P

variable {P : π → Prop}

theorem every_single {item : π} (h : P item) : (single item).Every P :=
  ⟨h, fun failure => by cases failure <;> trivial⟩

theorem Every.andThen {p q : Plan π} (hp : p.Every P) (hq : q.Every P) : (p >> q).Every P := by
  induction p with
  | done => exact hq
  | stop _ => trivial
  | note _ next ih => exact ih hp
  | post item next ih => exact ⟨hp.1, fun failure => ih failure (hp.2 failure)⟩

theorem every_forEach {f : α → Plan π} (hf : ∀ a, (f a).Every P) :
    ∀ as : List α, (forEach f as).Every P
  | [] => trivial
  | a :: rest => (hf a).andThen (every_forEach hf rest)

end Plan

/-! ## The Slack channel -/

/-- A post that is made as the bot itself, and to a channel. -/
structure SlackPost.Addressed (channel : String) (p : SlackPost) : Prop where
  as_user : p.toJson.get? "as_user" = some (.bool true)
  channel : p.toJson.get? "channel" = some (.text channel)

theorem SlackPost.addressed_iff {channel : String} {p : SlackPost} :
    p.Addressed channel ↔ p.channel = channel := by
  have hchannel : p.toJson.get? "channel" = some (.text p.channel) := rfl
  constructor
  · intro h
    exact Json.text.inj (Option.some.inj (hchannel.symm.trans h.channel))
  · rintro rfl
    exact ⟨rfl, hchannel⟩

theorem every_slackText (channel message : String) :
    (slackText channel message).Every (SlackPost.Addressed channel) := by
  refine Plan.every_forEach (fun paragraph => Plan.every_single ?_) _
  exact SlackPost.addressed_iff.mpr rfl

/-- Posts to Slack go to the configured channel, or else to the recipient. -/
theorem obeys_slackChannel (override : Option String) :
    (slackChannel override).Obeys fun recipient plan =>
      plan.Every (SlackPost.Addressed (override.getD recipient)) where
  done _ := trivial
  andThen := Plan.Every.andThen
  text _ _ := every_slackText _ _
  image _ _ _ := Plan.every_single (SlackPost.addressed_iff.mpr rfl)
  attachment _ _ _ := Plan.every_single (SlackPost.addressed_iff.mpr rfl)
  buttons recipient message bs := by
    show Plan.Every _ (if _ then _ else _)
    split
    · exact every_slackText _ _
    · exact Plan.every_single (SlackPost.addressed_iff.mpr rfl)

end Switchboard.Outbound
