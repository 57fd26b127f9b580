/-
# Laws of a channel

A law relates the recipient of an operation to the plan of the operation.  If the four operations
that a channel brings along obey a law, and plans that obey it may follow one another, then every use
of the channel obeys it (`Channel.Obeys.plan`), because a response is put together from the four.
-/
import Switchboard.Outbound.Channel

namespace Switchboard.Outbound

variable {π : Type}

/-- Whom an operation is for. -/
def Operation.recipient : Operation → String
  | text recipient _ => recipient
  | image recipient _ _ => recipient
  | attachment recipient _ _ => recipient
  | buttons recipient _ _ => recipient
  | respond recipient _ => recipient
  | reply m _ => m.sender

namespace Channel

/-- A channel whose own operations obey a law that relates the recipient to the plan, where plans
that obey it may follow one another. -/
structure Obeys (c : Channel π) (Law : String → Plan π → Prop) : Prop where
  done : ∀ recipient, Law recipient .done
  andThen : ∀ {recipient} {p q : Plan π}, Law recipient p → Law recipient q →
    Law recipient (p >> q)
  text : ∀ recipient message, Law recipient (c.text recipient message)
  image : ∀ recipient url caption, Law recipient (c.image recipient url caption)
  attachment : ∀ recipient value message, Law recipient (c.attachment recipient value message)
  buttons : ∀ recipient message bs, Law recipient (c.buttons recipient message bs)

namespace Obeys

variable {c : Channel π} {Law : String → Plan π → Prop} (h : c.Obeys Law)
include h

theorem planText (recipient : String) (r : Response) : Law recipient (c.planText recipient r) := by
  unfold Channel.planText
  split
  · exact h.text _ _
  · exact h.done _
  · exact h.buttons _ _ _

theorem planImage (recipient : String) (r : Response) :
    Law recipient (c.planImage recipient r) := by
  unfold Channel.planImage
  split
  · exact h.image _ _ _
  · exact h.done _

theorem planAttachment (recipient : String) (r : Response) :
    Law recipient (c.planAttachment recipient r) := by
  unfold Channel.planAttachment
  split
  · exact h.attachment _ _ _
  · exact h.done _

/-- The three parts of a response obey the law one after another. -/
theorem respond (recipient : String) (r : Response) : Law recipient (c.respond recipient r) :=
  h.andThen (h.planText recipient r)
    (h.andThen (h.planImage recipient r) (h.planAttachment recipient r))

/-- Every use of the channel obeys the law. -/
theorem plan : ∀ operation : Operation, Law operation.recipient (operation.plan c)
  | .text recipient message => h.text recipient message
  | .image recipient url caption => h.image recipient url caption
  | .attachment recipient value message => h.attachment recipient value message
  | .buttons recipient message bs => h.buttons recipient message bs
  | .respond recipient r => h.respond recipient r
  | .reply m r => h.respond m.sender r

end Obeys
end Channel

end Switchboard.Outbound
