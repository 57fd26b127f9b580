/-
# Plans in sequence

A plan that does nothing may be left out of a sequence, and it does not matter how a sequence is put
together.  So the steps for several lists of things are the steps for one list (`Plan.forEach_append`).
The parts of a response are such steps, none or one for each of the things that it may have.
-/
import Switchboard.Outbound.Channel

namespace Switchboard.Outbound

variable {π α β : Type}

namespace Plan

theorem andThen_done (p : Plan π) : (p >> done) = p := by
  induction p with
  | done => rfl
  | stop _ => rfl
  | note event next ih => exact congrArg (note event) ih
  | post item next ih => exact congrArg (post item) (funext ih)

theorem andThen_assoc (p q r : Plan π) : ((p >> q) >> r) = (p >> q >> r) := by
  induction p with
  | done => rfl
  | stop _ => rfl
  | note event next ih => exact congrArg (note event) ih
  | post item next ih => exact congrArg (post item) (funext ih)

theorem forEach_singleton (f : α → Plan π) (a : α) : forEach f [a] = f a :=
  andThen_done (f a)

theorem forEach_append (f : α → Plan π) (as bs : List α) :
    forEach f (as ++ bs) = (forEach f as >> forEach f bs) := by
  induction as with
  | nil => rfl
  | cons a as ih =>
      rw [List.cons_append, forEach, ih, forEach, andThen_assoc]

theorem forEach_map (f : β → Plan π) (g : α → β) (as : List α) :
    forEach f (as.map g) = forEach (fun a => f (g a)) as := by
  induction as with
  | nil => rfl
  | cons a as ih => rw [List.map_cons, forEach, ih, forEach]

end Plan

/-! ## The parts of a response -/

namespace Channel

variable (c : Channel π) (recipient : String) {r : Response}

/-- Without buttons a text goes out as a text, if there is one. -/
theorem planText_of_eq_nil (h : r.buttons = []) :
    c.planText recipient r = .forEach (c.text recipient) r.text.toList := by
  rw [planText, h]
  cases r.text with
  | none => rfl
  | some s => exact (Plan.forEach_singleton (c.text recipient) s).symm

/-- With buttons there is always a text to go out, if only an empty one. -/
theorem planText_of_ne_nil (h : r.buttons ≠ []) :
    c.planText recipient r = c.buttons recipient (r.text.getD "") r.buttons := by
  rw [planText]
  cases hbuttons : r.buttons with
  | nil => exact absurd hbuttons h
  | cons b bs => cases r.text <;> rfl

variable (r)

theorem planImage_eq :
    c.planImage recipient r
      = .forEach (fun url => c.image recipient url "") r.image.toList := by
  unfold planImage
  cases r.image with
  | none => rfl
  | some url => exact (Plan.forEach_singleton (c.image recipient · "") url).symm

theorem planAttachment_eq :
    c.planAttachment recipient r
      = .forEach (fun value => c.attachment recipient value "") r.attachment.toList := by
  unfold planAttachment
  cases r.attachment with
  | none => rfl
  | some value => exact (Plan.forEach_singleton (c.attachment recipient · "") value).symm

end Channel

end Switchboard.Outbound
