/-
# Rows that correspond

What is read of one row item by item is another row.  Both are parted at the same places
(`append_cons_left`), and each item has its counterpart.
-/
import Mathlib.Data.List.Forall2

namespace List.Forall₂

variable {α β : Type} {R : α → β → Prop} {as : List α} {bs : List β}

/-- A row that corresponds to one with an item in the middle has a counterpart in the middle. -/
theorem append_cons_left {before after : List α} {a : α}
    (h : List.Forall₂ R (before ++ a :: after) bs) :
    ∃ front b back, bs = front ++ b :: back ∧ List.Forall₂ R before front ∧ R a b ∧
      List.Forall₂ R after back := by
  induction before generalizing bs with
  | nil =>
      obtain ⟨b, back, hb, hback, rfl⟩ := List.forall₂_cons_left_iff.mp h
      exact ⟨[], b, back, rfl, .nil, hb, hback⟩
  | cons c before ih =>
      obtain ⟨d, rest, hd, hrest, rfl⟩ := List.forall₂_cons_left_iff.mp h
      obtain ⟨front, b, back, rfl, hfront, hb, hback⟩ := ih hrest
      exact ⟨d :: front, b, back, rfl, .cons hd hfront, hb, hback⟩

theorem append_cons_right {before after : List β} {b : β}
    (h : List.Forall₂ R as (before ++ b :: after)) :
    ∃ front a back, as = front ++ a :: back ∧ List.Forall₂ R front before ∧ R a b ∧
      List.Forall₂ R back after := by
  obtain ⟨front, a, back, hsplit, hfront, ha, hback⟩ :=
    append_cons_left (R := fun b a => R a b) (List.Forall₂.flip h)
  exact ⟨front, a, back, hsplit, List.Forall₂.flip hfront, ha, List.Forall₂.flip hback⟩

theorem exists_of_mem_left (h : List.Forall₂ R as bs) {a : α} (ha : a ∈ as) : ∃ b ∈ bs, R a b := by
  obtain ⟨before, after, rfl⟩ := List.append_of_mem ha
  obtain ⟨front, b, back, rfl, -, hb, -⟩ := append_cons_left h
  exact ⟨b, List.mem_append_right front List.mem_cons_self, hb⟩

theorem exists_of_mem_right (h : List.Forall₂ R as bs) {b : β} (hb : b ∈ bs) :
    ∃ a ∈ as, R a b := by
  have hflip : List.Forall₂ (fun b a => R a b) bs as := List.Forall₂.flip h
  exact exists_of_mem_left hflip hb

/-- A row whose items all have counterparts has one. -/
theorem exists_of_forall (h : ∀ a ∈ as, ∃ b, R a b) : ∃ bs, List.Forall₂ R as bs := by
  induction as with
  | nil => exact ⟨[], .nil⟩
  | cons a as ih =>
      obtain ⟨b, hb⟩ := h a List.mem_cons_self
      obtain ⟨bs, hbs⟩ := ih fun c hc => h c (List.mem_cons_of_mem a hc)
      exact ⟨b :: bs, .cons hb hbs⟩

end List.Forall₂
