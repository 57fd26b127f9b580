/-
# Runs

A reader takes the longest run of characters of one kind and goes on behind it.  `run_iff` says which
runs and rests these are: the run is of the kind, and the rest does not go on with it.
-/
import Mathlib.Data.List.TakeWhile

namespace Switchboard.Text

variable {α : Type} {p : α → Bool}

/-- Whether a text does not begin with something of a kind. -/
def Ends (p : α → Bool) (s : List α) : Prop := ∀ a ∈ s.head?, p a = false

theorem ends_nil : Ends p [] := fun _ h => nomatch h

theorem ends_cons {a : α} {s : List α} : Ends p (a :: s) ↔ p a = false :=
  ⟨fun h => h a rfl, fun h _ hb => Option.some.inj hb ▸ h⟩

theorem drop_length_takeWhile (s : List α) : s.drop (s.takeWhile p).length = s.dropWhile p := by
  induction s with
  | nil => rfl
  | cons a s ih =>
      cases h : p a with
      | false => simp [h]
      | true => simp [h, ih]

theorem ends_dropWhile (s : List α) : Ends p (s.dropWhile p) := by
  intro a ha
  have hnot := List.head?_dropWhile_not p s
  rw [Option.mem_def.mp ha] at hnot
  exact hnot

theorem takeWhile_append {run rest : List α} (hrun : ∀ a ∈ run, p a = true) (hrest : Ends p rest) :
    (run ++ rest).takeWhile p = run := by
  rw [List.takeWhile_append_of_pos hrun]
  cases rest with
  | nil => simp
  | cons a rest => simp [ends_cons.mp hrest]

theorem dropWhile_append {run rest : List α} (hrun : ∀ a ∈ run, p a = true) (hrest : Ends p rest) :
    (run ++ rest).dropWhile p = rest := by
  rw [← drop_length_takeWhile, takeWhile_append hrun hrest, List.drop_left]

/-- The longest run at the front of a text, and what stands behind it. -/
theorem run_iff {s run rest : List α} :
    (s.takeWhile p = run ∧ s.drop run.length = rest) ↔
      (∀ a ∈ run, p a = true) ∧ Ends p rest ∧ s = run ++ rest := by
  constructor
  · rintro ⟨rfl, rfl⟩
    rw [drop_length_takeWhile]
    exact ⟨fun _ h => List.mem_takeWhile_imp h, ends_dropWhile s,
      List.takeWhile_append_dropWhile.symm⟩
  · rintro ⟨hrun, hrest, rfl⟩
    exact ⟨takeWhile_append hrun hrest, List.drop_left⟩

/-- A text is put together from a run and a rest in one way. -/
theorem run_inj {run rest run' rest' : List α} (hrun : ∀ a ∈ run, p a = true) (hrest : Ends p rest)
    (hrun' : ∀ a ∈ run', p a = true) (hrest' : Ends p rest') (h : run ++ rest = run' ++ rest') :
    run = run' ∧ rest = rest' := by
  have hsame : run = run' :=
    (takeWhile_append hrun hrest).symm.trans (h ▸ takeWhile_append hrun' hrest')
  subst hsame
  exact ⟨rfl, List.append_cancel_left h⟩

end Switchboard.Text
