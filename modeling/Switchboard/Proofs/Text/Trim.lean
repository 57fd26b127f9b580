/-
# Trimming

`trims_iff` says what trimming leaves: the text without blanks in front of it and behind it, and
itself with none at its ends.  What stands between is untouched.
-/
import Switchboard.Text.Blank
import Switchboard.Proofs.Text.Run

namespace Switchboard.Text

/-- The characters of a text that are not blank. -/
def solid (s : List Char) : List Char := s.filter fun c => !isBlank c

theorem solid_append (s t : List Char) : solid (s ++ t) = solid s ++ solid t :=
  List.filter_append s t

theorem solid_cons (c : Char) (s : List Char) : solid (c :: s) = solid [c] ++ solid s :=
  solid_append [c] s

theorem solid_of_blank {s : List Char} (h : ∀ c ∈ s, isBlank c = true) : solid s = [] :=
  List.filter_eq_nil_iff.mpr fun c hc => by simp [h c hc]

/-- A text and what is left of it without the blanks at both ends. -/
def Trims (s t : List Char) : Prop :=
  ∃ front back, s = front ++ t ++ back ∧ (∀ c ∈ front, isBlank c = true) ∧
    (∀ c ∈ back, isBlank c = true) ∧ Ends isBlank t ∧ Ends isBlank t.reverse

theorem Trims.isInfix {s t : List Char} (h : Trims s t) : t <:+: s := by
  obtain ⟨front, back, rfl, -⟩ := h
  exact List.infix_append front t back

theorem Trims.solid_eq {s t : List Char} (h : Trims s t) : solid t = solid s := by
  obtain ⟨front, back, rfl, hfront, hback, -⟩ := h
  simp [solid_append, solid_of_blank hfront, solid_of_blank hback]

theorem Trims.self {s t : List Char} (h : Trims s t) : Trims t t := by
  obtain ⟨_, _, _, _, _, hbegin, hend⟩ := h
  exact ⟨[], [], by simp, by simp, by simp, hbegin, hend⟩

theorem trim_of_trims {s t : List Char} (h : Trims s t) : trim s = t := by
  obtain ⟨front, back, rfl, hfront, hback, hbegin, hend⟩ := h
  cases t with
  | nil =>
      have hall : ∀ c ∈ front ++ back, isBlank c = true := fun c hc =>
        (List.mem_append.mp hc).elim (hfront c) (hback c)
      have hleft : trimLeft (front ++ back) = [] := List.dropWhile_eq_nil_iff.mpr hall
      rw [List.append_nil, trim, hleft]
      rfl
  | cons a t =>
      have hleft : trimLeft (front ++ a :: t ++ back) = a :: t ++ back := by
        rw [List.append_assoc]
        exact dropWhile_append hfront (ends_cons.mpr (ends_cons.mp hbegin))
      have hright : ((a :: t ++ back).reverse).dropWhile isBlank = (a :: t).reverse := by
        rw [List.reverse_append]
        exact dropWhile_append (fun c hc => hback c (List.mem_reverse.mp hc)) hend
      rw [trim, hleft, trimRight, hright, List.reverse_reverse]

theorem trims_trim (s : List Char) : Trims s (trim s) := by
  have hleft : s = s.takeWhile isBlank ++ trimLeft s := List.takeWhile_append_dropWhile.symm
  have hright : trimLeft s = trim s ++ ((trimLeft s).reverse.takeWhile isBlank).reverse := by
    rw [trim, trimRight, ← List.reverse_append, List.takeWhile_append_dropWhile,
      List.reverse_reverse]
  refine ⟨s.takeWhile isBlank, ((trimLeft s).reverse.takeWhile isBlank).reverse, ?_,
    fun c hc => List.mem_takeWhile_imp hc,
    fun c hc => List.mem_takeWhile_imp (List.mem_reverse.mp hc), ?_, ?_⟩
  · rw [List.append_assoc, ← hright]
    exact hleft
  · -- the trimmed text begins as what the trimming on the left leaves
    intro c hc
    have hfirst : c ∈ (trimLeft s).head? := by
      rw [hright, List.head?_append, Option.mem_def.mp hc]
      rfl
    exact ends_dropWhile s c hfirst
  · rw [trim, trimRight, List.reverse_reverse]
    exact ends_dropWhile _

theorem trims_iff {s t : List Char} : Trims s t ↔ trim s = t :=
  ⟨trim_of_trims, fun h => h ▸ trims_trim s⟩

end Switchboard.Text
