/-
# Lower-casing, character by character

What stands around a character matters to its lower-case form only in that `Σ` has two of them.  So the
lower-case form of a text is put together from those of its characters, up to the form of the small
sigma (`map_oneSigma_lower`); and whether a word without a sigma occurs in it is a matter of these
alone (`isInfix_lower_iff`).
-/
import Switchboard.Text.Casing

namespace Switchboard.Text

theorem lowerFrom_eq (before out s : List Char) :
    lowerFrom before out s = out.reverse ++ lowerFrom before [] s := by
  induction s generalizing before out with
  | nil => simp [lowerFrom]
  | cons c rest ih =>
      rw [lowerFrom, ih, lowerFrom, ih (c :: before) (_ ++ [])]
      simp

/-- A first character that is its own lower-case form stays in front. -/
theorem head?_lower {c : Char} (hsigma : c ≠ 'Σ') (hc : lowerChar c = [c]) (rest : List Char) :
    (lower (c :: rest)).head? = some c := by
  rw [lower, lowerFrom, lowerFrom_eq, lowerAt, if_neg hsigma, hc]
  rfl

/-! ## One small sigma -/

/-- A character, with one form for both small sigmas. -/
def oneSigma (c : Char) : Char := if c = 'ς' then 'σ' else c

/-- The lower-case form of a text without a look at what stands around a character. -/
def plainLower (s : List Char) : List Char := s.flatMap fun c => (lowerAt [] c []).map oneSigma

theorem plainLower_append (s t : List Char) : plainLower (s ++ t) = plainLower s ++ plainLower t :=
  List.flatMap_append

theorem map_oneSigma_lowerAt (before : List Char) (c : Char) (after : List Char) :
    (lowerAt before c after).map oneSigma = (lowerAt [] c []).map oneSigma := by
  unfold lowerAt
  by_cases hsigma : c = 'Σ'
  · rw [if_pos hsigma, if_pos hsigma]
    split <;> rfl
  · rw [if_neg hsigma, if_neg hsigma]

theorem map_oneSigma_lower (s : List Char) : (lower s).map oneSigma = plainLower s := by
  have hfrom : ∀ before, (lowerFrom before [] s).map oneSigma = plainLower s := by
    induction s with
    | nil => exact fun _ => rfl
    | cons c rest ih =>
        intro before
        rw [lowerFrom, lowerFrom_eq, List.map_append, ih, List.append_nil, List.reverse_reverse,
          map_oneSigma_lowerAt]
        rfl
  exact hfrom []

/-- What is no small sigma has one form. -/
theorem oneSigma_of_ne {c : Char} (h : oneSigma c ≠ 'σ') : oneSigma c = c := by
  unfold oneSigma at h ⊢
  split
  · next hc => exact absurd (if_pos hc) h
  · rfl

theorem map_oneSigma_of_forall {w : List Char} (h : ∀ c ∈ w, oneSigma c = c) :
    w.map oneSigma = w :=
  (List.map_congr_left h).trans (List.map_id w)

/-- A word without a small sigma occurs in the lower-case form of a text just if it occurs in the
lower-case forms of the characters put together. -/
theorem isInfix_lower_iff {w : List Char} (hmedial : 'σ' ∉ w) (hfinal : 'ς' ∉ w) (s : List Char) :
    w <:+: lower s ↔ w <:+: plainLower s := by
  rw [← map_oneSigma_lower, List.infix_map_iff]
  constructor
  · intro h
    have hsame : w.map oneSigma = w := by
      refine map_oneSigma_of_forall fun c hc => ?_
      have hne : c ≠ 'ς' := fun heq => hfinal (heq ▸ hc)
      exact if_neg hne
    exact ⟨w, h, hsame.symm⟩
  · rintro ⟨t, ht, rfl⟩
    have hsame : t.map oneSigma = t := by
      refine map_oneSigma_of_forall fun c hc => oneSigma_of_ne fun hsigma => hmedial ?_
      exact List.mem_map.mpr ⟨c, hc, hsigma⟩
    rwa [hsame]

end Switchboard.Text
