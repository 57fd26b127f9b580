/-
# Words

The words of a text are what stands between its blanks.  Everything follows from one equation,
`words_append`: where the second text begins with a blank, no word reaches from one text into the
other.
-/
import Switchboard.Proofs.Text.Trim

namespace Switchboard.Text

/-- The words of a text, in order. -/
def words (s : List Char) : List (List Char) :=
  (s.splitOnP isBlank).filter fun w => !w.isEmpty

/-- Whether a character belongs to a word. -/
def isSolid (c : Char) : Bool := !isBlank c

variable {s t u w : List Char} {b c : Char}

theorem isSolid_iff : isSolid c = true ↔ isBlank c = false := by
  rw [isSolid, Bool.not_eq_true']

theorem not_isSolid_iff : isSolid c = false ↔ isBlank c = true := by
  rw [isSolid, Bool.not_eq_false']

theorem words_nil : words [] = [] := rfl

theorem words_append_blank (hb : isBlank b = true) (s t : List Char) :
    words (s ++ b :: t) = words s ++ words t := by
  rw [words, List.splitOnP_append_cons s t hb, List.filter_append]
  rfl

theorem words_cons_blank (hb : isBlank b = true) (s : List Char) : words (b :: s) = words s :=
  words_append_blank hb [] s

/-- A blank parts the words. -/
theorem words_append (ht : Ends isSolid t) (s : List Char) :
    words (s ++ t) = words s ++ words t := by
  cases t with
  | nil => rw [List.append_nil, words_nil, List.append_nil]
  | cons b t =>
      have hb : isBlank b = true := not_isSolid_iff.mp (ends_cons.mp ht)
      rw [words_append_blank hb, words_cons_blank hb]

theorem words_of_solid (hne : w ≠ []) (hw : ∀ c ∈ w, isSolid c = true) : words w = [w] := by
  have hsplit : w.splitOnP isBlank = [w] :=
    List.splitOnP_eq_singleton fun c hc => isSolid_iff.mp (hw c hc)
  rw [words, hsplit]
  exact List.filter_cons_of_pos (by simpa using hne)

/-- A text that begins in a word: the word goes on up to the first blank. -/
theorem words_solid_append (hne : w ≠ []) (hw : ∀ c ∈ w, isSolid c = true) (s : List Char) :
    words (w ++ s) = (w ++ s.takeWhile isSolid) :: words (s.dropWhile isSolid) := by
  have hword : words (w ++ s.takeWhile isSolid) = [w ++ s.takeWhile isSolid] := by
    refine words_of_solid (List.append_ne_nil_of_left_ne_nil hne _) fun c hc => ?_
    exact (List.mem_append.mp hc).elim (hw c) List.mem_takeWhile_imp
  calc words (w ++ s)
      = words ((w ++ s.takeWhile isSolid) ++ s.dropWhile isSolid) := by
        rw [List.append_assoc, List.takeWhile_append_dropWhile]
    _ = (w ++ s.takeWhile isSolid) :: words (s.dropWhile isSolid) := by
        rw [words_append (ends_dropWhile s), hword, List.singleton_append]

/-- A word is a part of the text, and without blanks. -/
theorem mem_words (h : w ∈ words s) : w <:+: s ∧ ∀ c ∈ w, isSolid c = true := by
  induction hlen : s.length using Nat.strongRecOn generalizing s with
  | ind len ih =>
      subst hlen
      cases s with
      | nil => exact absurd h List.not_mem_nil
      | cons c s =>
          cases hc : isSolid c with
          | false =>
              rw [words_cons_blank (not_isSolid_iff.mp hc)] at h
              obtain ⟨hin, hw⟩ := ih _ (Nat.lt_succ_self _) h rfl
              exact ⟨List.infix_cons hin, hw⟩
          | true =>
              have hone : ∀ d ∈ [c], isSolid d = true := fun d hd => List.mem_singleton.mp hd ▸ hc
              have hcons := words_solid_append (List.cons_ne_nil c []) hone s
              rw [List.singleton_append] at hcons
              rw [hcons] at h
              rcases List.mem_cons.mp h with rfl | h
              · refine ⟨?_, fun d hd => ?_⟩
                · exact ((List.prefix_cons_inj c).mpr (List.takeWhile_prefix isSolid)).isInfix
                · exact (List.mem_cons.mp hd).elim (fun he => he ▸ hc) List.mem_takeWhile_imp
              · have hshort : (s.dropWhile isSolid).length < (c :: s).length :=
                  Nat.lt_succ_of_le (List.dropWhile_suffix isSolid).length_le
                obtain ⟨hin, hw⟩ := ih _ hshort h rfl
                exact ⟨List.infix_cons (hin.trans (List.dropWhile_suffix isSolid).isInfix), hw⟩

/-! ## Blanks at the ends -/

theorem words_eq_nil (h : ∀ c ∈ s, isBlank c = true) : words s = [] := by
  induction s with
  | nil => rfl
  | cons b s ih =>
      rw [words_cons_blank (h b List.mem_cons_self)]
      exact ih fun c hc => h c (List.mem_cons_of_mem b hc)

theorem words_blank_append (h : ∀ c ∈ u, isBlank c = true) (s : List Char) :
    words (u ++ s) = words s := by
  induction u with
  | nil => rfl
  | cons b u ih =>
      rw [List.cons_append, words_cons_blank (h b List.mem_cons_self)]
      exact ih fun c hc => h c (List.mem_cons_of_mem b hc)

theorem Trims.words_eq (h : Trims s t) : words t = words s := by
  obtain ⟨front, back, rfl, hfront, hback, -⟩ := h
  have hborder : Ends isSolid back := fun c hc =>
    not_isSolid_iff.mpr (hback c (List.mem_of_mem_head? hc))
  rw [words_append hborder, words_blank_append hfront, words_eq_nil hback, List.append_nil]

/-! ## Words that stand alone -/

/-- Whether a word has a blank or an end of the text on either side wherever it occurs. -/
def StandsAlone (w s : List Char) : Prop :=
  ∀ before after, s = before ++ w ++ after →
    (∀ c ∈ before.getLast?, isBlank c = true) ∧ ∀ c ∈ after.head?, isBlank c = true

/-- A word that stands alone is no part of another word. -/
theorem StandsAlone.eq_of_mem_words (h : StandsAlone w s) {v : List Char} (hv : v ∈ words s)
    (hin : w <:+: v) : v = w := by
  obtain ⟨⟨front, back, rfl⟩, hsolid⟩ := mem_words hv
  obtain ⟨left, right, rfl⟩ := hin
  obtain ⟨hleft, hright⟩ := h (front ++ left) (right ++ back) (by simp)
  have hnil : left = [] := by
    rcases List.eq_nil_or_concat left with hnil | ⟨init, c, rfl⟩
    · exact hnil
    · have hlast : (front ++ init.concat c).getLast? = some c := by
        rw [List.concat_eq_append, ← List.append_assoc, List.getLast?_concat]
      have hc := hsolid c (by simp)
      rw [isSolid_iff, hleft c hlast] at hc
      cases hc
  have hnil' : right = [] := by
    cases right with
    | nil => rfl
    | cons c right =>
        have hc := hsolid c (by simp)
        rw [isSolid_iff, hright c rfl] at hc
        cases hc
  rw [hnil, hnil', List.nil_append, List.append_nil]

/-- It is enough to look at every place of the text. -/
theorem standsAlone_iff :
    StandsAlone w s ↔ ∀ n < s.length + 1, w.isPrefixOf (s.drop n) = true →
      (s.take n).getLast?.all isBlank = true ∧
        (s.drop (n + w.length)).head?.all isBlank = true := by
  simp only [Option.all_eq_true]
  constructor
  · intro h n _ hbegin
    obtain ⟨after, hafter⟩ := List.isPrefixOf_iff_prefix.mp hbegin
    have hs : s = s.take n ++ w ++ after := by
      rw [List.append_assoc, hafter, List.take_append_drop]
    have hrest : s.drop (n + w.length) = after := by
      rw [← List.drop_drop, ← hafter, List.drop_left]
    rw [hrest]
    exact h (s.take n) after hs
  · rintro h before after rfl
    have hplace := h before.length (by simp only [List.length_append]; omega)
    rw [List.append_assoc, List.drop_left, List.take_left, ← List.length_append,
      ← List.append_assoc, List.drop_left] at hplace
    exact hplace (List.isPrefixOf_iff_prefix.mpr (List.prefix_append w after))

instance : Decidable (StandsAlone w s) := decidable_of_iff _ standsAlone_iff.symm

end Switchboard.Text
