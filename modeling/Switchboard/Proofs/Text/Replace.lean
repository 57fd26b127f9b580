/-
# Replacing from left to right

Where nothing is found a character stays, and what is found gives way to the filler.
`replaceHits_induction` turns these two equations into a way to prove a relation between a text and
what a replacement makes of it.  Looking for one character and putting another in its place works on
each character by itself (`replaceHits_eq_map`).
-/
import Switchboard.Text.Search

namespace Switchboard.Text

variable {hit : Matcher} {filler : List Char}

theorem replaceFrom_append (front out s : List Char) :
    replaceFrom hit filler (front ++ out) s = out.reverse ++ replaceFrom hit filler front s := by
  fun_induction replaceFrom hit filler front s with
  | case1 front => simp [replaceFrom]
  | case2 front c s n h ih =>
      rw [replaceFrom, h]
      simpa only [List.append_assoc, List.unattach_reverse, List.unattach_attach] using ih
  | case3 front c s h ih =>
      rw [replaceFrom, h]
      exact ih

theorem replaceHits_nil : replaceHits hit filler [] = [] := by
  simp [replaceHits, replaceFrom]

theorem replaceHits_of_none {c : Char} {s : List Char} (h : hit (c :: s) = none) :
    replaceHits hit filler (c :: s) = c :: replaceHits hit filler s := by
  rw [replaceHits, replaceFrom, h]
  exact replaceFrom_append [] [c] s

theorem replaceHits_of_some {c : Char} {s : List Char} {n : Nat} (h : hit (c :: s) = some n) :
    replaceHits hit filler (c :: s) = filler ++ replaceHits hit filler (s.drop (n - 1)) := by
  rw [replaceHits, replaceFrom, h]
  show replaceFrom hit filler (filler.reverse ++ []) _ = filler ++ replaceFrom hit filler [] _
  rw [List.append_nil]
  exact (replaceFrom_append [] filler.reverse _).trans (by rw [List.reverse_reverse])

theorem replaceHits_induction {motive : List Char → List Char → Prop} (nil : motive [] [])
    (keep : ∀ c s, hit (c :: s) = none → motive s (replaceHits hit filler s) →
      motive (c :: s) (c :: replaceHits hit filler s))
    (replace : ∀ c s n, hit (c :: s) = some n →
      motive (s.drop (n - 1)) (replaceHits hit filler (s.drop (n - 1))) →
      motive (c :: s) (filler ++ replaceHits hit filler (s.drop (n - 1))))
    (s : List Char) : motive s (replaceHits hit filler s) := by
  induction hlen : s.length using Nat.strongRecOn generalizing s with
  | ind len ih =>
      subst hlen
      cases s with
      | nil => exact replaceHits_nil.symm ▸ nil
      | cons c s =>
          cases h : hit (c :: s) with
          | none =>
              rw [replaceHits_of_none h]
              exact keep c s h (ih _ (Nat.lt_succ_self _) s rfl)
          | some n =>
              have hshort : (s.drop (n - 1)).length < (c :: s).length := by
                simp only [List.length_drop, List.length_cons]
                omega
              rw [replaceHits_of_some h]
              exact replace c s n h (ih _ hshort _ rfl)

/-- Hits of one character that another one takes the place of. -/
theorem replaceHits_eq_map {p : Char → Prop} [DecidablePred p] {mark : Char}
    (h : ∀ c s, hit (c :: s) = if p c then some 1 else none) (s : List Char) :
    replaceHits hit [mark] s = s.map fun c => if p c then mark else c := by
  induction s with
  | nil => exact replaceHits_nil
  | cons c s ih =>
      by_cases hc : p c
      · rw [replaceHits_of_some ((h c s).trans (if_pos hc)), List.map_cons, if_pos hc, ← ih]
        rfl
      · rw [replaceHits_of_none ((h c s).trans (if_neg hc)), List.map_cons, if_neg hc, ih]

end Switchboard.Text
