/-
# Cutting what was joined

Cutting a text at a separator undoes putting parts together with separators between them, as long as
no part holds one; and putting the parts together again gives the text back.  Separators at the end can
be dropped.
-/
import Switchboard.Text.Search

namespace Switchboard.Text

variable {α : Type} [BEq α] [LawfulBEq α] {sep : α}

/-! ## Occurrences -/

theorem holds_iff {part s : List Char} : holds part s = true ↔ part <:+: s := by
  induction s with
  | nil => rw [holds, List.isEmpty_iff, List.infix_nil]
  | cons c s ih => rw [holds, Bool.or_eq_true, List.isPrefixOf_iff_prefix, ih, List.infix_cons_iff]

omit [BEq α] [LawfulBEq α] in
/-- A word without the separator does not reach across it. -/
theorem isInfix_append_cons_iff {w : List α} (h : sep ∉ w) (s t : List α) :
    w <:+: s ++ sep :: t ↔ w <:+: s ∨ w <:+: t := by
  have hbefore : ∀ s : List α, w <+: s ++ sep :: t → w <+: s := by
    intro s hw
    have hcut : s ++ [sep] <+: s ++ sep :: t := (List.prefix_append_right_inj s).mpr ⟨t, rfl⟩
    rcases List.prefix_or_prefix_of_prefix hw hcut with hshort | hlong
    · rcases List.prefix_concat_iff.mp hshort with rfl | hs
      · exact absurd (List.mem_append_right s List.mem_cons_self) h
      · exact hs
    · exact absurd (hlong.subset (List.mem_append_right s List.mem_cons_self)) h
  constructor
  · intro hw
    induction s with
    | nil =>
        rcases List.infix_cons_iff.mp hw with hfront | hrest
        · exact .inl (hbefore [] hfront).isInfix
        · exact .inr hrest
    | cons a s ih =>
        rcases List.infix_cons_iff.mp hw with hfront | hrest
        · exact .inl (hbefore (a :: s) hfront).isInfix
        · exact (ih hrest).imp (fun hs => hs.trans (List.suffix_cons a s).isInfix) id
  · rintro (hw | hw)
    · exact hw.trans (List.prefix_append s _).isInfix
    · exact hw.trans ((List.suffix_cons sep t).trans (List.suffix_append s _)).isInfix

/-! ## At the first separator -/

theorem cutFrom_append {s : List α} (h : sep ∉ s) (front rest : List α) :
    cutFrom sep front (s ++ sep :: rest) = (front.reverse ++ s, some rest) := by
  induction s generalizing front with
  | nil => simp [cutFrom]
  | cons a s ih =>
      have hne : (a == sep) = false := beq_false_of_ne fun he => h (he ▸ List.mem_cons_self)
      have hs : sep ∉ s := fun hm => h (List.mem_cons_of_mem a hm)
      simp [cutFrom, hne, ih hs]

/-- What stands before and behind the first separator. -/
theorem cut_append {s : List α} (h : sep ∉ s) (rest : List α) :
    cut sep (s ++ sep :: rest) = (s, some rest) :=
  cutFrom_append h [] rest

/-! ## At every separator -/

theorem splitFrom_append {s : List α} (h : sep ∉ s) (piece : List α) (pieces : List (List α))
    (rest : List α) :
    splitFrom sep piece pieces (s ++ sep :: rest)
      = splitFrom sep [] ((piece.reverse ++ s) :: pieces) rest := by
  induction s generalizing piece with
  | nil => simp [splitFrom]
  | cons a s ih =>
      have hne : (a == sep) = false := beq_false_of_ne fun he => h (he ▸ List.mem_cons_self)
      have hs : sep ∉ s := fun hm => h (List.mem_cons_of_mem a hm)
      simp [splitFrom, hne, ih hs]

theorem splitFrom_of_notMem {s : List α} (h : sep ∉ s) (piece : List α)
    (pieces : List (List α)) :
    splitFrom sep piece pieces s = pieces.reverse ++ [piece.reverse ++ s] := by
  induction s generalizing piece with
  | nil => simp [splitFrom]
  | cons a s ih =>
      have hne : (a == sep) = false := beq_false_of_ne fun he => h (he ▸ List.mem_cons_self)
      have hs : sep ∉ s := fun hm => h (List.mem_cons_of_mem a hm)
      simp [splitFrom, hne, ih hs]

theorem splitFrom_intercalate {p : List α} {ps : List (List α)} (h : ∀ q ∈ p :: ps, sep ∉ q)
    (pieces : List (List α)) :
    splitFrom sep [] pieces ([sep].intercalate (p :: ps)) = pieces.reverse ++ p :: ps := by
  induction ps generalizing p pieces with
  | nil =>
      rw [List.intercalate_singleton, splitFrom_of_notMem (h p List.mem_cons_self)]
      rfl
  | cons q ps ih =>
      have hq : ∀ r ∈ q :: ps, sep ∉ r := fun r hr => h r (List.mem_cons_of_mem p hr)
      rw [List.intercalate_cons_cons, List.append_assoc, List.singleton_append,
        splitFrom_append (h p List.mem_cons_self), ih hq]
      simp

/-- The pieces of what was joined from pieces without the separator. -/
theorem split_intercalate {p : List α} {ps : List (List α)} (h : ∀ q ∈ p :: ps, sep ∉ q) :
    split sep ([sep].intercalate (p :: ps)) = p :: ps :=
  splitFrom_intercalate h []

/-! ## Putting together again -/

theorem cutFrom_of_notMem {s : List α} (h : sep ∉ s) (front : List α) :
    cutFrom sep front s = (front.reverse ++ s, none) := by
  induction s generalizing front with
  | nil => simp [cutFrom]
  | cons a s ih =>
      have hne : (a == sep) = false := beq_false_of_ne fun he => h (he ▸ List.mem_cons_self)
      have hs : sep ∉ s := fun hm => h (List.mem_cons_of_mem a hm)
      simp [cutFrom, hne, ih hs]

/-- A text without the separator is not cut. -/
theorem cut_of_notMem {s : List α} (h : sep ∉ s) : cut sep s = (s, none) :=
  cutFrom_of_notMem h []

omit [LawfulBEq α] in
theorem splitFrom_eq (piece : List α) (pieces : List (List α)) (s : List α) :
    splitFrom sep piece pieces s = pieces.reverse ++ s.splitOnPPrepend (· == sep) piece := by
  induction s generalizing piece pieces with
  | nil => simp [splitFrom]
  | cons a s ih =>
      rw [splitFrom, List.splitOnPPrepend_cons_eq_if]
      split
      · simp [ih]
      · exact ih (a :: piece) pieces

omit [LawfulBEq α] in
/-- The pieces are those of the library's split. -/
theorem split_eq_splitOn (s : List α) : split sep s = s.splitOn sep :=
  splitFrom_eq [] [] s

/-- No piece holds the separator. -/
theorem notMem_of_mem_split {s q : List α} (h : q ∈ split sep s) : sep ∉ q := by
  rw [split_eq_splitOn] at h
  induction s generalizing q with
  | nil =>
      rw [List.splitOn_nil, List.mem_singleton] at h
      exact h ▸ List.not_mem_nil
  | cons a s ih =>
      rw [List.splitOn_cons_eq_if_modifyHead] at h
      split at h
      · rcases List.mem_cons.mp h with rfl | h
        · exact List.not_mem_nil
        · exact ih h
      · rename_i hne
        cases hpieces : s.splitOn sep with
        | nil => exact absurd hpieces (List.splitOn_ne_nil sep s)
        | cons p ps =>
            rw [hpieces] at h ih
            rcases List.mem_cons.mp h with rfl | h
            · rintro (_ | ⟨_, hm⟩)
              · exact hne (beq_self_eq_true sep)
              · exact ih List.mem_cons_self hm
            · exact ih (List.mem_cons_of_mem p h)

/-- The pieces with separators between them are the text. -/
theorem intercalate_split (s : List α) : [sep].intercalate (split sep s) = s := by
  rw [split_eq_splitOn, List.intercalate_splitOn]

/-! ## At the end -/

/-- Of a text with separators behind it, all of these are dropped. -/
theorem dropRight_append_replicate {s : List α} (h : ¬ [sep] <:+ s) (n : Nat) :
    dropRight sep (s ++ List.replicate n sep) = s := by
  have hlast : s.reverse.dropWhile (· == sep) = s.reverse := by
    cases hs : s.reverse with
    | nil => rfl
    | cons a rest =>
        have hne : ¬ (a == sep) = true := fun ha => h (by
          rw [List.reverse_eq_cons_iff.mp hs, beq_iff_eq.mp ha]
          exact List.suffix_append _ _)
        exact List.dropWhile_cons_of_neg hne
  rw [dropRight, List.reverse_append, List.reverse_replicate, List.dropWhile_append_of_pos, hlast,
    List.reverse_reverse]
  intro a ha
  exact beq_iff_eq.mpr (List.eq_of_mem_replicate ha)

end Switchboard.Text
