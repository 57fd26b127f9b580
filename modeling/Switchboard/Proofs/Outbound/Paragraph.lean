/-
# Paragraphs

Blank lines part a text into paragraphs.  Where more than two line ends stand in a row it is open which
of them make the blank lines; the text is read from the left, so the first two do.  `Parted` says this
of a text and its paragraphs without reading the text, and `parted_iff` says that the reading finds
just these paragraphs.  The induction is on the length of the text, from one blank line to the next
(`exists_break`).
-/
import Switchboard.Outbound.Slack

namespace Switchboard.Outbound

/-! ## Texts and their paragraphs -/

/-- Blank lines one right behind another, each of them two line ends. -/
def blankLines (n : Nat) : List Char := List.replicate (2 * n) '\n'

/-- Whether there is no blank line in a text. -/
def Seamless (s : List Char) : Prop := ¬ ['\n', '\n'] <:+: s

/-- Paragraphs and the text that they make up: at least one blank line stands between two paragraphs,
and as many as there may be before the first and behind the last.  A paragraph that has a blank line
behind it does not end with a line end, because the blank line would begin there. -/
inductive Joined : List (List Char) → List Char → Prop where
  | blank (n : Nat) : Joined [] (blankLines n)
  | last (n : Nat) (p : List Char) : Joined [p] (blankLines n ++ p)
  | more (n : Nat) (p : List Char) (ends : p.getLast? ≠ some '\n') {ps : List (List Char)}
      {s : List Char} (rest : Joined ps s) :
      Joined (p :: ps) (blankLines n ++ p ++ blankLines 1 ++ s)

/-- A text and its paragraphs, none of which is empty or has a blank line in it. -/
structure Parted (s : List Char) (ps : List (List Char)) : Prop where
  nonempty : ∀ p ∈ ps, p ≠ []
  seamless : ∀ p ∈ ps, Seamless p
  joined : Joined ps s

/-! ## Blank lines -/

theorem blankLines_succ (n : Nat) : blankLines (n + 1) = '\n' :: '\n' :: blankLines n := rfl

theorem seamless_cons {c : Char} {s : List Char} :
    Seamless (c :: s) ↔ ¬ (c = '\n' ∧ s.head? = some '\n') ∧ Seamless s := by
  have hfront : ['\n', '\n'] <+: c :: s ↔ c = '\n' ∧ s.head? = some '\n' := by
    cases s with
    | nil => simp
    | cons d s => simp [eq_comm]
  rw [Seamless, List.infix_cons_iff, hfront, not_or]
  exact Iff.rfl

theorem seamless_nil : Seamless [] := by
  intro h
  cases List.infix_nil.mp h

/-- A text without a blank line, and with none that a line end behind it would complete. -/
theorem seamless_append_iff {p : List Char} :
    Seamless (p ++ ['\n']) ↔ Seamless p ∧ p.getLast? ≠ some '\n' := by
  induction p with
  | nil => simp [seamless_cons, seamless_nil]
  | cons c p ih =>
      rw [List.cons_append, seamless_cons, ih, seamless_cons]
      cases p with
      | nil => simp [seamless_nil]
      | cons d p => simp [and_assoc]

/-- A text has no blank line, or it has a first one. -/
theorem exists_break (s : List Char) :
    Seamless s ∨ ∃ p rest, s = p ++ '\n' :: '\n' :: rest ∧ Seamless (p ++ ['\n']) := by
  induction s with
  | nil => exact .inl seamless_nil
  | cons c s ih =>
      by_cases hbreak : c = '\n' ∧ s.head? = some '\n'
      · obtain ⟨rfl, hs⟩ := hbreak
        obtain ⟨rest, rfl⟩ := List.head?_eq_some_iff.mp hs
        exact .inr ⟨[], rest, rfl, seamless_append_iff.mpr ⟨seamless_nil, by simp⟩⟩
      · rcases ih with hs | ⟨p, rest, rfl, hp⟩
        · exact .inl (seamless_cons.mpr ⟨hbreak, hs⟩)
        · refine .inr ⟨c :: p, rest, rfl, seamless_cons.mpr ⟨?_, hp⟩⟩
          cases p with
          | nil => exact hbreak
          | cons d p => exact hbreak

/-! ## Reading from the left -/

theorem paragraphsFrom_seamless {s : List Char} (h : Seamless s) (current : List Char)
    (done : List (List Char)) :
    paragraphsFrom current done s = done.reverse ++ [current.reverse ++ s] := by
  fun_induction paragraphsFrom current done s with
  | case1 current done => simp
  | case2 current done rest ih => exact absurd ⟨rfl, rfl⟩ (seamless_cons.mp h).1
  | case3 current done c rest hne ih =>
      rw [ih (seamless_cons.mp h).2]
      simp

/-- At the first blank line a piece ends. -/
theorem paragraphsFrom_append {p : List Char} (h : Seamless (p ++ ['\n'])) (current : List Char)
    (done : List (List Char)) (rest : List Char) :
    paragraphsFrom current done (p ++ '\n' :: '\n' :: rest)
      = paragraphsFrom [] ((current.reverse ++ p) :: done) rest := by
  induction p generalizing current with
  | nil => simp [paragraphsFrom]
  | cons c p ih =>
      have hcut := seamless_cons.mp h
      have hstep : paragraphsFrom current done (c :: (p ++ '\n' :: '\n' :: rest))
          = paragraphsFrom (c :: current) done (p ++ '\n' :: '\n' :: rest) := by
        rw [paragraphsFrom]
        intro rest' hc hrest
        refine hcut.1 ⟨hc, ?_⟩
        cases p with
        | nil => rfl
        | cons d p => exact congrArg List.head? hrest
      rw [List.cons_append, hstep, ih hcut.2]
      simp

theorem paragraphsFrom_done (current : List Char) (front done : List (List Char))
    (s : List Char) :
    paragraphsFrom current (front ++ done) s = done.reverse ++ paragraphsFrom current front s := by
  fun_induction paragraphsFrom current front s with
  | case1 current front => simp [paragraphsFrom]
  | case2 current front rest ih =>
      rw [paragraphsFrom]
      exact ih
  | case3 current front c rest hne ih =>
      rw [paragraphsFrom]
      · exact ih
      · exact hne

/-- Behind a blank line the reading goes on as if it began there. -/
theorem paragraphsFrom_nil (done : List (List Char)) (s : List Char) :
    paragraphsFrom [] done s = done.reverse ++ paragraphsFrom [] [] s :=
  paragraphsFrom_done [] [] done s

/-- The pieces of a text that are not empty. -/
def pieces (s : List Char) : List (List Char) :=
  (paragraphsFrom [] [] s).filter fun p => !p.isEmpty

theorem paragraphs_eq (message : String) :
    paragraphs message = (pieces message.toList).map String.ofList := rfl

theorem pieces_blankLines_append (n : Nat) (s : List Char) :
    pieces (blankLines n ++ s) = pieces s := by
  induction n with
  | zero => rfl
  | succ n ih =>
      rw [← ih, blankLines_succ, List.cons_append, List.cons_append, pieces, paragraphsFrom,
        paragraphsFrom_nil]
      rfl

theorem pieces_of_seamless {p : List Char} (h : Seamless p) (hne : p ≠ []) : pieces p = [p] := by
  rw [pieces, paragraphsFrom_seamless h]
  simp [hne]

theorem pieces_append {p : List Char} (h : Seamless (p ++ ['\n'])) (hne : p ≠ [])
    (rest : List Char) : pieces (p ++ '\n' :: '\n' :: rest) = p :: pieces rest := by
  rw [pieces, paragraphsFrom_append h, paragraphsFrom_nil]
  simp [hne, pieces]

/-! ## The paragraphs are found -/

theorem Joined.pieces_eq {s : List Char} {ps : List (List Char)} (h : Joined ps s)
    (nonempty : ∀ p ∈ ps, p ≠ []) (seamless : ∀ p ∈ ps, Seamless p) : pieces s = ps := by
  induction h with
  | blank n =>
      have hblank := pieces_blankLines_append n []
      rwa [List.append_nil] at hblank
  | last n p =>
      rw [pieces_blankLines_append]
      exact pieces_of_seamless (seamless p List.mem_cons_self) (nonempty p List.mem_cons_self)
  | @more n p ends ps s rest ih =>
      have hp : Seamless (p ++ ['\n']) :=
        seamless_append_iff.mpr ⟨seamless p List.mem_cons_self, ends⟩
      rw [List.append_assoc, List.append_assoc, pieces_blankLines_append]
      show pieces (p ++ '\n' :: '\n' :: s) = _
      rw [pieces_append hp (nonempty p List.mem_cons_self),
        ih (fun q hq => nonempty q (List.mem_cons_of_mem p hq))
          (fun q hq => seamless q (List.mem_cons_of_mem p hq))]

/-- Blank lines in front of a text are some more of those that may stand there. -/
theorem Joined.blankLines_append {s : List Char} {ps : List (List Char)} (h : Joined ps s)
    (n : Nat) : Joined ps (blankLines n ++ s) := by
  have hadd : ∀ m, blankLines n ++ blankLines m = blankLines (n + m) := by
    intro m
    rw [blankLines, blankLines, List.replicate_append_replicate, ← Nat.mul_add]
    rfl
  cases h with
  | blank m =>
      rw [hadd]
      exact .blank _
  | last m p =>
      rw [← List.append_assoc, hadd]
      exact .last _ p
  | more m p ends rest =>
      rw [← List.append_assoc, ← List.append_assoc, ← List.append_assoc, hadd]
      exact .more _ p ends rest

theorem parted_pieces (s : List Char) : Parted s (pieces s) := by
  induction hlen : s.length using Nat.strongRecOn generalizing s with
  | ind len ih =>
      subst hlen
      rcases exists_break s with hs | ⟨p, rest, rfl, hp⟩
      · by_cases hne : s = []
        · subst hne
          exact ⟨fun _ h => absurd h List.not_mem_nil, fun _ h => absurd h List.not_mem_nil,
            .blank 0⟩
        · rw [pieces_of_seamless hs hne]
          exact ⟨by simpa using hne, by simpa using hs, .last 0 s⟩
      · obtain ⟨nonempty, seamless, joined⟩ := ih rest.length (by simp; omega) rest rfl
        by_cases hne : p = []
        · subst hne
          have hrest : pieces ('\n' :: '\n' :: rest) = pieces rest :=
            pieces_blankLines_append 1 rest
          rw [List.nil_append, hrest]
          exact ⟨nonempty, seamless, joined.blankLines_append 1⟩
        · obtain ⟨hwhole, ends⟩ := seamless_append_iff.mp hp
          rw [pieces_append hp hne]
          refine ⟨?_, ?_, ?_⟩
          · rintro q (_ | ⟨_, hq⟩)
            · exact hne
            · exact nonempty q hq
          · rintro q (_ | ⟨_, hq⟩)
            · exact hwhole
            · exact seamless q hq
          · have hjoined := Joined.more 0 p ends joined
            simpa [blankLines] using hjoined

/-- A text is read into its paragraphs. -/
theorem parted_iff {s : List Char} {ps : List (List Char)} : Parted s ps ↔ pieces s = ps := by
  constructor
  · intro h
    exact h.joined.pieces_eq h.nonempty h.seamless
  · rintro rfl
    exact parted_pieces s

/-- A text without paragraphs is made of blank lines. -/
theorem Parted.eq_nil_iff {s : List Char} {ps : List (List Char)} (h : Parted s ps) :
    ps = [] ↔ ∃ n, s = blankLines n := by
  constructor
  · rintro rfl
    cases h.joined with
    | blank n => exact ⟨n, rfl⟩
  · rintro ⟨n, rfl⟩
    have hblank : Parted (blankLines n) [] :=
      ⟨fun _ hp => absurd hp List.not_mem_nil, fun _ hp => absurd hp List.not_mem_nil, .blank n⟩
    exact (parted_iff.mp h).symm.trans (parted_iff.mp hblank)

end Switchboard.Outbound
