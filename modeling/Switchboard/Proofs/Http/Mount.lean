/-
# Which paths can be mount points

A path can be a mount point if, without the slashes at its end, it is empty or begins with a slash,
holds no star, and has a name behind every colon; and there may not be too many colons
(`ofPath?_isSome_iff`).
-/
import Mathlib.Data.List.TakeWhile
import Switchboard.Http.Mount

namespace Switchboard.Http

/-- The segment in front of a text. -/
def segment (s : List Char) : List Char := s.takeWhile (· ≠ '/')

/-- Whether every colon has a name behind it in its segment: some text without another colon. -/
def Named (s : List Char) : Prop :=
  ∀ t, ':' :: t <:+ s → segment t ≠ [] ∧ ':' ∉ segment t

/-- Whether a path can be a mount point. -/
def Mountable (path : String) : Prop :=
  let s := Text.dropRight '/' path.toList
  s = [] ∨ s.head? = some '/' ∧ '*' ∉ s ∧ Named s ∧ s.count ':' ≤ Mount.maxWild

theorem named_nil : Named [] := fun _ h => nomatch List.suffix_nil.mp h

theorem named_cons {c : Char} {s : List Char} :
    Named (c :: s) ↔ (c = ':' → segment s ≠ [] ∧ ':' ∉ segment s) ∧ Named s := by
  constructor
  · intro h
    refine ⟨?_, fun t ht => h t (ht.trans (List.suffix_cons c s))⟩
    rintro rfl
    exact h s List.suffix_rfl
  · rintro ⟨hfirst, hrest⟩ t ht
    rcases List.suffix_cons_iff.mp ht with heq | ht
    · obtain ⟨hc, rfl⟩ := List.cons.inj heq
      exact hfirst hc.symm
    · exact hrest t ht

/-- Text without colons in front changes nothing. -/
theorem named_append {s : List Char} (h : ':' ∉ s) (t : List Char) :
    Named (s ++ t) ↔ Named t := by
  induction s with
  | nil => rfl
  | cons c s ih =>
      have hc : c ≠ ':' := fun hc => h (hc ▸ List.mem_cons_self)
      rw [List.cons_append, named_cons, ih fun hs => h (List.mem_cons_of_mem c hs)]
      exact ⟨And.right, fun ht => ⟨fun he => absurd he hc, ht⟩⟩

theorem segment_append (s : List Char) : segment s ++ s.dropWhile (· ≠ '/') = s :=
  List.takeWhile_append_dropWhile

namespace Mount

/-- Whether a name may stand behind a colon. -/
def IsName (s : List Char) : Prop := s ≠ [] ∧ ':' ∉ s ∧ '*' ∉ s

theorem partsFrom?_colon_of_not {rest : List Char} (h : ¬ IsName (segment rest))
    (text : List Char) (done : List Part) : partsFrom? text done (':' :: rest) = none := by
  have hname : ((segment rest).isEmpty || (segment rest).contains ':'
      || (segment rest).contains '*') = true := by
    by_contra hfalse
    simp only [Bool.or_eq_true, not_or, List.isEmpty_iff, List.contains_iff_mem] at hfalse
    exact h ⟨hfalse.1.1, hfalse.1.2, hfalse.2⟩
  rw [partsFrom?, if_neg (by decide), if_pos rfl]
  exact if_pos hname

theorem partsFrom?_colon {rest : List Char} (h : IsName (segment rest)) (text : List Char)
    (done : List Part) :
    partsFrom? text done (':' :: rest)
      = partsFrom? [] (.wild :: .literal text.reverse :: done) (rest.dropWhile (· ≠ '/')) := by
  have hname : ¬ ((segment rest).isEmpty || (segment rest).contains ':'
      || (segment rest).contains '*') = true := by
    simp only [Bool.or_eq_true, not_or, List.isEmpty_iff, List.contains_iff_mem]
    exact ⟨⟨h.1, h.2.1⟩, h.2.2⟩
  rw [partsFrom?, if_neg (by decide), if_pos rfl]
  exact if_neg hname

theorem partsFrom?_plain {c : Char} (hstar : c ≠ '*') (hcolon : c ≠ ':') (text : List Char)
    (done : List Part) (rest : List Char) :
    partsFrom? text done (c :: rest) = partsFrom? (c :: text) done rest := by
  rw [partsFrom?, if_neg hstar, if_neg hcolon]

section Name

variable {rest : List Char} (h : IsName (segment rest))
include h

/-- Behind a name the colons must have names in turn. -/
theorem named_colon_iff : Named (':' :: rest) ↔ Named (rest.dropWhile (· ≠ '/')) := by
  rw [named_cons, ← named_append h.2.1 (rest.dropWhile (· ≠ '/')), segment_append]
  exact ⟨And.right, fun hrest => ⟨fun _ => ⟨h.1, h.2.1⟩, hrest⟩⟩

theorem star_notMem_iff : '*' ∉ ':' :: rest ↔ '*' ∉ rest.dropWhile (· ≠ '/') := by
  have hmem : '*' ∈ segment rest ++ rest.dropWhile (· ≠ '/') ↔
      '*' ∈ segment rest ∨ '*' ∈ rest.dropWhile (· ≠ '/') := List.mem_append
  rw [segment_append] at hmem
  simp [hmem, h.2.2]

theorem count_colon :
    (':' :: rest).count ':' = (rest.dropWhile (· ≠ '/')).count ':' + 1 := by
  have hcount : (segment rest ++ rest.dropWhile (· ≠ '/')).count ':'
      = (segment rest).count ':' + (rest.dropWhile (· ≠ '/')).count ':' := List.count_append
  rw [segment_append, List.count_eq_zero_of_not_mem h.2.1, Nat.zero_add] at hcount
  rw [List.count_cons_self, hcount]

end Name

/-- A path is cut into parts just if it holds no star and its colons have names; then there is one
wild part for each colon. -/
theorem partsFrom?_spec (text : List Char) (done : List Part) (s : List Char) :
    ((partsFrom? text done s).isSome ↔ '*' ∉ s ∧ Named s) ∧
    ∀ parts ∈ partsFrom? text done s, parts.countP isWild = done.countP isWild + s.count ':' := by
  -- By length, because the name behind a colon is left out in one step.
  induction hn : s.length using Nat.strongRecOn generalizing text done s with
  | ind n ih =>
      cases s with
      | nil => simp [partsFrom?, named_nil, isWild]
      | cons c rest =>
          by_cases hstar : c = '*'
          · simp [partsFrom?, hstar]
          by_cases hcolon : c = ':'
          · subst hcolon
            by_cases hname : IsName (segment rest)
            · have hshorter : (rest.dropWhile (· ≠ '/')).length < n := by
                have := (List.dropWhile_sublist (· ≠ '/') (l := rest)).length_le
                rw [← hn, List.length_cons]
                omega
              obtain ⟨hsome, hcount⟩ := ih _ hshorter [] (.wild :: .literal text.reverse :: done)
                (rest.dropWhile (· ≠ '/')) rfl
              rw [partsFrom?_colon hname, hsome]
              refine ⟨?_, fun parts hparts => ?_⟩
              · rw [named_colon_iff hname, star_notMem_iff hname]
              · rw [hcount parts hparts, count_colon hname, List.countP_cons_of_pos rfl,
                  List.countP_cons_of_neg (by simp [isWild])]
                omega
            · rw [partsFrom?_colon_of_not hname]
              refine ⟨iff_of_false (by simp) ?_, by simp⟩
              rintro ⟨hnostar, hnamed⟩
              obtain ⟨hne, hsingle⟩ := (named_cons.mp hnamed).1 rfl
              exact hname ⟨hne, hsingle, fun h => hnostar
                (List.mem_cons_of_mem _ ((List.takeWhile_sublist _).subset h))⟩
          · obtain ⟨hsome, hcount⟩ := ih rest.length (by simp [← hn]) (c :: text) done rest rfl
            rw [partsFrom?_plain hstar hcolon, hsome]
            refine ⟨?_, fun parts hparts => ?_⟩
            · rw [← List.singleton_append, named_append (by simpa using Ne.symm hcolon)]
              simp [Ne.symm hstar]
            · rw [hcount parts hparts, List.count_cons_of_ne hcolon]

/-- A path can be a mount point just if it is one of those described above. -/
theorem ofPath?_isSome_iff {path : String} : (ofPath? path).isSome ↔ Mountable path := by
  unfold ofPath? Mountable
  cases hs : Text.dropRight '/' path.toList with
  | nil => simp
  | cons c rest =>
      obtain ⟨hsome, hcount⟩ := partsFrom?_spec [] [] (c :: rest)
      simp only [reduceCtorEq, false_or]
      by_cases hslash : (c :: rest).head? = some '/'
      · rw [if_pos hslash]
        cases hparts : partsFrom? [] [] (c :: rest) with
        | none =>
            rw [hparts] at hsome
            exact iff_of_false (by simp) fun ⟨_, hstar, hnamed, _⟩ =>
              absurd (hsome.mpr ⟨hstar, hnamed⟩) (by simp)
        | some parts =>
            obtain ⟨hstar, hnamed⟩ := hsome.mp (by rw [hparts]; rfl)
            have hwild : parts.countP isWild = (c :: rest).count ':' := by
              simpa using hcount parts hparts
            by_cases hmany : maxWild < parts.countP isWild
            · simp only [if_pos hmany]
              exact iff_of_false (by simp) fun ⟨_, _, _, hfew⟩ => by omega
            · simp only [if_neg hmany]
              exact iff_of_true rfl ⟨hslash, hstar, hnamed, by omega⟩
      · rw [if_neg hslash]
        exact iff_of_false (by simp) fun h => hslash h.1

end Mount
end Switchboard.Http
