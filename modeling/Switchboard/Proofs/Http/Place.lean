/-
# Places

A path whose segments all stand for themselves names a place (`MountsAt`), however many slashes are at
its end.  What stands below a place is known by two paths, and by no others (`endpoint?_ofPlace`): the
place itself, which is the root for the empty place, and the webhook one step below.
-/
import Switchboard.Proofs.Http.Mount
import Switchboard.Proofs.Text.Search

namespace Switchboard.Http

/-- A segment that stands for itself only. -/
structure PlainSegment (s : List Char) : Prop where
  ne_nil : s ≠ []
  noSlash : '/' ∉ s
  noColon : ':' ∉ s
  noStar : '*' ∉ s

/-- A row of plain segments, each behind a slash. -/
def IsPlace (place : List Char) : Prop :=
  ∃ segments : List (List Char), place = segments.flatMap (List.cons '/') ∧
    ∀ s ∈ segments, PlainSegment s

/-- Whether a path names a place: it is the place, with slashes at its end or without. -/
structure MountsAt (path : String) (place : List Char) : Prop where
  isPlace : IsPlace place
  spelled : ∃ n, path.toList = place ++ List.replicate n '/'

/-- The path of the health probe below a place. -/
def healthPath (place : List Char) : List Char := if place = [] then ['/'] else place

/-- The path of the webhook below a place. -/
def webhookPath (place : List Char) : List Char := place ++ "/webhook".toList

theorem healthPath_ne_webhookPath (place : List Char) : healthPath place ≠ webhookPath place := by
  unfold healthPath webhookPath
  split
  · rename_i h
    rw [h]
    decide
  · exact fun h => absurd (List.append_right_eq_self.mp h.symm) (by decide)

namespace IsPlace

variable {place : List Char}

theorem head?_eq (h : IsPlace place) (hne : place ≠ []) : place.head? = some '/' := by
  obtain ⟨segments, rfl, -⟩ := h
  cases segments with
  | nil => exact absurd rfl hne
  | cons s rest => rfl

theorem notMem (h : IsPlace place) : ':' ∉ place ∧ '*' ∉ place := by
  obtain ⟨segments, rfl, hplain⟩ := h
  simp only [List.mem_flatMap, List.mem_cons, not_exists, not_and, not_or]
  exact ⟨fun s hs => ⟨by decide, (hplain s hs).noColon⟩,
    fun s hs => ⟨by decide, (hplain s hs).noStar⟩⟩

/-- A place ends with its last segment, and that holds no slash. -/
theorem not_suffix (h : IsPlace place) : ¬ ['/'] <:+ place := by
  obtain ⟨segments, rfl, hplain⟩ := h
  rcases List.eq_nil_or_concat segments with rfl | ⟨front, s, rfl⟩
  · intro hsuffix
    cases List.suffix_nil.mp hsuffix
  · have hs : PlainSegment s := hplain s (by simp)
    rw [List.concat_eq_append, List.flatMap_append, List.flatMap_singleton]
    intro hsuffix
    obtain ⟨c, hc⟩ : ∃ c, s.getLast? = some c := Option.ne_none_iff_exists'.mp
      (mt List.getLast?_eq_none_iff.mp hs.ne_nil)
    have hlast : (front.flatMap (List.cons '/') ++ '/' :: s).getLast? = some c := by
      rw [List.getLast?_append, List.getLast?_cons, hc]
      rfl
    obtain ⟨before, hbefore⟩ := hsuffix
    rw [← hbefore, List.getLast?_concat, Option.some.injEq] at hlast
    exact hs.noSlash (hlast ▸ List.mem_of_getLast? hc)

end IsPlace

namespace Mount

/-- The mount point at a place. -/
def ofPlace (place : List Char) : Mount := if place = [] then root else ⟨[.literal place]⟩

/-- Text without marks is a single part. -/
theorem partsFrom?_of_notMem {s : List Char} (h : ':' ∉ s ∧ '*' ∉ s) (text : List Char)
    (done : List Part) :
    partsFrom? text done s = some ((.literal (text.reverse ++ s)) :: done).reverse := by
  induction s generalizing text with
  | nil => rw [partsFrom?, List.append_nil]
  | cons c s ih =>
      simp only [List.mem_cons, not_or] at h
      rw [partsFrom?_plain (Ne.symm h.2.1) (Ne.symm h.1.1), ih ⟨h.1.2, h.2.2⟩,
        List.reverse_cons (a := c), List.append_assoc, List.singleton_append]

theorem ofPath?_of_mountsAt {path : String} {place : List Char} (h : MountsAt path place) :
    ofPath? path = some (ofPlace place) := by
  obtain ⟨n, hpath⟩ := h.spelled
  rw [ofPath?, hpath, Text.dropRight_append_replicate h.isPlace.not_suffix]
  cases place with
  | nil => rfl
  | cons c rest =>
      have hparts : partsFrom? [] [] (c :: rest) = some [.literal (c :: rest)] :=
        partsFrom?_of_notMem h.isPlace.notMem [] []
      have hfew : ¬ maxWild < [Part.literal (c :: rest)].countP isWild := Nat.not_lt_zero maxWild
      simp only [if_pos (h.isPlace.head?_eq (List.cons_ne_nil c rest)), hparts, if_neg hfew]
      rfl

theorem fits_literal_iff {text path : List Char} {rest : List Part} :
    fits (.literal text :: rest) path = true ↔ ∃ below, path = text ++ below ∧
      fits rest below = true := by
  rw [fits, Bool.and_eq_true, List.isPrefixOf_iff_prefix]
  constructor
  · rintro ⟨⟨below, rfl⟩, h⟩
    rw [List.drop_left] at h
    exact ⟨below, rfl, h⟩
  · rintro ⟨below, rfl, h⟩
    rw [List.drop_left]
    exact ⟨List.prefix_append text below, h⟩

theorem fits_nil_iff {path : List Char} : fits [] path = true ↔ path = [] :=
  List.isEmpty_iff

/-- What stands at a path below a place. -/
theorem endpoint?_ofPlace (place path : List Char) :
    (ofPlace place).endpoint? path =
      if path = healthPath place then some .health
      else if path = webhookPath place then some .webhook else none := by
  by_cases hplace : place = []
  · subst hplace
    rfl
  · have hhealth : fits [.literal place] path = true ↔ path = place := by
      simp [fits_literal_iff, fits_nil_iff]
    have hwebhook : fits ([.literal place] ++ [.literal "/webhook".toList]) path = true ↔
        path = webhookPath place := by
      simp [fits_literal_iff, fits_nil_iff, webhookPath]
    simp only [ofPlace, endpoint?, healthPath, if_neg hplace, hhealth, hwebhook]
    rfl

end Mount
end Switchboard.Http
