/-
# What a log shows

A masked text has no telling word in it, in whatever letter case, and shows no more of the text than its
first characters: `mask_tells_nothing`.  Cutting a text off could change how the letters before the
cut are lower-cased, and what is put behind the cut could complete a word.  Neither makes a telling
word: the words have no sigma in them, and the mark begins with a character that none of them has
(`not_tells_append`).
-/
import Switchboard.Inbound.Masking
import Switchboard.Proofs.Text.Casing
import Switchboard.Proofs.Text.Search

namespace Switchboard.Inbound

open Text

/-- Whether a telling word occurs in the lower-case form of a text. -/
def Tells (s : List Char) : Prop := ∃ w ∈ sensitiveWords, w.toList <:+: lower s

/-- What marks a text that has been cut off. -/
def cutMark : List Char := "...[truncated]".toList

theorem isSensitive_iff {text : String} : isSensitive text = true ↔ Tells text.toList := by
  simp only [isSensitive, Tells, List.any_eq_true, holds_iff]

/-! ## Telling words -/

theorem notMem_sensitiveWords {w : String} (h : w ∈ sensitiveWords) :
    'σ' ∉ w.toList ∧ 'ς' ∉ w.toList ∧ '.' ∉ w.toList := by
  revert w
  decide

/-- A text tells something just if a telling word occurs in its characters' lower-case forms. -/
theorem tells_iff {s : List Char} : Tells s ↔ ∃ w ∈ sensitiveWords, w.toList <:+: plainLower s := by
  constructor
  · rintro ⟨w, hw, hin⟩
    obtain ⟨hmedial, hfinal, -⟩ := notMem_sensitiveWords hw
    exact ⟨w, hw, (isInfix_lower_iff hmedial hfinal s).mp hin⟩
  · rintro ⟨w, hw, hin⟩
    obtain ⟨hmedial, hfinal, -⟩ := notMem_sensitiveWords hw
    exact ⟨w, hw, (isInfix_lower_iff hmedial hfinal s).mpr hin⟩

/-- A text whose beginning tells something tells it. -/
theorem Tells.append {s : List Char} (h : Tells s) (t : List Char) : Tells (s ++ t) := by
  obtain ⟨w, hw, hin⟩ := tells_iff.mp h
  refine tells_iff.mpr ⟨w, hw, ?_⟩
  rw [plainLower_append]
  exact hin.trans (List.prefix_append _ _).isInfix

/-- Texts that tell nothing do not tell anything with a point between them. -/
theorem not_tells_append {s t : List Char} (hs : ¬ Tells s) (ht : ¬ Tells t) :
    ¬ Tells (s ++ '.' :: t) := by
  intro h
  obtain ⟨w, hw, hin⟩ := tells_iff.mp h
  have hcut : plainLower (s ++ '.' :: t) = plainLower s ++ '.' :: plainLower t :=
    plainLower_append s ('.' :: t)
  rw [hcut] at hin
  rcases (isInfix_append_cons_iff (notMem_sensitiveWords hw).2.2 _ _).mp hin with hin | hin
  · exact hs (tells_iff.mpr ⟨w, hw, hin⟩)
  · exact ht (tells_iff.mpr ⟨w, hw, hin⟩)

instance (s : List Char) : Decidable (Tells s) :=
  inferInstanceAs (Decidable (∃ w ∈ sensitiveWords, w.toList <:+: lower s))

theorem not_tells_redacted : ¬ Tells redacted.toList := by
  decide +kernel

theorem not_tells_cutMark : ¬ Tells cutMark.tail := by
  decide +kernel

/-! ## Masked texts -/

/-- What a text is shown as: a note in its place if it tells something, the text itself if it is short,
and its beginning with a mark behind it if it is long. -/
inductive Masked (text : String) : String → Prop where
  | hidden (tells : Tells text.toList) : Masked text redacted
  | whole (silent : ¬ Tells text.toList) (short : text.toList.length ≤ 50) : Masked text text
  | cut (silent : ¬ Tells text.toList) (long : 50 < text.toList.length) :
      Masked text (String.ofList (text.toList.take 50 ++ cutMark))

theorem mask_of_not_tells {text : String} (h : ¬ Tells text.toList) :
    mask text = if 50 < text.toList.length then
      String.ofList (text.toList.take 50 ++ cutMark) else text := by
  rw [String.ofList_append]
  exact if_neg fun hs => h (isSensitive_iff.mp hs)

theorem Masked.eq {text masked : String} (h : Masked text masked) : mask text = masked := by
  cases h with
  | hidden tells => exact if_pos (isSensitive_iff.mpr tells)
  | whole silent short => rw [mask_of_not_tells silent, if_neg (Nat.not_lt.mpr short)]
  | cut silent long => rw [mask_of_not_tells silent, if_pos long]

theorem exists_masked (text : String) : ∃ masked, Masked text masked := by
  by_cases h : Tells text.toList
  · exact ⟨_, .hidden h⟩
  · rcases Nat.lt_or_ge 50 text.toList.length with hlong | hshort
    · exact ⟨_, .cut h hlong⟩
    · exact ⟨_, .whole h hshort⟩

/-- A text is masked in one of the three ways. -/
theorem masked_iff {text masked : String} : Masked text masked ↔ mask text = masked := by
  constructor
  · exact Masked.eq
  · rintro rfl
    obtain ⟨masked, h⟩ := exists_masked text
    rwa [h.eq]

namespace Masked

variable {text masked : String} (h : Masked text masked)
include h

theorem not_tells : ¬ Tells masked.toList := by
  cases h with
  | hidden tells => exact not_tells_redacted
  | whole silent short => exact silent
  | cut silent long =>
      rw [String.toList_ofList]
      refine not_tells_append (fun hhead => silent ?_) not_tells_cutMark
      have htells := hhead.append (text.toList.drop 50)
      rwa [List.take_append_drop] at htells

theorem length_le : masked.toList.length ≤ 64 := by
  cases h with
  | hidden tells => decide
  | whole silent short => omega
  | cut silent long =>
      have hmark : cutMark.length = 14 := rfl
      rw [String.toList_ofList, List.length_append, hmark]
      exact Nat.add_le_add_right (List.length_take_le 50 _) 14

/-- All that is shown of a text stands at its beginning, and what stands behind it is one of three
notes. -/
theorem eq_take_append : ∃ n ≤ 50, ∃ note ∈ ["", "...[truncated]", redacted],
    masked.toList = text.toList.take n ++ note.toList := by
  cases h with
  | hidden tells => exact ⟨0, by decide, redacted, by simp, rfl⟩
  | whole silent short =>
      refine ⟨50, Nat.le_refl 50, "", by simp, ?_⟩
      rw [List.take_of_length_le short]
      exact (List.append_nil _).symm
  | cut silent long => exact ⟨50, Nat.le_refl 50, "...[truncated]", by simp, String.toList_ofList⟩

end Masked

/-- A masked text has no telling word in its lower-case form.  It has at most 64 characters, and what it
shows of the text are at most its first 50.  A text of at most 50 characters that tells nothing is
shown as it is.  Two longer ones that begin alike are masked alike, and so are two texts that tell
something. -/
theorem mask_tells_nothing (text : String) :
    ¬ Tells (mask text).toList ∧
    (mask text).toList.length ≤ 64 ∧
    (∃ n ≤ 50, ∃ note ∈ ["", "...[truncated]", redacted],
      (mask text).toList = text.toList.take n ++ note.toList) ∧
    (¬ Tells text.toList → text.toList.length ≤ 50 → mask text = text) ∧
    ∀ other : String,
      (¬ Tells text.toList → ¬ Tells other.toList →
        50 < text.toList.length → 50 < other.toList.length →
        text.toList.take 50 = other.toList.take 50 → mask text = mask other) ∧
      (Tells text.toList → Tells other.toList → mask text = mask other) := by
  have hmasked : Masked text (mask text) := masked_iff.mpr rfl
  refine ⟨hmasked.not_tells, hmasked.length_le, hmasked.eq_take_append, ?_, ?_⟩
  · intro silent short
    exact (Masked.whole silent short).eq
  · intro other
    constructor
    · intro silent silent' long long' hbegin
      rw [(Masked.cut silent long).eq, (Masked.cut silent' long').eq, hbegin]
    · intro tells tells'
      rw [(Masked.hidden tells).eq, (Masked.hidden tells').eq]

end Switchboard.Inbound
