/-
# Tags of attachments

A tag shows the first twenty characters of its text, with underscores for spaces.  Characters are
counted, not bytes, and where the text is put together from titles they are counted across these.  As
a space gives way to one character, it does not matter whether the text is cut off before or after the
replacement (`take_underscored`); so what stands behind the first twenty characters does not matter
either, and a tag is empty only if there is nothing to make it from.  `tag_keeps_first_characters`
says all of this together.
-/
import Switchboard.Inbound.Mention
import Switchboard.Outbound.Attachment
import Switchboard.Proofs.Text.Replace

namespace Switchboard.Outbound

variable {message : String} {bs : List Button}

/-! ## Texts of tags -/

/-- The text that a tag is made from: the message, or the titles in a row if the message is empty. -/
def tagText (message : String) (bs : List Button) : String :=
  if message = "" then String.join (bs.map Button.title) else message

theorem callbackSource_eq (message : String) (bs : List Button) :
    callbackSource message bs = (tagText message bs).toList := by
  rw [callbackSource, tagText]
  by_cases h : message = ""
  · rw [if_pos (String.isEmpty_iff.mpr h), if_pos h, String.toList_join, List.flatMap_map]
  · rw [if_neg (mt String.isEmpty_iff.mp h), if_neg h]

theorem tagText_eq_empty_iff :
    tagText message bs = "" ↔ message = "" ∧ ∀ b ∈ bs, b.title = "" := by
  by_cases h : message = ""
  · rw [tagText, if_pos h, ← String.toList_eq_nil_iff, String.toList_join, List.flatMap_eq_nil_iff]
    simp [h]
  · simp [tagText, h]

/-! ## Underscores for spaces -/

/-- What a tag shows for a character. -/
def tagChar (c : Char) : Char := if c = ' ' then '_' else c

/-- A text in which each space has been found and replaced by an underscore. -/
def underscored (s : List Char) : List Char :=
  Text.replaceHits (Inbound.word [' ']) ['_'] s

theorem tagChar_ne_space (c : Char) : tagChar c ≠ ' ' := by
  unfold tagChar
  split
  · decide
  · assumption

theorem word_singleton (a c : Char) (s : List Char) :
    Inbound.word [a] (c :: s) = if c = a then some 1 else none := by
  have hfront : [a].isPrefixOf (c :: s) = true ↔ c = a := by
    rw [List.isPrefixOf_iff_prefix, List.cons_prefix_cons, and_iff_left List.nil_prefix, eq_comm]
  simp only [Inbound.word, hfront, List.length_singleton]

theorem underscored_eq_map (s : List Char) : underscored s = s.map tagChar :=
  Text.replaceHits_eq_map (word_singleton ' ') s

/-- Each space gives way to one character, so the text can as well be cut off first. -/
theorem take_underscored (n : Nat) (s : List Char) :
    (underscored s).take n = underscored (s.take n) := by
  rw [underscored_eq_map, underscored_eq_map, List.map_take]

/-! ## Tags -/

theorem toList_callbackId (message : String) (bs : List Button) :
    (callbackId message bs).toList = ((tagText message bs).toList.take 20).map tagChar := by
  rw [callbackId, String.toList_ofList, callbackSource_eq, List.map_take]
  rfl

theorem underscored_take_tagText (message : String) (bs : List Button) :
    underscored ((tagText message bs).toList.take 20) = (callbackId message bs).toList := by
  rw [underscored_eq_map, toList_callbackId]

theorem length_callbackId (message : String) (bs : List Button) :
    (callbackId message bs).length = min 20 (tagText message bs).length := by
  rw [← String.length_toList, toList_callbackId, List.length_map, List.length_take,
    String.length_toList]

theorem space_notMem_callbackId (message : String) (bs : List Button) :
    ' ' ∉ (callbackId message bs).toList := by
  rw [toList_callbackId]
  intro hspace
  obtain ⟨c, -, hc⟩ := List.mem_map.mp hspace
  exact tagChar_ne_space c hc

theorem getElem?_callbackId (message : String) (bs : List Button) {i : Nat} (hi : i < 20) :
    (callbackId message bs).toList[i]? = (tagText message bs).toList[i]?.map tagChar := by
  rw [toList_callbackId, List.getElem?_map, List.getElem?_take_of_lt hi]

/-- Texts with the same beginning have the same tag. -/
theorem callbackId_congr {message' : String} {bs' : List Button}
    (h : (tagText message' bs').toList.take 20 = (tagText message bs).toList.take 20) :
    callbackId message' bs' = callbackId message bs := by
  rw [← String.toList_inj, toList_callbackId, toList_callbackId, h]

theorem callbackId_eq_empty_iff :
    callbackId message bs = "" ↔ message = "" ∧ ∀ b ∈ bs, b.title = "" := by
  rw [← tagText_eq_empty_iff, ← String.toList_eq_nil_iff, toList_callbackId, List.map_eq_nil_iff,
    List.take_eq_nil_iff, String.toList_eq_nil_iff]
  exact or_iff_right (by decide)

/-- The tag has the first twenty characters of its text, or all if there are fewer; at each place
stands the character itself, or an underscore if it is a space.  The replacement may come before the
cut or behind it, only the first twenty characters matter, and there is always a tag unless the message
and all titles are empty. -/
theorem tag_keeps_first_characters (message : String) (bs : List Button) :
    let s := tagText message bs
    let id := callbackId message bs
    id.length = min 20 s.length ∧
    ' ' ∉ id.toList ∧
    (∀ i < 20, id.toList[i]? = s.toList[i]?.map fun c => if c = ' ' then '_' else c) ∧
    (underscored s.toList).take 20 = id.toList ∧
    underscored (s.toList.take 20) = id.toList ∧
    (∀ message' bs', (tagText message' bs').toList.take 20 = s.toList.take 20 →
      callbackId message' bs' = id) ∧
    (id = "" ↔ message = "" ∧ ∀ b ∈ bs, b.title = "") := by
  intro s id
  have hcut : underscored (s.toList.take 20) = id.toList := underscored_take_tagText message bs
  refine ⟨length_callbackId message bs, space_notMem_callbackId message bs, ?_, ?_, hcut, ?_,
    callbackId_eq_empty_iff⟩
  · intro i hi
    exact getElem?_callbackId message bs hi
  · rw [take_underscored, hcut]
  · intro message' bs' hsame
    exact callbackId_congr hsame

/-- The twentieth character stands in the third title, and what follows it there does not show. -/
theorem tag_reaches_over_titles :
    let bs : List Button :=
      [⟨"Déjà vu", "/again"⟩, ⟨"façade", "/front"⟩, ⟨"à la carte, please", "/menu"⟩]
    let other := "Déjà vufaçadeà la campagne"
    (tagText other []).toList.take 20 = (tagText "" bs).toList.take 20 ∧
      callbackId other [] = callbackId "" bs ∧ callbackId "" bs = "Déjà_vufaçadeà_la_ca" := by
  intro bs other
  have hsame : (tagText other []).toList.take 20 = (tagText "" bs).toList.take 20 := by decide
  obtain ⟨-, -, -, -, -, htag, -⟩ := tag_keeps_first_characters "" bs
  exact ⟨hsame, htag other [] hsame, by decide⟩

end Switchboard.Outbound
