/-
# Mentions that stand alone

Most people put blanks around a mention.  Then it is a word by itself, and the main statement,
`mention_words_are_dropped`, says that sanitizing leaves the other words as they were.  One search
may leave some mentions to the next, so what carries the proof is `Sheds`: a word may go at some
places and stay at others, and no word changes.  In `Drops.sheds` the word in which a text begins is
kept apart, as it is not known before its end whether it is a mention.
-/
import Switchboard.Proofs.Inbound.Dropped
import Switchboard.Proofs.Text.Words

namespace Switchboard.Inbound

open Text

variable {w s t u : List Char} {l l' : List (List Char)} {id : String} {ids : List String}

/-! ## A word that goes from a row of words -/

/-- Whether a row of words is what is left of another when one word goes at some of its places. -/
structure Sheds (w : List Char) (l l' : List (List Char)) : Prop where
  sublist : l'.Sublist l
  others : ∀ p : List Char → Bool, p w = false → l'.filter p = l.filter p

theorem Sheds.refl (l : List (List Char)) : Sheds w l l := ⟨List.Sublist.refl l, fun _ _ => rfl⟩

theorem Sheds.cons (h : Sheds w l l') : Sheds w (w :: l) l' where
  sublist := h.sublist.cons w
  others p hp := by
    rw [List.filter_cons_of_neg (by simp [hp])]
    exact h.others p hp

theorem Sheds.append_left (h : Sheds w l l') (front : List (List Char)) :
    Sheds w (front ++ l) (front ++ l') where
  sublist := List.Sublist.append_left h.sublist front
  others p hp := by rw [List.filter_append, List.filter_append, h.others p hp]

theorem Sheds.trans {l'' : List (List Char)} (h : Sheds w l l') (h' : Sheds w l' l'') :
    Sheds w l l'' :=
  ⟨h'.sublist.trans h.sublist, fun p hp => (h'.others p hp).trans (h.others p hp)⟩

/-- Whether a word is no part of another word. -/
def Alone (w : List Char) (l : List (List Char)) : Prop := ∀ v ∈ l, w <:+: v → v = w

theorem Alone.of_sublist (h : Alone w l) (hsub : l'.Sublist l) : Alone w l' :=
  fun v hv => h v (hsub.subset hv)

/-! ## One search -/

/-- The word is all of the word in which it is found. -/
theorem eq_nil_of_alone (hw : w ≠ []) (hsolid : ∀ c ∈ w, isSolid c = true)
    (hu : ∀ c ∈ u, isSolid c = true) (h : Alone w (words (u ++ w ++ s))) :
    u = [] ∧ Ends isSolid s := by
  have hne : u ++ w ≠ [] := List.append_ne_nil_of_right_ne_nil u hw
  have hall : ∀ c ∈ u ++ w, isSolid c = true := fun c hc =>
    (List.mem_append.mp hc).elim (hu c) (hsolid c)
  rw [words_solid_append hne hall] at h
  have hword := h _ List.mem_cons_self ⟨u, s.takeWhile isSolid, rfl⟩
  have hlength := congrArg List.length hword
  simp only [List.length_append] at hlength
  refine ⟨List.eq_nil_of_length_eq_zero (by omega), ?_⟩
  have hrun : s.takeWhile isSolid = [] := List.eq_nil_of_length_eq_zero (by omega)
  have hrest : s.dropWhile isSolid = s := by
    have hs := List.takeWhile_append_dropWhile (p := isSolid) (l := s)
    rwa [hrun, List.nil_append] at hs
  rw [← hrest]
  exact ends_dropWhile s

/-- A search sheds words.  Here `u` is the part of the first word that has been passed. -/
theorem Drops.sheds_words (hw : w ≠ []) (hsolid : ∀ c ∈ w, isSolid c = true) (h : Drops w s t)
    (hu : ∀ c ∈ u, isSolid c = true) (halone : Alone w (words (u ++ s))) :
    Sheds w (words (u ++ s)) (words (u ++ t)) := by
  have hnone : ∀ c ∈ ([] : List Char), isSolid c = true := fun _ hc => nomatch hc
  induction h generalizing u with
  | nil => exact .refl _
  | @keep c s t _ ih =>
      cases hc : isSolid c with
      | true =>
          have hlonger : ∀ d ∈ u ++ [c], isSolid d = true := fun d hd =>
            (List.mem_append.mp hd).elim (hu d) fun hd => List.mem_singleton.mp hd ▸ hc
          have hstep := ih hlonger (by simpa using halone)
          simpa using hstep
      | false =>
          have hb := not_isSolid_iff.mp hc
          rw [words_append_blank hb] at halone ⊢
          rw [words_append_blank hb]
          exact (ih hnone (halone.of_sublist (List.sublist_append_right _ _))).append_left _
  | @drop front back filler b s t hb hone _ ih =>
      -- the one blank stands in front of the word, behind it or in its place
      rw [List.append_assoc, List.append_eq_singleton_iff, List.append_eq_singleton_iff] at hone
      rcases hone with ⟨rfl, ⟨rfl, rfl⟩ | ⟨rfl, rfl⟩⟩ | ⟨rfl, hrest⟩
      · rw [List.nil_append, List.append_nil, ← List.append_assoc] at halone ⊢
        obtain ⟨rfl, hborder⟩ := eq_nil_of_alone hw hsolid hu halone
        rw [List.nil_append, words_append hborder, words_of_solid hw hsolid,
          List.singleton_append] at halone ⊢
        rw [List.nil_append, List.singleton_append, words_cons_blank hb]
        exact (ih hnone (halone.of_sublist (List.sublist_cons_self _ _))).cons
      · rw [List.nil_append, List.append_assoc w, List.singleton_append, ← List.append_assoc]
          at halone ⊢
        obtain ⟨rfl, hborder⟩ := eq_nil_of_alone hw hsolid hu halone
        rw [List.nil_append, words_append hborder, words_of_solid hw hsolid,
          List.singleton_append, words_cons_blank hb] at halone ⊢
        exact (ih hnone (halone.of_sublist (List.sublist_cons_self _ _))).cons
      · obtain ⟨rfl, rfl⟩ := List.append_eq_nil_iff.mp hrest
        rw [List.append_nil, List.append_assoc [b], List.singleton_append,
          words_append_blank hb] at halone ⊢
        obtain ⟨-, hborder⟩ := eq_nil_of_alone (u := []) hw hsolid hnone
          (halone.of_sublist (List.sublist_append_right _ _))
        rw [words_append hborder, words_of_solid hw hsolid] at halone ⊢
        have hshed : Sheds w (words u ++ ([w] ++ words s)) (words u ++ words s) :=
          (Sheds.refl (words s)).cons.append_left (words u)
        have hstep := ih hu (words_append hborder u ▸ halone.of_sublist hshed.sublist)
        rw [words_append hborder] at hstep
        exact hshed.trans hstep

/-! ## All searches -/

theorem mention_ne_nil (id : String) : mention id ≠ [] := List.cons_ne_nil _ _

theorem isSolid_of_mem_mention (hblank : ∀ c ∈ id.toList, isBlank c = false) :
    ∀ c ∈ mention id, isSolid c = true := by
  intro c hc
  simp only [mention, List.cons_append, List.mem_cons, List.mem_append, List.not_mem_nil,
    or_false] at hc
  rcases hc with rfl | rfl | hc | rfl
  · decide
  · decide
  · exact isSolid_iff.mpr (hblank c hc)
  · decide

/-- Dropping mentions drops words of the text, and only mentions. -/
theorem words_foldl (hblank : ∀ id ∈ ids, ∀ c ∈ id.toList, isBlank c = false)
    (halone : ∀ id ∈ ids, Alone (mention id) (words s)) :
    (words (ids.foldl dropMentions s)).Sublist (words s) ∧
      ∀ p : List Char → Bool, (∀ id ∈ ids, p (mention id) = false) →
        (words (ids.foldl dropMentions s)).filter p = (words s).filter p := by
  refine preserved_foldl (P := fun t => (words t).Sublist (words s) ∧
    ∀ p : List Char → Bool, (∀ id ∈ ids, p (mention id) = false) →
      (words t).filter p = (words s).filter p) ?_ ⟨List.Sublist.refl _, fun _ _ => rfl⟩
  rintro id hid t u hd ⟨hsub, hkept⟩
  have hsheds : Sheds (mention id) (words t) (words u) :=
    hd.sheds_words (u := []) (mention_ne_nil id) (isSolid_of_mem_mention (hblank id hid))
      (fun _ hc => nomatch hc) ((halone id hid).of_sublist hsub)
  exact ⟨hsheds.sublist.trans hsub, fun p hp => (hsheds.others p (hp id hid)).trans (hkept p hp)⟩

/-- After all searches no mention is among the words. -/
theorem mention_notMem_words (hblank : ∀ id ∈ ids, ∀ c ∈ id.toList, isBlank c = false)
    (hfit : ∀ id ∈ ids, Search.isTooBig id .alone = false)
    (halone : ∀ id ∈ ids, Alone (mention id) (words s)) (hid : id ∈ ids) :
    mention id ∉ words (ids.foldl dropMentions s) := by
  intro hmem
  -- the searches for this user come in the middle, and the text behind them loses only more
  obtain ⟨before, after, hids⟩ := List.append_of_mem hid
  obtain rfl : ids = (before ++ [id]) ++ after := by simpa using hids
  rw [List.foldl_append] at hmem
  have hmiddle : (words ((before ++ [id]).foldl dropMentions s)).Sublist (words s) :=
    (words_foldl (fun i hi => hblank i (List.mem_append_left _ hi))
      fun i hi => halone i (List.mem_append_left _ hi)).1
  have hrest : (words (after.foldl dropMentions ((before ++ [id]).foldl dropMentions s))).Sublist
      (words ((before ++ [id]).foldl dropMentions s)) :=
    (words_foldl (fun i hi => hblank i (List.mem_append_right _ hi))
      fun i hi => (halone i (List.mem_append_right _ hi)).of_sublist hmiddle).1
  have hin : mention id <:+: (before ++ [id]).foldl dropMentions s :=
    (mem_words (hrest.subset hmem)).1
  rw [List.foldl_append, List.foldl_cons, List.foldl_nil] at hin
  exact not_isInfix_dropMentions (hblank id hid) (hfit id hid) _ hin

/-- If every mention of the users stands alone in a text, with a blank or an end of the text on either
side, then sanitizing leaves the words of the text, in order, without the mentions. -/
theorem mention_words_are_dropped {ids : List String}
    (hblank : ∀ id ∈ ids, ∀ c ∈ id.toList, isBlank c = false)
    (hfit : ∀ id ∈ ids, Search.isTooBig id .alone = false) (text : String)
    (halone : ∀ id ∈ ids, StandsAlone (mention id) text.toList) :
    words (sanitize text ids).toList
      = (words text.toList).filter fun w => decide (w ∉ ids.map mention) := by
  have hwords : ∀ id ∈ ids, Alone (mention id) (words text.toList) :=
    fun id hid v hv hin => (halone id hid).eq_of_mem_words hv hin
  have htrim : words (sanitize text ids).toList = words (ids.foldl dropMentions text.toList) := by
    rw [sanitize, String.toList_ofList]
    exact (trims_trim _).words_eq
  have hkept := (words_foldl hblank hwords).2 (fun w => decide (w ∉ ids.map mention))
    fun id hid => by simpa using ⟨id, hid, rfl⟩
  rw [htrim, ← hkept]
  refine (List.filter_eq_self.mpr fun w hw => ?_).symm
  have hnot : w ∉ ids.map mention := by
    intro hmem
    obtain ⟨id, hid, rfl⟩ := List.mem_map.mp hmem
    exact mention_notMem_words hblank hfit hwords hid hw
  exact decide_eq_true hnot

/-- Two users, one of them given twice and one whose id has a bracket in it, mentioned side by side and
before a wide blank. -/
theorem words_between_mentions_are_kept :
    words (sanitize "<@U1> <@a<b>\u3000hey\t<@U1> all" ["U1", "a<b", "U1"]).toList
      = ["hey".toList, "all".toList] := by
  have hshort : ∀ id ∈ ["U1", "a<b", "U1"], id.utf8ByteSize ≤ 3 := by decide
  have hfit : ∀ id ∈ ["U1", "a<b", "U1"], Search.isTooBig id .alone = false := by
    intro id hid
    exact isTooBig_eq_false (by have := hshort id hid; omega) _
  have hall : ∀ id ∈ ["U1", "a<b", "U1"], id.toList.all (fun c => !isBlank c) = true := by decide
  have hblank : ∀ id ∈ ["U1", "a<b", "U1"], ∀ c ∈ id.toList, isBlank c = false := by
    intro id hid c hc
    simpa using List.all_eq_true.mp (hall id hid) c hc
  have halone : ∀ id ∈ ["U1", "a<b", "U1"], StandsAlone (mention id)
      "<@U1> <@a<b>\u3000hey\t<@U1> all".toList := by
    have hone : StandsAlone (mention "U1") "<@U1> <@a<b>\u3000hey\t<@U1> all".toList := by
      decide +kernel
    have hother : StandsAlone (mention "a<b") "<@U1> <@a<b>\u3000hey\t<@U1> all".toList := by
      decide +kernel
    intro id hid
    simp only [List.mem_cons, List.not_mem_nil, or_false] at hid
    rcases hid with rfl | rfl | rfl
    · exact hone
    · exact hother
    · exact hone
  rw [mention_words_are_dropped hblank hfit _ halone]
  decide +kernel

end Switchboard.Inbound
