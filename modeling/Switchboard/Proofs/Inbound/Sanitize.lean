/-
# What sanitizing keeps and drops

The two main statements: `mentions_are_gone`, for every text as to the last user, and for a
separated text as to all of them; and `nothing_else_is_lost`, where `withoutMentions` says in one
pass what a text is without its mentions.  Both go along the searches by `preserved_foldl`: a
separated text stays so, gets no new mention, and keeps what it is without mentions up to blanks.
-/
import Switchboard.Proofs.Inbound.Dropped
import Switchboard.Proofs.Text.Search

namespace Switchboard.Inbound

open Text

variable {s t : List Char} {id : String} {ids : List String}

theorem toList_sanitize (text : String) (ids : List String) :
    (sanitize text ids).toList = trim (ids.foldl dropMentions text.toList) :=
  String.toList_ofList

theorem isInfix_of_isInfix_sanitize {text : String} {w : List Char}
    (h : w <:+: (sanitize text ids).toList) : w <:+: ids.foldl dropMentions text.toList := by
  rw [toList_sanitize] at h
  exact h.trans (trims_trim _).isInfix

/-! ## A text without mentions -/

theorem foldl_dropMentions_of_clean (h : ∀ id ∈ ids, ¬ mention id <:+: s) :
    ids.foldl dropMentions s = s := by
  refine preserved_foldl (P := fun t => t = s) ?_ rfl
  rintro id hid _ u hd rfl
  exact hd.eq_of_not_isInfix (h id hid)

theorem trims_sanitize_of_clean {text : String}
    (h : ∀ id ∈ ids, ¬ mention id <:+: text.toList) :
    Trims text.toList (sanitize text ids).toList := by
  rw [toList_sanitize, foldl_dropMentions_of_clean h]
  exact trims_trim _

/-! ## No mention is left -/

theorem foldl_dropMentions_getLast (hne : ids ≠ []) (s : List Char) :
    ids.foldl dropMentions s
      = dropMentions (ids.dropLast.foldl dropMentions s) (ids.getLast hne) := by
  have h := congrArg (List.foldl dropMentions s) (List.dropLast_concat_getLast hne)
  rw [List.foldl_append, List.foldl_cons, List.foldl_nil] at h
  exact h.symm

theorem separated_foldl (hs : Separated s) : Separated (ids.foldl dropMentions s) :=
  preserved_foldl (P := Separated) (fun _ _ _ _ hd => hd.separated) hs

/-- In a separated text no mention of any user is left: its own searches leave none, and those for the
users behind it bring none back. -/
theorem not_isInfix_foldl (hid : id ∈ ids) (hclose : '>' ∉ id.toList)
    (hblank : ∀ c ∈ id.toList, isBlank c = false)
    (hfit : Search.isTooBig id .alone = false) (hs : Separated s) :
    ¬ mention id <:+: ids.foldl dropMentions s := by
  obtain ⟨before, after, rfl⟩ := List.append_of_mem hid
  rw [List.foldl_append, List.foldl_cons]
  have hmid : Separated (dropMentions (before.foldl dropMentions s) id) :=
    preserved_dropMentions (P := Separated) (fun _ _ hd => hd.separated) (separated_foldl hs)
  have hgone : ¬ mention id <:+: dropMentions (before.foldl dropMentions s) id :=
    not_isInfix_dropMentions hblank hfit _
  refine (preserved_foldl (P := fun t => Separated t ∧ ¬ mention id <:+: t) ?_ ⟨hmid, hgone⟩).2
  rintro _ _ t u hd ⟨ht, hnot⟩
  refine ⟨hd.separated ht, ?_⟩
  intro hin
  exact hnot (hd.isInfix_of_isInfix hclose ht hin)

/-- Mentions are really gone.  After the searches for the last user no mention of that user is left
in any text.  In a separated text no mention of any of the users is left, and sanitizing again
changes nothing. -/
theorem mentions_are_gone {ids : List String} (hne : ids ≠ [])
    (hblank : ∀ id ∈ ids, ∀ c ∈ id.toList, isBlank c = false)
    (hfit : ∀ id ∈ ids, ∀ search, Search.isTooBig id search = false) :
    (∀ text, ¬ mention (ids.getLast hne) <:+: (sanitize text ids).toList) ∧
    ((∀ id ∈ ids, '<' ∉ id.toList ∧ '>' ∉ id.toList) → ∀ text : String, Separated text.toList →
      (∀ id ∈ ids, ¬ mention id <:+: (sanitize text ids).toList) ∧
      sanitize (sanitize text ids) ids = sanitize text ids) := by
  constructor
  · intro text hin
    have hlast := List.getLast_mem hne
    have hleft := isInfix_of_isInfix_sanitize hin
    rw [foldl_dropMentions_getLast hne] at hleft
    exact not_isInfix_dropMentions (hblank _ hlast) (hfit _ hlast .alone) _ hleft
  · intro hplain text hs
    have hclean : ∀ id ∈ ids, ¬ mention id <:+: (sanitize text ids).toList := by
      intro id hid hin
      have hleft := isInfix_of_isInfix_sanitize hin
      exact not_isInfix_foldl hid (hplain id hid).2 (hblank id hid) (hfit id hid .alone) hs hleft
    refine ⟨hclean, String.toList_inj.mp ?_⟩
    -- a text without mentions is only trimmed, and this one is already
    have htrimmed : Trims (sanitize text ids).toList (sanitize text ids).toList := by
      rw [toList_sanitize]
      exact (trims_trim _).self
    rw [← trims_iff.mp (trims_sanitize_of_clean hclean), trims_iff.mp htrimmed]

/-- Deleting the inner mention makes one of the outer, and that goes as well; and two users mentioned
side by side. -/
theorem spliced_mention_is_gone :
    ¬ mention "U2" <:+: (sanitize "<@<@U2> U2>" ["U1", "U2"]).toList ∧
      (∀ id ∈ ["U1", "U2"],
        ¬ mention id <:+: (sanitize "hey<@U1><@U2> you <@U3>" ["U1", "U2"]).toList) ∧
      sanitize "hey<@U1><@U2> you <@U3>" ["U1", "U2"] = "hey you <@U3>" := by
  have hshort : ∀ id ∈ ["U1", "U2"], id.utf8ByteSize = 2 := by decide
  have hfit : ∀ id ∈ ["U1", "U2"], ∀ search, Search.isTooBig id search = false := by
    intro id hid
    exact isTooBig_eq_false (by have := hshort id hid; omega)
  have hsolid : ∀ id ∈ ["U1", "U2"], id.toList.all (fun c => !isBlank c) = true := by decide
  have hblank : ∀ id ∈ ["U1", "U2"], ∀ c ∈ id.toList, isBlank c = false := by
    intro id hid c hc
    simpa using List.all_eq_true.mp (hsolid id hid) c hc
  have hgone := mentions_are_gone (List.cons_ne_nil "U1" ["U2"]) hblank hfit
  have hs : Separated "hey<@U1><@U2> you <@U3>".toList := by decide
  exact ⟨hgone.1 "<@<@U2> U2>", (hgone.2 (by decide) "hey<@U1><@U2> you <@U3>" hs).1,
    by decide +kernel⟩

/-! ## What a text is without mentions -/

/-- The user whose mention a text begins with, if it is one of these. -/
def mentioned? (ids : List String) (s : List Char) : Option String :=
  ids.find? fun id => (mention id).isPrefixOf s

/-- A text with every mention of these users deleted, and nothing else. -/
def withoutMentions (ids : List String) : List Char → List Char
  | [] => []
  | c :: s =>
    match mentioned? ids (c :: s) with
    | some id => withoutMentions ids (s.drop ((mention id).length - 1))
    | none => c :: withoutMentions ids s
  termination_by s => s.length
  decreasing_by all_goals (simp only [List.length_cons, List.length_drop]; omega)

theorem mentioned?_eq_none (h : ∀ id ∈ ids, ¬ mention id <+: s) : mentioned? ids s = none := by
  rw [mentioned?, List.find?_eq_none]
  intro id hid hbegin
  exact h id hid (List.isPrefixOf_iff_prefix.mp hbegin)

/-- A text begins with one mention at most. -/
theorem mention_inj {other : String} {rest rest' : List Char} (hclose : '>' ∉ id.toList)
    (hother : '>' ∉ other.toList) (h : mention id ++ rest = mention other ++ rest') :
    id = other := by
  have hfront : ∀ {name : String}, '>' ∉ name.toList → '>' ∉ '<' :: '@' :: name.toList := by
    intro name hname
    simpa using hname
  have hcut := congrArg (cut '>') h
  simp only [mention, List.append_assoc, List.singleton_append] at hcut
  rw [cut_append (hfront hclose), cut_append (hfront hother)] at hcut
  exact String.toList_inj.mp (by simpa using (Prod.mk.inj hcut).1)

theorem mentioned?_mention (hclose : ∀ id ∈ ids, '>' ∉ id.toList) (hid : id ∈ ids)
    (s : List Char) : mentioned? ids (mention id ++ s) = some id := by
  have hbegin : (mention id).isPrefixOf (mention id ++ s) = true :=
    List.isPrefixOf_iff_prefix.mpr (List.prefix_append _ _)
  rw [mentioned?]
  cases hfind : ids.find? fun other => (mention other).isPrefixOf (mention id ++ s) with
  | none => exact absurd hbegin (List.find?_eq_none.mp hfind id hid)
  | some other =>
      have hother := List.find?_some hfind
      obtain ⟨rest, hrest⟩ := List.isPrefixOf_iff_prefix.mp hother
      have hmem := List.mem_of_find?_eq_some hfind
      rw [mention_inj (hclose other hmem) (hclose id hid) hrest]

theorem withoutMentions_mention (hclose : ∀ id ∈ ids, '>' ∉ id.toList) (hid : id ∈ ids)
    (s : List Char) : withoutMentions ids (mention id ++ s) = withoutMentions ids s := by
  have hcons : mention id ++ s = '<' :: ('@' :: id.toList ++ ['>'] ++ s) := rfl
  have hmentioned := mentioned?_mention hclose hid s
  rw [hcons] at hmentioned ⊢
  have hrest : ('@' :: id.toList ++ ['>'] ++ s).drop ((mention id).length - 1) = s :=
    List.drop_left
  rw [withoutMentions, hmentioned]
  exact congrArg (withoutMentions ids) hrest

theorem withoutMentions_cons {c : Char} (h : ∀ id ∈ ids, ¬ mention id <+: c :: s) :
    withoutMentions ids (c :: s) = c :: withoutMentions ids s := by
  rw [withoutMentions, mentioned?_eq_none h]

theorem withoutMentions_of_clean (h : ∀ id ∈ ids, ¬ mention id <:+: s) :
    withoutMentions ids s = s := by
  induction s with
  | nil => rw [withoutMentions]
  | cons c s ih =>
      rw [withoutMentions_cons fun id hid hbegin => h id hid hbegin.isInfix,
        ih fun id hid hin => h id hid (List.infix_cons hin)]

theorem solid_withoutMentions_append {a : List Char} (ha : ∀ c ∈ a, isBlank c = true) :
    solid (withoutMentions ids (a ++ s)) = solid (withoutMentions ids s) := by
  induction a with
  | nil => rfl
  | cons c a ih =>
      have hblank : isBlank c = true := ha c List.mem_cons_self
      have hnot : ∀ id ∈ ids, ¬ mention id <+: c :: (a ++ s) :=
        fun id _ => not_mention_prefix_of_blank hblank
      have hc : solid [c] = [] := solid_of_blank fun b hb => List.mem_singleton.mp hb ▸ hblank
      rw [List.cons_append, withoutMentions_cons hnot, solid_cons, hc, List.nil_append,
        ih fun c hc => ha c (List.mem_cons_of_mem _ hc)]

/-- Dropping a listed mention changes only blanks in what a text is without mentions. -/
theorem Drops.solid_withoutMentions (hclose : ∀ id ∈ ids, '>' ∉ id.toList) (hid : id ∈ ids)
    (h : Drops (mention id) s t) (hs : Separated s) :
    solid (withoutMentions ids t) = solid (withoutMentions ids s) := by
  -- on the length, since both texts are followed from one mention to what stands behind it
  induction hlen : s.length using Nat.strongRecOn generalizing s t with
  | ind len ih =>
      subst hlen
      cases h with
      | nil => rfl
      | @keep c s t rest =>
          obtain ⟨hopen, hrest⟩ := separated_cons.mp hs
          by_cases hany : ∃ other ∈ ids, mention other <+: c :: s ∨ mention other <+: c :: t
          · obtain ⟨other, hother, hbegin⟩ := hany
            obtain rfl : '<' = c := by
              rcases hbegin with h | h <;> exact (List.cons_prefix_cons.mp h).1
            rcases rest.mention_alike (hclose other hother) (hopen rfl) with
              ⟨s', t', hs', ht', rest'⟩ | ⟨hnot, hnot'⟩
            · rw [hs'] at hs ih ⊢
              rw [ht', withoutMentions_mention hclose hother,
                withoutMentions_mention hclose hother]
              exact ih s'.length (by simp [mention]; omega) rest' hs.of_append rfl
            · exact absurd hbegin (not_or.mpr ⟨hnot, hnot'⟩)
          · have hnot : ∀ other ∈ ids, ¬ mention other <+: c :: s := by
              intro other hother hbegin
              exact hany ⟨other, hother, .inl hbegin⟩
            have hnot' : ∀ other ∈ ids, ¬ mention other <+: c :: t := by
              intro other hother hbegin
              exact hany ⟨other, hother, .inr hbegin⟩
            rw [withoutMentions_cons hnot, withoutMentions_cons hnot', solid_cons,
              ih s.length (Nat.lt_succ_self _) rest hrest rfl, ← solid_cons]
      | @drop front back filler b s t hb hone rest =>
          obtain ⟨hfront, hback, hfiller⟩ := blank_of_one hb hone
          simp only [List.append_assoc]
          rw [solid_withoutMentions_append hfront, withoutMentions_mention hclose hid,
            solid_withoutMentions_append hback, solid_withoutMentions_append hfiller]
          refine ih s.length ?_ rest hs.of_append rfl
          simp only [mention, List.length_append, List.length_cons]
          omega

theorem solid_withoutMentions_foldl (hclose : ∀ id ∈ ids, '>' ∉ id.toList) (hs : Separated s) :
    solid (withoutMentions ids (ids.foldl dropMentions s)) = solid (withoutMentions ids s) := by
  refine (preserved_foldl (P := fun t => Separated t ∧
    solid (withoutMentions ids t) = solid (withoutMentions ids s)) ?_ ⟨hs, rfl⟩).2
  rintro id hid t u hd ⟨ht, hkept⟩
  exact ⟨hd.separated ht, (hd.solid_withoutMentions hclose hid ht).trans hkept⟩

/-- Sanitizing loses nothing but mentions and blanks. -/
theorem nothing_else_is_lost :
    (∀ ids : List String, (∀ id ∈ ids, ∀ c ∈ id.toList, isBlank c = false ∧ c ≠ '<' ∧ c ≠ '>') →
      (∀ id ∈ ids, ∀ search, Search.isTooBig id search = false) →
      ∀ text : String, Separated text.toList →
        solid (sanitize text ids).toList = solid (withoutMentions ids text.toList)) ∧
    (∀ (ids : List String) (text : String), (∀ id ∈ ids, ¬ mention id <:+: text.toList) →
      Trims text.toList (sanitize text ids).toList) := by
  constructor
  · intro ids hplain hfit text hs
    have hclose : ∀ id ∈ ids, '>' ∉ id.toList := by
      intro id hid hm
      exact (hplain id hid '>' hm).2.2 rfl
    have hclean : ∀ id ∈ ids, ¬ mention id <:+: ids.foldl dropMentions text.toList := by
      intro id hid
      have hblank : ∀ c ∈ id.toList, isBlank c = false := fun c hc => (hplain id hid c hc).1
      exact not_isInfix_foldl hid (hclose id hid) hblank (hfit id hid .alone) hs
    rw [toList_sanitize, (trims_trim _).solid_eq, ← withoutMentions_of_clean hclean]
    exact solid_withoutMentions_foldl hclose hs
  · intro ids text h
    exact trims_sanitize_of_clean h

/-- The words around two mentions; and an id that read as a pattern would be found in another's
mention. -/
theorem words_around_mentions_are_kept :
    solid (sanitize "hey<@U1><@U2> you <@U3>" ["U1", "U2"]).toList = "heyyou<@U3>".toList ∧
      Trims " <@Uaa> a  b ".toList (sanitize " <@Uaa> a  b " ["Ua*"]).toList := by
  have hshort : ∀ id ∈ ["U1", "U2"], id.utf8ByteSize = 2 := by decide
  have hfit : ∀ id ∈ ["U1", "U2"], ∀ search, Search.isTooBig id search = false := by
    intro id hid
    exact isTooBig_eq_false (by have := hshort id hid; omega)
  have hall : ∀ id ∈ ["U1", "U2"],
      id.toList.all (fun c => !isBlank c && (c != '<' && c != '>')) = true := by decide
  have hplain : ∀ id ∈ ["U1", "U2"], ∀ c ∈ id.toList,
      isBlank c = false ∧ c ≠ '<' ∧ c ≠ '>' := by
    intro id hid c hc
    simpa using List.all_eq_true.mp (hall id hid) c hc
  have hs : Separated "hey<@U1><@U2> you <@U3>".toList := by decide
  have hkept : solid (sanitize "hey<@U1><@U2> you <@U3>" ["U1", "U2"]).toList =
      solid (withoutMentions ["U1", "U2"] "hey<@U1><@U2> you <@U3>".toList) :=
    nothing_else_is_lost.1 _ hplain hfit _ hs
  have hclean : ∀ id ∈ ["Ua*"], ¬ mention id <:+: " <@Uaa> a  b ".toList := by decide +kernel
  exact ⟨hkept.trans (by decide +kernel), nothing_else_is_lost.2 _ _ hclean⟩

end Switchboard.Inbound
