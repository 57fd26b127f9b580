/-
# What dropping a mention does to a text

`Drops` says all that one search may do: a character stays, or the mention goes together with one
blank before it or behind it, or gives way to one.  `drops_apply` opens the searches; what follows
is read off `Drops`.

A text is `Separated` when any two opening brackets have a closing one between them.  Behind an
opening bracket nothing is dropped before the closing one (`Drops.mention_alike`), so a search makes
no mention that was not there (`Drops.isInfix_of_isInfix`).
-/
import Switchboard.Inbound.Mention
import Switchboard.Proofs.Text.Replace
import Switchboard.Proofs.Text.Trim

namespace Switchboard.Inbound

open Text

variable {w s t : List Char} {id : String} {ids : List String}

/-! ## The relation -/

/-- What a search for a word may leave of a text.  Exactly one blank goes with the word or comes in
its place. -/
inductive Drops (w : List Char) : List Char → List Char → Prop where
  | nil : Drops w [] []
  | keep (c : Char) {s t : List Char} (rest : Drops w s t) : Drops w (c :: s) (c :: t)
  | drop (front back filler : List Char) {b : Char} {s t : List Char} (hb : isBlank b = true)
      (hone : front ++ back ++ filler = [b]) (rest : Drops w s t) :
      Drops w (front ++ w ++ back ++ s) (filler ++ t)

theorem Drops.refl : ∀ s, Drops w s s
  | [] => .nil
  | c :: s => .keep c (Drops.refl s)

theorem Drops.eq_of_not_isInfix (h : Drops w s t) (hs : ¬ w <:+: s) : t = s := by
  induction h with
  | nil => rfl
  | keep c _ ih => rw [ih fun hin => hs (List.infix_cons hin)]
  | @drop front back filler _ s _ _ _ _ _ => exact absurd ⟨front, back ++ s, by simp⟩ hs

/-! ## The searches -/

theorem word_eq_some_iff {n : Nat} :
    word w s = some n ↔ ∃ rest, s = w ++ rest ∧ n = w.length := by
  rw [word, Option.ite_none_right_eq_some, List.isPrefixOf_iff_prefix]
  constructor
  · rintro ⟨⟨rest, rfl⟩, hn⟩
    exact ⟨rest, rfl, (Option.some.inj hn).symm⟩
  · rintro ⟨rest, rfl, rfl⟩
    exact ⟨List.prefix_append w rest, rfl⟩

theorem wordThenBlank_eq_some_iff {n : Nat} :
    wordThenBlank w s = some n ↔
      ∃ b rest, isBlank b = true ∧ s = w ++ b :: rest ∧ n = w.length + 1 := by
  rw [wordThenBlank, Option.ite_none_right_eq_some, List.isPrefixOf_iff_prefix]
  constructor
  · rintro ⟨⟨rest, rfl⟩, hn⟩
    rw [List.drop_left] at hn
    cases rest with
    | nil => cases hn
    | cons b rest =>
        have hb := Option.ite_none_right_eq_some.mp hn
        exact ⟨b, rest, hb.1, rfl, (Option.some.inj hb.2).symm⟩
  · rintro ⟨b, rest, hb, rfl, rfl⟩
    rw [List.drop_left]
    exact ⟨List.prefix_append w _, Option.ite_none_right_eq_some.mpr ⟨hb, rfl⟩⟩

theorem blankThenWord_eq_some_iff {n : Nat} :
    blankThenWord w s = some n ↔
      ∃ b rest, isBlank b = true ∧ s = b :: w ++ rest ∧ n = w.length + 1 := by
  cases s with
  | nil => simp [blankThenWord]
  | cons b rest =>
      rw [blankThenWord, Option.ite_none_right_eq_some, Bool.and_eq_true,
        List.isPrefixOf_iff_prefix]
      constructor
      · rintro ⟨⟨hb, rest, rfl⟩, hn⟩
        exact ⟨b, rest, hb, rfl, (Option.some.inj hn).symm⟩
      · rintro ⟨b, rest, hb, hs, rfl⟩
        obtain ⟨rfl, rfl⟩ := List.cons.inj hs
        exact ⟨⟨hb, List.prefix_append w rest⟩, rfl⟩

/-- Whether each hit of a matcher is a word with a blank beside it, or one that the filler makes
up for. -/
def Finds (w filler : List Char) (hit : Matcher) : Prop :=
  ∀ s n, hit s = some n → ∃ front back rest b, s = front ++ w ++ back ++ rest ∧
    n = (front ++ w ++ back).length ∧ isBlank b = true ∧ front ++ back ++ filler = [b]

theorem finds_matcher (w : List Char) (search : Search) :
    Finds w search.filler (search.matcher w) := by
  intro s n h
  cases search with
  | beforeBlank =>
      obtain ⟨b, rest, hb, rfl, rfl⟩ := wordThenBlank_eq_some_iff.mp h
      exact ⟨[], [b], rest, b, by simp, by simp, hb, rfl⟩
  | behindBlank =>
      obtain ⟨b, rest, hb, rfl, rfl⟩ := blankThenWord_eq_some_iff.mp h
      exact ⟨[b], [], rest, b, by simp, by simp, hb, rfl⟩
  | alone =>
      obtain ⟨rest, rfl, rfl⟩ := word_eq_some_iff.mp h
      exact ⟨[], [], rest, ' ', by simp, by simp, by decide, rfl⟩

theorem drops_replaceHits {filler : List Char} {hit : Matcher} (hw : w ≠ [])
    (h : Finds w filler hit) (s : List Char) : Drops w s (replaceHits hit filler s) := by
  refine replaceHits_induction (motive := Drops w) ?_ ?_ ?_ s
  · exact .nil
  · intro c s _ ih
    exact .keep c ih
  · intro c s n hn ih
    obtain ⟨front, back, rest, b, hs, rfl, hb, hone⟩ := h _ _ hn
    have hpos : 0 < (front ++ w ++ back).length := by
      have := List.length_pos_iff.mpr hw
      simp only [List.length_append]
      omega
    have hrest : s.drop ((front ++ w ++ back).length - 1) = rest := by
      rw [← List.drop_cons (a := c) hpos, hs, List.drop_left]
    rw [hrest] at ih ⊢
    rw [hs]
    exact .drop front back filler hb hone ih

/-- No search for an id of ordinary length is left out; the bound is the longest one that leaves each
search its room. -/
theorem isTooBig_eq_false (h : id.utf8ByteSize ≤ 327651) (search : Search) :
    search.isTooBig id = false := by
  have hroom : search.ownRoom ≤ 824 := by cases search <;> decide
  have hbyte : Search.byteRoom * (id.utf8ByteSize + "<@>".length)
      = 32 * (id.utf8ByteSize + 3) := rfl
  simp only [Search.isTooBig, Search.maxRoom, decide_eq_false_iff_not, hbyte]
  omega

theorem drops_apply (id : String) (s : List Char) (search : Search) :
    Drops (mention id) s (search.apply id s) := by
  rw [Search.apply]
  split
  · exact Drops.refl s
  · exact drops_replaceHits (by simp [mention]) (finds_matcher _ search) s

/-! ## Brackets -/

/-- Whether any two opening brackets have a closing one between them. -/
def Separated (s : List Char) : Prop := ∀ a b c, s = a ++ '<' :: b ++ '<' :: c → '>' ∈ b

/-- Whether a closing bracket stands before any opening one. -/
def ClosesFirst (s : List Char) : Prop := ∀ b c, s = b ++ '<' :: c → '>' ∈ b

theorem closesFirst_nil : ClosesFirst [] := by
  intro b c h
  simp at h

theorem closesFirst_cons {c : Char} :
    ClosesFirst (c :: s) ↔ c = '>' ∨ c ≠ '<' ∧ ClosesFirst s := by
  constructor
  · intro h
    by_cases hc : c = '>'
    · exact .inl hc
    · refine .inr ⟨?_, ?_⟩
      · rintro rfl
        exact absurd (h [] s rfl) List.not_mem_nil
      · intro b rest hs
        have hin := h (c :: b) rest (by rw [hs]; rfl)
        exact (List.mem_cons.mp hin).resolve_left fun he => hc he.symm
  · rintro (rfl | ⟨hc, h⟩) b rest hs
    · cases b with
      | nil => cases hs
      | cons a b => exact List.mem_cons.mpr (.inl (List.cons.inj hs).1)
    · cases b with
      | nil => exact absurd (List.cons.inj hs).1 hc
      | cons a b => exact List.mem_cons_of_mem a (h b rest (List.cons.inj hs).2)

theorem separated_nil : Separated [] := by
  intro a b c h
  simp at h

theorem separated_cons {c : Char} :
    Separated (c :: s) ↔ (c = '<' → ClosesFirst s) ∧ Separated s := by
  constructor
  · intro h
    constructor
    · rintro rfl b rest hs
      exact h [] b rest (by rw [hs]; rfl)
    · intro a b rest hs
      exact h (c :: a) b rest (by rw [hs]; rfl)
  · rintro ⟨hc, h⟩ a b rest hs
    cases a with
    | nil =>
        obtain ⟨rfl, rfl⟩ := List.cons.inj hs
        exact hc rfl b rest rfl
    | cons a as => exact h as b rest (List.cons.inj hs).2

instance decidableClosesFirst : ∀ s, Decidable (ClosesFirst s)
  | [] => .isTrue closesFirst_nil
  | _ :: s =>
    have := decidableClosesFirst s
    decidable_of_iff _ closesFirst_cons.symm

instance decidableSeparated : ∀ s, Decidable (Separated s)
  | [] => .isTrue separated_nil
  | _ :: s =>
    have := decidableSeparated s
    decidable_of_iff _ separated_cons.symm

theorem Separated.of_append {a : List Char} (h : Separated (a ++ s)) : Separated s := by
  intro b c d hs
  exact h (a ++ b) c d (by rw [hs]; simp)

theorem Separated.append_blank {a : List Char} (ha : ∀ c ∈ a, isBlank c = true)
    (h : Separated s) : Separated (a ++ s) := by
  induction a with
  | nil => exact h
  | cons c a ih =>
      refine separated_cons.mpr ⟨?_, ?_⟩
      · rintro rfl
        exact absurd (ha '<' List.mem_cons_self) (by decide)
      · exact ih fun c hc => ha c (List.mem_cons_of_mem _ hc)

/-! ## Nothing is dropped behind an opening bracket -/

theorem blank_of_one {front back filler : List Char} {b : Char} (hb : isBlank b = true)
    (hone : front ++ back ++ filler = [b]) :
    (∀ c ∈ front, isBlank c = true) ∧ (∀ c ∈ back, isBlank c = true) ∧
      ∀ c ∈ filler, isBlank c = true := by
  have hall : ∀ c ∈ front ++ back ++ filler, isBlank c = true := by
    intro c hc
    rw [hone, List.mem_singleton] at hc
    exact hc ▸ hb
  simp only [List.mem_append] at hall
  exact ⟨fun c hc => hall c (.inl (.inl hc)), fun c hc => hall c (.inl (.inr hc)),
    fun c hc => hall c (.inr hc)⟩

theorem not_closesFirst_append_mention {front back : List Char}
    (hfront : ∀ c ∈ front, isBlank c = true) :
    ¬ ClosesFirst (front ++ mention id ++ back ++ s) := by
  intro h
  have hclose : '>' ∈ front := h front _ (by simp only [mention, List.append_assoc]; rfl)
  exact absurd (hfront '>' hclose) (by decide)

/-- In front of a closing bracket both texts go on alike. -/
theorem Drops.next (h : Drops (mention id) s t) (hs : ClosesFirst s) :
    s = [] ∧ t = [] ∨ ∃ c s' t', s = c :: s' ∧ t = c :: t' ∧ Drops (mention id) s' t' := by
  cases h with
  | nil => exact .inl ⟨rfl, rfl⟩
  | keep c rest => exact .inr ⟨c, _, _, rfl, rfl, rest⟩
  | drop front back filler hb hone rest =>
      exact absurd hs (not_closesFirst_append_mention (blank_of_one hb hone).1)

theorem Drops.closesFirst (h : Drops (mention id) s t) (hs : ClosesFirst s) : ClosesFirst t := by
  induction h with
  | nil => exact hs
  | keep c _ ih =>
      exact closesFirst_cons.mpr ((closesFirst_cons.mp hs).imp_right fun h => ⟨h.1, ih h.2⟩)
  | drop front back filler hb hone rest ih =>
      exact absurd hs (not_closesFirst_append_mention (blank_of_one hb hone).1)

theorem Drops.separated (h : Drops (mention id) s t) (hs : Separated s) : Separated t := by
  induction h with
  | nil => exact hs
  | keep c rest ih =>
      obtain ⟨hopen, hs⟩ := separated_cons.mp hs
      exact separated_cons.mpr ⟨fun hc => rest.closesFirst (hopen hc), ih hs⟩
  | drop front back filler hb hone rest ih =>
      exact (ih hs.of_append).append_blank (blank_of_one hb hone).2.2

theorem not_cons_prefix_of_ne {a c : Char} {p : List Char} (h : c ≠ a) :
    ¬ a :: p <+: c :: s := by
  intro hbegin
  exact h (List.cons_prefix_cons.mp hbegin).1.symm

/-- Up to a closing bracket both texts are the same, and behind it the search goes on. -/
theorem Drops.alike_up_to_close {p : List Char} (hp : '>' ∉ p) (h : Drops (mention id) s t)
    (hs : ClosesFirst s) :
    (∃ s' t', s = p ++ '>' :: s' ∧ t = p ++ '>' :: t' ∧ Drops (mention id) s' t') ∨
      ¬ p ++ ['>'] <+: s ∧ ¬ p ++ ['>'] <+: t := by
  induction p generalizing s t with
  | nil =>
      rcases h.next hs with ⟨rfl, rfl⟩ | ⟨c, s', t', rfl, rfl, rest⟩
      · exact .inr ⟨by simp, by simp⟩
      · by_cases hc : c = '>'
        · exact .inl ⟨s', t', by rw [hc]; rfl, by rw [hc]; rfl, rest⟩
        · exact .inr ⟨not_cons_prefix_of_ne hc, not_cons_prefix_of_ne hc⟩
  | cons a p ih =>
      rcases h.next hs with ⟨rfl, rfl⟩ | ⟨c, s', t', rfl, rfl, rest⟩
      · exact .inr ⟨by simp, by simp⟩
      · by_cases hc : c = a
        · subst hc
          have hclose : c ≠ '>' := fun he => hp (he ▸ List.mem_cons_self)
          have hs' := ((closesFirst_cons.mp hs).resolve_left hclose).2
          have hp' : '>' ∉ p := fun hm => hp (List.mem_cons_of_mem _ hm)
          rcases ih hp' rest hs' with
            ⟨s'', t'', rfl, rfl, hrest⟩ | ⟨hnot, hnot'⟩
          · exact .inl ⟨s'', t'', rfl, rfl, hrest⟩
          · exact .inr ⟨by simpa [List.cons_prefix_cons] using hnot,
              by simpa [List.cons_prefix_cons] using hnot'⟩
        · exact .inr ⟨not_cons_prefix_of_ne hc, not_cons_prefix_of_ne hc⟩

/-- A mention begins both texts or neither. -/
theorem Drops.mention_alike {other : String} (hother : '>' ∉ other.toList)
    (h : Drops (mention id) s t) (hs : ClosesFirst s) :
    (∃ s' t', '<' :: s = mention other ++ s' ∧ '<' :: t = mention other ++ t' ∧
        Drops (mention id) s' t') ∨
      ¬ mention other <+: '<' :: s ∧ ¬ mention other <+: '<' :: t := by
  have hbody : '>' ∉ '@' :: other.toList := by simpa using hother
  rcases h.alike_up_to_close hbody hs with ⟨s', t', rfl, rfl, rest⟩ | ⟨hnot, hnot'⟩
  · exact .inl ⟨s', t', by simp [mention], by simp [mention], rest⟩
  · exact .inr ⟨by simpa [mention, List.cons_prefix_cons] using hnot,
      by simpa [mention, List.cons_prefix_cons] using hnot'⟩

theorem not_mention_prefix_of_blank {c : Char} (hc : isBlank c = true) :
    ¬ mention id <+: c :: s := by
  apply not_cons_prefix_of_ne
  rintro rfl
  exact absurd hc (by decide)

theorem mention_isInfix_append_blank {a : List Char} (ha : ∀ c ∈ a, isBlank c = true)
    (h : mention id <:+: a ++ s) : mention id <:+: s := by
  induction a with
  | nil => exact h
  | cons c a ih =>
      rcases List.infix_cons_iff.mp h with hbegin | hin
      · exact absurd hbegin (not_mention_prefix_of_blank (ha c List.mem_cons_self))
      · exact ih (fun c hc => ha c (List.mem_cons_of_mem _ hc)) hin

/-- No mention comes about by dropping others. -/
theorem Drops.isInfix_of_isInfix {other : String} (hother : '>' ∉ other.toList)
    (h : Drops (mention id) s t) (hs : Separated s) (hin : mention other <:+: t) :
    mention other <:+: s := by
  induction h with
  | nil => exact hin
  | keep c rest ih =>
      obtain ⟨hopen, hs⟩ := separated_cons.mp hs
      rcases List.infix_cons_iff.mp hin with hbegin | hin
      · obtain ⟨rfl, -⟩ := List.cons_prefix_cons.mp hbegin
        rcases rest.mention_alike hother (hopen rfl) with ⟨s', t', hs', -, -⟩ | ⟨-, hnot⟩
        · exact hs' ▸ (List.prefix_append _ _).isInfix
        · exact absurd hbegin hnot
      · exact List.infix_cons (ih hs hin)
  | drop front back filler hb hone rest ih =>
      have hin' := mention_isInfix_append_blank (blank_of_one hb hone).2.2 hin
      exact (ih hs.of_append hin').trans (List.suffix_append _ _).isInfix

/-! ## The last search leaves none -/

theorem prefix_of_prefix_replaceHits {hit : Matcher} {b : Char} {v : List Char} (hv : b ∉ v)
    (s : List Char) (h : v <+: replaceHits hit [b] s) : v <+: s := by
  revert v
  refine replaceHits_induction (motive := fun s t => ∀ {v}, b ∉ v → v <+: t → v <+: s) ?_ ?_ ?_ s
  · exact fun _ h => h
  · intro c s _ ih v hv h
    rcases List.prefix_cons_iff.mp h with rfl | ⟨v, rfl, ht⟩
    · exact List.nil_prefix
    · exact (List.prefix_cons_inj c).mpr (ih (fun hm => hv (List.mem_cons_of_mem c hm)) ht)
  · intro c s n _ _ v hv h
    rcases List.prefix_cons_iff.mp h with rfl | ⟨v, rfl, -⟩
    · exact List.nil_prefix
    · exact absurd List.mem_cons_self hv

theorem not_isInfix_replaceHits {b : Char} (hne : w ≠ []) (hw : b ∉ w) (s : List Char) :
    ¬ w <:+: replaceHits (word w) [b] s := by
  refine replaceHits_induction (motive := fun _ t => ¬ w <:+: t) ?_ ?_ ?_ s
  · exact fun h => hne (List.infix_nil.mp h)
  · intro c s hnone ih h
    rcases List.infix_cons_iff.mp h with hbegin | hin
    · -- what begins the result with the kept character began the text, and was a hit there
      rw [← replaceHits_of_none hnone] at hbegin
      obtain ⟨rest, hrest⟩ := prefix_of_prefix_replaceHits hw _ hbegin
      have hhit := word_eq_some_iff.mpr ⟨rest, hrest.symm, rfl⟩
      rw [hnone] at hhit
      cases hhit
    · exact ih hin
  · intro c s n _ ih h
    rcases List.infix_cons_iff.mp h with hbegin | hin
    · rcases List.prefix_cons_iff.mp hbegin with rfl | ⟨v, rfl, -⟩
      · exact hne rfl
      · exact hw List.mem_cons_self
    · exact ih hin

/-- After its searches no mention of a user is left, whatever the text was. -/
theorem not_isInfix_dropMentions (hblank : ∀ c ∈ id.toList, isBlank c = false)
    (hfit : Search.isTooBig id .alone = false) (s : List Char) :
    ¬ mention id <:+: dropMentions s id := by
  have hspace : ' ' ∉ mention id := by
    have hid : ' ' ∉ id.toList := fun hm => absurd (hblank ' ' hm) (by decide)
    simpa [mention] using hid
  show ¬ mention id <:+: Search.apply id _ .alone
  rw [Search.apply, hfit]
  exact not_isInfix_replaceHits (by simp [mention]) hspace _

/-! ## Dropping the mentions of all the users -/

/-- What each single search preserves is preserved by all of them. -/
theorem preserved_dropMentions {P : List Char → Prop}
    (step : ∀ s t, Drops (mention id) s t → P s → P t) (h : P s) : P (dropMentions s id) := by
  apply List.foldlRecOn Search.all (Search.apply id) h
  intro s hs search _
  exact step s _ (drops_apply id s search) hs

theorem preserved_foldl {P : List Char → Prop}
    (step : ∀ id ∈ ids, ∀ s t, Drops (mention id) s t → P s → P t) (h : P s) :
    P (ids.foldl dropMentions s) := by
  apply List.foldlRecOn ids dropMentions h
  intro s hs id hid
  exact preserved_dropMentions (step id hid) hs

end Switchboard.Inbound
