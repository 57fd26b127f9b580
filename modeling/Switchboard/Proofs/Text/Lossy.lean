/-
# What a lenient reader sees

Lenient reading told by the bytes of characters alone: a character stands for its bytes, and one
replacement character for each longest part that begins a character without being one (`Spells`).  The
main statement is `decodeLossy_iff`.  What carries it is that `lead` finds the character at the front
exactly if its bytes stand there (`lead_encode` and `encode_lead`), and that it needs one byte behind the
junk to call it junk (`lead_junk_append`).  A strict reader stops at junk, so it reads the bytes of texts
and nothing else.
-/
import Switchboard.Proofs.Text.Utf8

namespace Switchboard.Text

/-- Whether bytes are those of a character, or the first of them. -/
def Begins (p : Bytes) : Prop := ∃ c : Char, p <+: String.utf8EncodeChar c

/-- What bytes spell for a lenient reader.  Where no character stands in front, the junk there is one
byte, or the most bytes that begin a character. -/
inductive Spells : Bytes → List Char → Prop where
  | nil : Spells [] []
  | char {c : Char} {s : Bytes} {t : List Char} (h : Spells s t) :
      Spells (String.utf8EncodeChar c ++ s) (c :: t)
  | junk {b : UInt8} {more s : Bytes} {t : List Char}
      (hchar : ∀ c, ¬ String.utf8EncodeChar c <+: b :: (more ++ s))
      (hbegins : more = [] ∨ Begins (b :: more))
      (hlongest : ∀ p, p <+: s → p ≠ [] → ¬ Begins (b :: (more ++ p))) (h : Spells s t) :
      Spells (b :: (more ++ s)) (replacementChar :: t)

/-! ## The character in front -/

section Lead

variable {a b c d : UInt8}

theorem toNat_ofNat_of_isValidChar {n : Nat} (h : n.isValidChar) : (Char.ofNat n).val.toNat = n := by
  rw [Char.ofNat, dif_pos h]
  rfl

theorem toNat_of_isTail (h : isTail b = true) : b.toNat = 0x80 + low6 b ∧ low6 b < 64 := by
  simp only [isTail, Bool.and_eq_true, decide_eq_true_eq, UInt8.le_iff_toNat_le,
    UInt8.toNat_ofNat] at h
  unfold low6
  omega

theorem encode_one (ha : a < 0x80) : String.utf8EncodeChar (Char.ofNat a.toNat) = [a] := by
  have hlt : a.toNat < 0x80 := UInt8.lt_iff_toNat_lt.mp ha
  have hval : (Char.ofNat a.toNat).val.toNat = a.toNat :=
    toNat_ofNat_of_isValidChar (.inl (by omega))
  unfold String.utf8EncodeChar
  simp only [hval]
  rw [if_pos (by omega), UInt8.ofNat_toNat]

theorem byte_eq {n : Nat} (h : n = a.toNat) : UInt8.ofNat n = a := by
  rw [h, UInt8.ofNat_toNat]

theorem encode_two (ha : 0xc2 ≤ a ∧ a ≤ 0xdf) (hb : isTail b = true) :
    String.utf8EncodeChar (Char.ofNat (a.toNat % 32 * 64 + low6 b)) = [a, b] := by
  obtain ⟨hb, hlow⟩ := toNat_of_isTail hb
  simp only [UInt8.le_iff_toNat_le, UInt8.toNat_ofNat] at ha
  generalize hn : a.toNat % 32 * 64 + low6 b = n
  have hval : (Char.ofNat n).val.toNat = n := toNat_ofNat_of_isValidChar (.inl (by omega))
  unfold String.utf8EncodeChar
  simp only [hval]
  rw [if_neg (by omega), if_pos (by omega), byte_eq (a := a) (by omega), byte_eq (a := b) (by omega)]

/-- The second of three bytes makes neither an overlong form nor a surrogate. -/
theorem toNat_of_secondOfThree (h : secondOfThree a b = true) :
    (b.toNat = 0x80 + low6 b ∧ low6 b < 64) ∧ (a.toNat = 0xe0 → 0x20 ≤ low6 b) ∧
      (a.toNat = 0xed → low6 b < 0x20) := by
  unfold secondOfThree at h
  split at h
  · next ha =>
      simp only [Bool.and_eq_true, decide_eq_true_eq, UInt8.le_iff_toNat_le, UInt8.toNat_ofNat] at h
      have ha : a.toNat = 0xe0 := congrArg UInt8.toNat ha
      unfold low6
      omega
  · next hne =>
      have hne : a.toNat ≠ 0xe0 := fun h => hne (UInt8.toNat_inj.mp h)
      split at h
      · next ha =>
          simp only [Bool.and_eq_true, decide_eq_true_eq, UInt8.le_iff_toNat_le,
            UInt8.toNat_ofNat] at h
          have ha : a.toNat = 0xed := congrArg UInt8.toNat ha
          unfold low6
          omega
      · next hne' =>
          have hne' : a.toNat ≠ 0xed := fun h => hne' (UInt8.toNat_inj.mp h)
          have hb := toNat_of_isTail h
          omega

theorem encode_three (ha : 0xe0 ≤ a ∧ a ≤ 0xef) (hb : secondOfThree a b = true)
    (hc : isTail c = true) :
    String.utf8EncodeChar (Char.ofNat ((a.toNat % 16 * 64 + low6 b) * 64 + low6 c))
      = [a, b, c] := by
  obtain ⟨⟨hb, hblow⟩, hlong, hsurrogate⟩ := toNat_of_secondOfThree hb
  obtain ⟨hc, hclow⟩ := toNat_of_isTail hc
  simp only [UInt8.le_iff_toNat_le, UInt8.toNat_ofNat] at ha
  generalize hn : (a.toNat % 16 * 64 + low6 b) * 64 + low6 c = n
  have hval : (Char.ofNat n).val.toNat = n :=
    toNat_ofNat_of_isValidChar (by unfold Nat.isValidChar; omega)
  unfold String.utf8EncodeChar
  simp only [hval]
  rw [if_neg (by omega), if_neg (by omega), if_pos (by omega), byte_eq (a := a) (by omega),
    byte_eq (a := b) (by omega), byte_eq (a := c) (by omega)]

/-- The second of four bytes makes no overlong form and does not lead past the last code point. -/
theorem toNat_of_secondOfFour (h : secondOfFour a b = true) :
    (b.toNat = 0x80 + low6 b ∧ low6 b < 64) ∧ (a.toNat = 0xf0 → 0x10 ≤ low6 b) ∧
      (a.toNat = 0xf4 → low6 b < 0x10) := by
  unfold secondOfFour at h
  split at h
  · next ha =>
      simp only [Bool.and_eq_true, decide_eq_true_eq, UInt8.le_iff_toNat_le, UInt8.toNat_ofNat] at h
      have ha : a.toNat = 0xf0 := congrArg UInt8.toNat ha
      unfold low6
      omega
  · next hne =>
      have hne : a.toNat ≠ 0xf0 := fun h => hne (UInt8.toNat_inj.mp h)
      split at h
      · next ha =>
          simp only [Bool.and_eq_true, decide_eq_true_eq, UInt8.le_iff_toNat_le,
            UInt8.toNat_ofNat] at h
          have ha : a.toNat = 0xf4 := congrArg UInt8.toNat ha
          unfold low6
          omega
      · next hne' =>
          have hne' : a.toNat ≠ 0xf4 := fun h => hne' (UInt8.toNat_inj.mp h)
          have hb := toNat_of_isTail h
          omega

theorem encode_four (ha : 0xf0 ≤ a ∧ a ≤ 0xf4) (hb : secondOfFour a b = true)
    (hc : isTail c = true) (hd : isTail d = true) :
    String.utf8EncodeChar
        (Char.ofNat (((a.toNat % 8 * 64 + low6 b) * 64 + low6 c) * 64 + low6 d))
      = [a, b, c, d] := by
  obtain ⟨⟨hb, hblow⟩, hlong, hlast⟩ := toNat_of_secondOfFour hb
  obtain ⟨hc, hclow⟩ := toNat_of_isTail hc
  obtain ⟨hd, hdlow⟩ := toNat_of_isTail hd
  simp only [UInt8.le_iff_toNat_le, UInt8.toNat_ofNat] at ha
  generalize hn : ((a.toNat % 8 * 64 + low6 b) * 64 + low6 c) * 64 + low6 d = n
  have hval : (Char.ofNat n).val.toNat = n :=
    toNat_ofNat_of_isValidChar (by unfold Nat.isValidChar; omega)
  unfold String.utf8EncodeChar
  simp only [hval]
  rw [if_neg (by omega), if_neg (by omega), if_neg (by omega), byte_eq (a := a) (by omega),
    byte_eq (a := b) (by omega), byte_eq (a := c) (by omega), byte_eq (a := d) (by omega)]

end Lead

/-- The lengths that a first byte may announce. -/
theorem lead_cases (a : UInt8) :
    (a < 0x80 ∧ ∀ rest, lead a rest = .char (Char.ofNat a.toNat) 0) ∨
    ((0xc2 ≤ a ∧ a ≤ 0xdf) ∧ ∀ rest, lead a rest = lead2 a rest) ∨
    ((0xe0 ≤ a ∧ a ≤ 0xef) ∧ ∀ rest, lead a rest = lead3 a rest) ∨
    ((0xf0 ≤ a ∧ a ≤ 0xf4) ∧ ∀ rest, lead a rest = lead4 a rest) ∨
    ∀ rest, lead a rest = .junk 0 := by
  unfold lead
  by_cases h1 : a < 0x80
  · exact .inl ⟨h1, fun _ => if_pos h1⟩
  by_cases h2 : 0xc2 ≤ a ∧ a ≤ 0xdf
  · exact .inr (.inl ⟨h2, fun _ => by simp [h1, h2]⟩)
  by_cases h3 : 0xe0 ≤ a ∧ a ≤ 0xef
  · exact .inr (.inr (.inl ⟨h3, fun _ => by simp [h1, h2, h3]⟩))
  by_cases h4 : 0xf0 ≤ a ∧ a ≤ 0xf4
  · exact .inr (.inr (.inr (.inl ⟨h4, fun _ => by simp [h1, h2, h3, h4]⟩)))
  · exact .inr (.inr (.inr (.inr fun _ => by simp [h1, h2, h3, h4])))

/-- A character that is found in front has its bytes there. -/
theorem encode_lead {a : UInt8} {rest : Bytes} {c : Char} {more : Nat}
    (h : lead a rest = .char c more) :
    ∃ tail s, rest = tail ++ s ∧ tail.length = more ∧ String.utf8EncodeChar c = a :: tail := by
  rcases lead_cases a with ⟨ha, hlead⟩ | ⟨ha, hlead⟩ | ⟨ha, hlead⟩ | ⟨ha, hlead⟩ | hlead
  · cases (hlead rest).symm.trans h
    exact ⟨[], rest, rfl, rfl, encode_one ha⟩
  · rw [hlead] at h
    unfold lead2 at h
    split at h
    · split at h
      · next b s hb =>
          cases h
          exact ⟨[b], s, rfl, rfl, encode_two ha hb⟩
      · cases h
    · cases h
  · rw [hlead] at h
    unfold lead3 at h
    split at h
    · split at h
      · next b _ hb =>
          split at h
          · split at h
            · next c s hc =>
                cases h
                exact ⟨[b, c], s, rfl, rfl, encode_three ha hb hc⟩
            · cases h
          · cases h
      · cases h
    · cases h
  · rw [hlead] at h
    unfold lead4 at h
    split at h
    · split at h
      · next b _ hb =>
          split at h
          · split at h
            · next c _ hc =>
                split at h
                · split at h
                  · next d s hd =>
                      cases h
                      exact ⟨[b, c, d], s, rfl, rfl, encode_four ha hb hc hd⟩
                  · cases h
                · cases h
            · cases h
          · cases h
      · cases h
    · cases h
  · cases (hlead rest).symm.trans h

/-! ## Junk in front -/

section Junk

variable {a : UInt8} {rest p r : Bytes} {more : Nat}

theorem lead2_junk (h : lead2 a rest = .junk more) :
    more = 0 ∧ ∀ b s, rest = b :: s → isTail b = false := by
  unfold lead2 at h
  split at h
  · split at h
    · cases h
    · next hb =>
        cases h
        refine ⟨rfl, fun b s hs => ?_⟩
        cases hs
        exact Bool.eq_false_iff.mpr hb
  · cases h
    exact ⟨rfl, fun b s hs => nomatch hs⟩

theorem lead3_junk (h : lead3 a rest = .junk more) :
    (more = 0 ∧ ∀ b s, rest = b :: s → secondOfThree a b = false) ∨
    (more = 1 ∧ ∃ b s, rest = b :: s ∧ secondOfThree a b = true ∧
      ∀ c t, s = c :: t → isTail c = false) := by
  unfold lead3 at h
  split at h
  · split at h
    · next b _ hb =>
        right
        split at h
        · split at h
          · cases h
          · next c s hc =>
              cases h
              refine ⟨rfl, b, _, rfl, hb, fun c t hs => ?_⟩
              cases hs
              exact Bool.eq_false_iff.mpr hc
        · cases h
          exact ⟨rfl, b, _, rfl, hb, fun c t hs => nomatch hs⟩
    · next hb =>
        cases h
        refine .inl ⟨rfl, fun b s hs => ?_⟩
        cases hs
        exact Bool.eq_false_iff.mpr hb
  · cases h
    exact .inl ⟨rfl, fun b s hs => nomatch hs⟩

theorem lead4_junk (h : lead4 a rest = .junk more) :
    (more = 0 ∧ ∀ b s, rest = b :: s → secondOfFour a b = false) ∨
    (more = 1 ∧ ∃ b s, rest = b :: s ∧ secondOfFour a b = true ∧
      ∀ c t, s = c :: t → isTail c = false) ∨
    (more = 2 ∧ ∃ b c s, rest = b :: c :: s ∧ secondOfFour a b = true ∧ isTail c = true ∧
      ∀ d t, s = d :: t → isTail d = false) := by
  unfold lead4 at h
  split at h
  · split at h
    · next b _ hb =>
        right
        split at h
        · split at h
          · next c _ hc =>
              right
              split at h
              · split at h
                · cases h
                · next hd =>
                    cases h
                    refine ⟨rfl, b, c, _, rfl, hb, hc, fun d t hs => ?_⟩
                    cases hs
                    exact Bool.eq_false_iff.mpr hd
              · cases h
                exact ⟨rfl, b, c, _, rfl, hb, hc, fun d t hs => nomatch hs⟩
          · next hc =>
              cases h
              refine .inl ⟨rfl, b, _, rfl, hb, fun c t hs => ?_⟩
              cases hs
              exact Bool.eq_false_iff.mpr hc
        · cases h
          exact .inl ⟨rfl, b, _, rfl, hb, fun c t hs => nomatch hs⟩
    · next hb =>
        cases h
        refine .inl ⟨rfl, fun b s hs => ?_⟩
        cases hs
        exact Bool.eq_false_iff.mpr hb
  · cases h
    exact .inl ⟨rfl, fun b s hs => nomatch hs⟩

/-- One byte behind the junk decides that it is junk. -/
theorem lead_junk_append (h : lead a (p ++ r) = .junk more) (hp : more < p.length) (r' : Bytes) :
    lead a (p ++ r') = .junk more := by
  rcases lead_cases a with ⟨_, hlead⟩ | ⟨_, hlead⟩ | ⟨_, hlead⟩ | ⟨_, hlead⟩ | hlead
  · cases (hlead _).symm.trans h
  · rw [hlead] at h ⊢
    obtain ⟨rfl, hb⟩ := lead2_junk h
    obtain ⟨b, p, rfl⟩ := List.exists_cons_of_length_pos hp
    simp [lead2, hb b _ rfl]
  · rw [hlead] at h ⊢
    rcases lead3_junk h with ⟨rfl, hb⟩ | ⟨rfl, b, s, hs, hb, hc⟩
    · obtain ⟨b, p, rfl⟩ := List.exists_cons_of_length_pos hp
      simp [lead3, hb b _ rfl]
    · rcases p with _ | ⟨b', _ | ⟨c, p⟩⟩
      · cases hp
      · exact absurd hp (by simp)
      · cases hs
        simp [lead3, hb, hc c _ rfl]
  · rw [hlead] at h ⊢
    rcases lead4_junk h with ⟨rfl, hb⟩ | ⟨rfl, b, s, hs, hb, hc⟩ | ⟨rfl, b, c, s, hs, hb, hc, hd⟩
    · obtain ⟨b, p, rfl⟩ := List.exists_cons_of_length_pos hp
      simp [lead4, hb b _ rfl]
    · rcases p with _ | ⟨b', _ | ⟨c, p⟩⟩
      · cases hp
      · exact absurd hp (by simp)
      · cases hs
        simp [lead4, hb, hc c _ rfl]
    · rcases p with _ | ⟨b', _ | ⟨c', _ | ⟨d, p⟩⟩⟩
      · cases hp
      · exact absurd hp (by simp)
      · exact absurd hp (by simp)
      · cases hs
        simp [lead4, hb, hc, hd d _ rfl]
  · rw [hlead] at h ⊢
    exact h

theorem Begins.of_lead {c : Char} {s : Bytes} {n : Nat} (h : lead a (p ++ s) = .char c n)
    (hp : p.length ≤ n) : Begins (a :: p) := by
  obtain ⟨tail, t, hrest, rfl, hbytes⟩ := encode_lead h
  refine ⟨c, ?_⟩
  rw [hbytes]
  have hprefix : p <+: tail := List.prefix_of_prefix_length_le ⟨s, rfl⟩ ⟨t, hrest.symm⟩ hp
  exact (List.prefix_cons_inj a).mpr hprefix

/-- Junk of more than one byte begins a character. -/
theorem Begins.of_lead_junk (h : lead a rest = .junk more) :
    ∃ p s, rest = p ++ s ∧ p.length = more ∧ (p = [] ∨ Begins (a :: p)) := by
  have htail : isTail 0x80 = true := by decide
  rcases lead_cases a with ⟨_, hlead⟩ | ⟨_, hlead⟩ | ⟨_, hlead⟩ | ⟨_, hlead⟩ | hlead
  · cases (hlead _).symm.trans h
  · rw [hlead] at h
    obtain ⟨rfl, _⟩ := lead2_junk h
    exact ⟨[], rest, rfl, rfl, .inl rfl⟩
  · rw [hlead] at h
    rcases lead3_junk h with ⟨rfl, _⟩ | ⟨rfl, b, s, rfl, hb, _⟩
    · exact ⟨[], rest, rfl, rfl, .inl rfl⟩
    · have hchar : ∃ c, lead a ([b] ++ [0x80]) = .char c 2 := by
        simp [hlead, lead3, hb, htail]
      obtain ⟨c, hc⟩ := hchar
      exact ⟨[b], s, rfl, rfl, .inr (.of_lead hc (by simp))⟩
  · rw [hlead] at h
    rcases lead4_junk h with ⟨rfl, _⟩ | ⟨rfl, b, s, rfl, hb, _⟩ | ⟨rfl, b, c, s, rfl, hb, hc, _⟩
    · exact ⟨[], rest, rfl, rfl, .inl rfl⟩
    · have hchar : ∃ c, lead a ([b] ++ [0x80, 0x80]) = .char c 3 := by
        simp [hlead, lead4, hb, htail]
      obtain ⟨c, hc⟩ := hchar
      exact ⟨[b], s, rfl, rfl, .inr (.of_lead hc (by simp))⟩
    · have hchar : ∃ d, lead a ([b, c] ++ [0x80]) = .char d 3 := by
        simp [hlead, lead4, hb, hc, htail]
      obtain ⟨d, hd⟩ := hchar
      exact ⟨[b, c], s, rfl, rfl, .inr (.of_lead hd (by simp))⟩
  · cases (hlead rest).symm.trans h
    exact ⟨[], rest, rfl, rfl, .inl rfl⟩

/-- What begins a character is not longer than the junk. -/
theorem Begins.length_le (h : lead a (p ++ r) = .junk more) (hp : Begins (a :: p)) :
    p.length ≤ more := by
  refine Nat.le_of_not_lt fun hlt => ?_
  obtain ⟨c, hc⟩ := hp
  obtain ⟨b, tail, hbytes, hlead⟩ := lead_encode c []
  rw [hbytes] at hc
  obtain ⟨rfl, s, rfl⟩ := List.cons_prefix_cons.mp hc
  have hjunk := lead_junk_append h hlt (s ++ [])
  rw [← List.append_assoc, hlead] at hjunk
  cases hjunk

/-- No character stands where junk is. -/
theorem not_prefix_of_lead_junk (h : lead a rest = .junk more) (c : Char) :
    ¬ String.utf8EncodeChar c <+: a :: rest := by
  rintro ⟨r, hr⟩
  obtain ⟨b, tail, hbytes, hlead⟩ := lead_encode c r
  rw [hbytes] at hr
  cases hr
  cases hlead.symm.trans h

end Junk

/-! ## Texts -/

theorem decodeLossyFrom_append (out done : List Char) (s : Bytes) :
    decodeLossyFrom (out ++ done) s = done.reverse ++ decodeLossyFrom out s := by
  fun_induction decodeLossyFrom out s with
  | case1 out => simp [decodeLossyFrom]
  | case2 out a rest c more hlead ih => rw [decodeLossyFrom, hlead, ← ih, List.cons_append]
  | case3 out a rest more hlead ih => rw [decodeLossyFrom, hlead, ← ih, List.cons_append]

theorem decodeLossy_of_char {a : UInt8} {rest : Bytes} {c : Char} {more : Nat}
    (h : lead a rest = .char c more) :
    decodeLossy (a :: rest) = c :: decodeLossy (rest.drop more) := by
  rw [decodeLossy, decodeLossyFrom, h]
  exact decodeLossyFrom_append [] [c] _

theorem decodeLossy_of_junk {a : UInt8} {rest : Bytes} {more : Nat}
    (h : lead a rest = .junk more) :
    decodeLossy (a :: rest) = replacementChar :: decodeLossy (rest.drop more) := by
  rw [decodeLossy, decodeLossyFrom, h]
  exact decodeLossyFrom_append [] [replacementChar] _

theorem decodeLossy_nil : decodeLossy [] = [] := by
  rw [decodeLossy, decodeLossyFrom, List.reverse_nil]

theorem spells_decodeLossy (s : Bytes) : Spells s (decodeLossy s) := by
  -- What is left behind a character or junk is shorter.
  induction hn : s.length using Nat.strongRecOn generalizing s with
  | ind n ih =>
      subst hn
      cases s with
      | nil =>
          rw [decodeLossy_nil]
          exact .nil
      | cons a rest =>
          cases hlead : lead a rest with
          | char c more =>
              obtain ⟨tail, s, rfl, rfl, hbytes⟩ := encode_lead hlead
              have hlt : s.length < (a :: (tail ++ s)).length := by
                rw [List.length_cons, List.length_append]
                omega
              rw [decodeLossy_of_char hlead, List.drop_left, ← List.cons_append, ← hbytes]
              exact .char (ih s.length hlt s rfl)
          | junk more =>
              obtain ⟨p, s, rfl, rfl, hbegins⟩ := Begins.of_lead_junk hlead
              have hlt : s.length < (a :: (p ++ s)).length := by
                rw [List.length_cons, List.length_append]
                omega
              rw [decodeLossy_of_junk hlead, List.drop_left]
              refine .junk (not_prefix_of_lead_junk hlead) hbegins (fun q hq hne hlong => ?_)
                (ih s.length hlt s rfl)
              obtain ⟨r, rfl⟩ := hq
              rw [← List.append_assoc] at hlead
              have hle : (p ++ q).length ≤ p.length := Begins.length_le hlead hlong
              rw [List.length_append] at hle
              exact hne (List.length_eq_zero_iff.mp (by omega))

/-- A lenient reader sees what the bytes spell. -/
theorem decodeLossy_iff {s : Bytes} {t : List Char} : decodeLossy s = t ↔ Spells s t := by
  constructor
  · rintro rfl
    exact spells_decodeLossy s
  · intro h
    induction h with
    | nil => exact decodeLossy_nil
    | @char c s t _ ih =>
        obtain ⟨a, tail, hbytes, hlead⟩ := lead_encode c s
        rw [hbytes, List.cons_append, decodeLossy_of_char hlead, List.drop_left, ih]
    | @junk b more s t hchar hbegins hlongest _ ih =>
        cases hlead : lead b (more ++ s) with
        | char c n =>
            obtain ⟨tail, r, hrest, -, hbytes⟩ := encode_lead hlead
            exact absurd ⟨r, by rw [hbytes, hrest, List.cons_append]⟩ (hchar c)
        | junk n =>
            have hle : more.length ≤ n := by
              rcases hbegins with rfl | hbegins
              · exact Nat.zero_le n
              · exact Begins.length_le hlead hbegins
            obtain ⟨p, r, hrest, rfl, hp⟩ := Begins.of_lead_junk hlead
            obtain ⟨q, rfl⟩ : more <+: p :=
              List.prefix_of_prefix_length_le ⟨s, rfl⟩ ⟨r, hrest.symm⟩ hle
            have hs : s = q ++ r := by
              rw [List.append_assoc] at hrest
              exact List.append_cancel_left hrest
            have hq : q = [] := by
              by_cases hq : q = []
              · exact hq
              · refine absurd (hp.resolve_left ?_) (hlongest q ⟨r, hs.symm⟩ hq)
                exact List.append_ne_nil_of_right_ne_nil _ hq
            rw [decodeLossy_of_junk hlead, hq, List.append_nil, List.drop_left, ih]

/-! ## Strict reading -/

theorem encode_of_decodeFrom {out t : List Char} {s : Bytes} (h : decodeFrom out s = some t) :
    encode t = encode out.reverse ++ s := by
  fun_induction decodeFrom out s with
  | case1 out => rw [← Option.some.inj h, List.append_nil]
  | case2 out a rest c more hlead ih =>
      obtain ⟨tail, s, rfl, rfl, hbytes⟩ := encode_lead hlead
      rw [ih h, List.reverse_cons, List.drop_left, encode, encode, List.flatMap_append,
        List.flatMap_singleton, hbytes, List.append_assoc, List.cons_append]
  | case3 => cases h

/-- A strict reader reads the bytes of texts, and nothing else. -/
theorem decode?_eq_some_iff {s : Bytes} {t : List Char} : decode? s = some t ↔ s = encode t :=
  ⟨fun h => (encode_of_decodeFrom h).symm, fun h => h ▸ decode?_encode t⟩

end Switchboard.Text
