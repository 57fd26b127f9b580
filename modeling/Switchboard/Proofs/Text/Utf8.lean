/-
# UTF-8 there and back

The bytes of a text spell the text, for a strict and for a lenient reader.  What carries both is
`lead_encode`: at the front of the bytes of a character stands this character, whatever follows.
-/
import Switchboard.Text.Utf8

namespace Switchboard.Text

/-! ## One character

The first byte of a character says how many follow, and a byte that follows carries six bits. -/

section Lead

variable {a b c d : UInt8} {w x y z : Nat} (rest : Bytes)

theorem isTail_of_toNat (hb : b.toNat = 0x80 + x) (hx : x < 64) : isTail b = true := by
  have hrange : 0x80 ≤ b ∧ b ≤ 0xbf := by
    simp only [UInt8.le_iff_toNat_le, hb, UInt8.toNat_ofNat]
    omega
  simp [isTail, hrange]

theorem low6_of_toNat (hb : b.toNat = 0x80 + x) (hx : x < 64) : low6 b = x := by
  rw [low6, hb]
  omega

theorem lead_one (ha : a.toNat = w) (hw : w ≤ 0x7f) :
    lead a rest = .char (Char.ofNat w) 0 := by
  have hone : a < 0x80 := by
    rw [UInt8.lt_iff_toNat_lt, ha]
    exact Nat.lt_of_le_of_lt hw (by decide)
  rw [lead, if_pos hone, ha]

theorem lead_two (ha : a.toNat = 0xc0 + w) (hb : b.toNat = 0x80 + x) (hw : w < 32) (hx : x < 64)
    (hlong : 0x7f < w * 64 + x) :
    lead a (b :: rest) = .char (Char.ofNat (w * 64 + x)) 1 := by
  have hone : ¬ a < 0x80 := by
    simp only [UInt8.lt_iff_toNat_lt, ha, UInt8.toNat_ofNat]
    omega
  have htwo : 0xc2 ≤ a ∧ a ≤ 0xdf := by
    simp only [UInt8.le_iff_toNat_le, ha, UInt8.toNat_ofNat]
    omega
  have hlead : lead a (b :: rest) = lead2 a (b :: rest) := by
    simp [lead, hone, htwo]
  have hmod : a.toNat % 32 = w := by omega
  rw [hlead, lead2, if_pos (isTail_of_toNat hb hx), hmod, low6_of_toNat hb hx]

/-- The second of three bytes is none that makes the form overlong or the character a surrogate. -/
theorem secondOfThree_of_toNat (ha : a.toNat = 0xe0 + w) (hb : b.toNat = 0x80 + x) (hx : x < 64)
    (hlong : 0x7ff < (w * 64 + x) * 64 + y) (hy : y < 64)
    (hvalid : ((w * 64 + x) * 64 + y).isValidChar) : secondOfThree a b = true := by
  unfold secondOfThree
  split
  · next h =>
      have hrange : 0xa0 ≤ b ∧ b ≤ 0xbf := by
        simp only [UInt8.le_iff_toNat_le, hb, UInt8.toNat_ofNat]
        rw [h] at ha
        change 0xe0 = 0xe0 + w at ha
        omega
      simp [hrange]
  · split
    · next h =>
        have hrange : 0x80 ≤ b ∧ b ≤ 0x9f := by
          simp only [UInt8.le_iff_toNat_le, hb, UInt8.toNat_ofNat]
          rw [h] at ha
          change 0xed = 0xe0 + w at ha
          simp only [Nat.isValidChar] at hvalid
          omega
        simp [hrange]
    · exact isTail_of_toNat hb hx

theorem lead_three (ha : a.toNat = 0xe0 + w) (hb : b.toNat = 0x80 + x) (hc : c.toNat = 0x80 + y)
    (hw : w < 16) (hx : x < 64) (hy : y < 64) (hlong : 0x7ff < (w * 64 + x) * 64 + y)
    (hvalid : ((w * 64 + x) * 64 + y).isValidChar) :
    lead a (b :: c :: rest) = .char (Char.ofNat ((w * 64 + x) * 64 + y)) 2 := by
  have hone : ¬ a < 0x80 := by
    simp only [UInt8.lt_iff_toNat_lt, ha, UInt8.toNat_ofNat]
    omega
  have htwo : ¬ a ≤ 0xdf := by
    simp only [UInt8.le_iff_toNat_le, ha, UInt8.toNat_ofNat]
    omega
  have hthree : 0xe0 ≤ a ∧ a ≤ 0xef := by
    simp only [UInt8.le_iff_toNat_le, ha, UInt8.toNat_ofNat]
    omega
  have hlead : lead a (b :: c :: rest) = lead3 a (b :: c :: rest) := by
    simp [lead, hone, htwo, hthree]
  have hmod : a.toNat % 16 = w := by omega
  have hsecond : secondOfThree a b = true := secondOfThree_of_toNat ha hb hx hlong hy hvalid
  simp only [hlead, lead3, hsecond, isTail_of_toNat hc hy, if_true, hmod, low6_of_toNat hb hx,
    low6_of_toNat hc hy]

/-- The second of four bytes is none that makes the form overlong or leads past the last code
point. -/
theorem secondOfFour_of_toNat (ha : a.toNat = 0xf0 + w) (hb : b.toNat = 0x80 + x) (hx : x < 64)
    (hlong : 0xffff < ((w * 64 + x) * 64 + y) * 64 + z) (hy : y < 64) (hz : z < 64)
    (hvalid : (((w * 64 + x) * 64 + y) * 64 + z).isValidChar) : secondOfFour a b = true := by
  unfold secondOfFour
  split
  · next h =>
      have hrange : 0x90 ≤ b ∧ b ≤ 0xbf := by
        simp only [UInt8.le_iff_toNat_le, hb, UInt8.toNat_ofNat]
        rw [h] at ha
        change 0xf0 = 0xf0 + w at ha
        omega
      simp [hrange]
  · split
    · next h =>
        have hrange : 0x80 ≤ b ∧ b ≤ 0x8f := by
          simp only [UInt8.le_iff_toNat_le, hb, UInt8.toNat_ofNat]
          rw [h] at ha
          change 0xf4 = 0xf0 + w at ha
          simp only [Nat.isValidChar] at hvalid
          omega
        simp [hrange]
    · exact isTail_of_toNat hb hx

theorem lead_four (ha : a.toNat = 0xf0 + w) (hb : b.toNat = 0x80 + x) (hc : c.toNat = 0x80 + y)
    (hd : d.toNat = 0x80 + z) (hx : x < 64) (hy : y < 64) (hz : z < 64)
    (hlong : 0xffff < ((w * 64 + x) * 64 + y) * 64 + z)
    (hvalid : (((w * 64 + x) * 64 + y) * 64 + z).isValidChar) :
    lead a (b :: c :: d :: rest)
      = .char (Char.ofNat (((w * 64 + x) * 64 + y) * 64 + z)) 3 := by
  have hw : w < 5 := by
    simp only [Nat.isValidChar] at hvalid
    omega
  have hone : ¬ a < 0x80 := by
    simp only [UInt8.lt_iff_toNat_lt, ha, UInt8.toNat_ofNat]
    omega
  have htwo : ¬ a ≤ 0xdf := by
    simp only [UInt8.le_iff_toNat_le, ha, UInt8.toNat_ofNat]
    omega
  have hthree : ¬ a ≤ 0xef := by
    simp only [UInt8.le_iff_toNat_le, ha, UInt8.toNat_ofNat]
    omega
  have hfour : 0xf0 ≤ a ∧ a ≤ 0xf4 := by
    simp only [UInt8.le_iff_toNat_le, ha, UInt8.toNat_ofNat]
    omega
  have hlead : lead a (b :: c :: d :: rest) = lead4 a (b :: c :: d :: rest) := by
    simp [lead, hone, htwo, hthree, hfour]
  have hmod : a.toNat % 8 = w := by omega
  have hsecond : secondOfFour a b = true := secondOfFour_of_toNat ha hb hx hlong hy hz hvalid
  simp only [hlead, lead4, hsecond, isTail_of_toNat hc hy, isTail_of_toNat hd hz, if_true, hmod,
    low6_of_toNat hb hx, low6_of_toNat hc hy, low6_of_toNat hd hz]

end Lead

theorem toNat_byte {m n : Nat} (h : m + n < 256) : (UInt8.ofNat (m + n)).toNat = n + m := by
  rw [UInt8.toNat_ofNat']
  omega

/-- At the front of the bytes of a character stands this character, whatever follows. -/
theorem lead_encode (c : Char) (rest : Bytes) :
    ∃ a tail, String.utf8EncodeChar c = a :: tail ∧
      lead a (tail ++ rest) = .char c tail.length := by
  have hvalid : c.toNat.isValidChar := c.valid
  have hback : Char.ofNat c.toNat = c := Char.ofNat_toNat c
  have hval : c.val.toNat = c.toNat := rfl
  generalize c.toNat = v at hvalid hback hval
  unfold String.utf8EncodeChar
  simp only [hval]
  -- One case for each number of bytes; in each the parts of the code point make it up again.
  by_cases h1 : v ≤ 0x7f
  · rw [if_pos h1]
    refine ⟨_, _, rfl, ?_⟩
    rw [← hback]
    exact lead_one _ (by rw [UInt8.toNat_ofNat']; omega) h1
  · rw [if_neg h1]
    by_cases h2 : v ≤ 0x7ff
    · have hsum : v / 64 % 32 * 64 + v % 64 = v := by omega
      have hchar : Char.ofNat (v / 64 % 32 * 64 + v % 64) = c := by rw [hsum, hback]
      rw [if_pos h2]
      refine ⟨_, _, rfl, ?_⟩
      rw [← hchar]
      exact lead_two _ (toNat_byte (by omega)) (toNat_byte (by omega)) (by omega) (by omega)
        (by omega)
    · rw [if_neg h2]
      by_cases h3 : v ≤ 0xffff
      · have hsum : (v / 4096 % 16 * 64 + v / 64 % 64) * 64 + v % 64 = v := by omega
        have hchar : Char.ofNat ((v / 4096 % 16 * 64 + v / 64 % 64) * 64 + v % 64) = c := by
          rw [hsum, hback]
        rw [if_pos h3]
        refine ⟨_, _, rfl, ?_⟩
        rw [← hchar]
        exact lead_three _ (toNat_byte (by omega)) (toNat_byte (by omega)) (toNat_byte (by omega))
          (by omega) (by omega) (by omega) (by omega) (by rwa [hsum])
      · have hlast : v < 0x110000 := by
          simp only [Nat.isValidChar] at hvalid
          omega
        have hsum : ((v / 262144 % 8 * 64 + v / 4096 % 64) * 64 + v / 64 % 64) * 64 + v % 64
            = v := by omega
        have hchar : Char.ofNat
            (((v / 262144 % 8 * 64 + v / 4096 % 64) * 64 + v / 64 % 64) * 64 + v % 64) = c := by
          rw [hsum, hback]
        rw [if_neg h3]
        refine ⟨_, _, rfl, ?_⟩
        rw [← hchar]
        exact lead_four _ (toNat_byte (by omega)) (toNat_byte (by omega)) (toNat_byte (by omega))
          (toNat_byte (by omega)) (by omega) (by omega) (by omega) (by omega) (by rwa [hsum])

/-! ## Texts -/

theorem encode_cons (c : Char) (s : List Char) :
    encode (c :: s) = String.utf8EncodeChar c ++ encode s :=
  List.flatMap_cons

theorem decodeFrom_encode (out s : List Char) :
    decodeFrom out (encode s) = some (out.reverse ++ s) := by
  induction s generalizing out with
  | nil => simp [encode, decodeFrom]
  | cons c s ih =>
      obtain ⟨a, tail, hbytes, hlead⟩ := lead_encode c (encode s)
      rw [encode_cons, hbytes, List.cons_append, decodeFrom, hlead]
      simp [ih]

/-- The bytes of a text are read as the text. -/
theorem decode?_encode (s : List Char) : decode? (encode s) = some s :=
  decodeFrom_encode [] s

theorem decodeLossyFrom_encode (out s : List Char) :
    decodeLossyFrom out (encode s) = out.reverse ++ s := by
  induction s generalizing out with
  | nil => simp [encode, decodeLossyFrom]
  | cons c s ih =>
      obtain ⟨a, tail, hbytes, hlead⟩ := lead_encode c (encode s)
      rw [encode_cons, hbytes, List.cons_append, decodeLossyFrom, hlead]
      simp [ih]

/-- A lenient reader finds nothing to replace in the bytes of a text. -/
theorem decodeLossy_encode (s : List Char) : decodeLossy (encode s) = s :=
  decodeLossyFrom_encode [] s

theorem encode_injective {s t : List Char} (h : encode s = encode t) : s = t := by
  have hread : decode? (encode s) = decode? (encode t) := congrArg decode? h
  rw [decode?_encode, decode?_encode] at hread
  exact Option.some.inj hread

theorem encodeString_injective {s t : String} (h : encodeString s = encodeString t) : s = t :=
  String.toList_injective (encode_injective h)

end Switchboard.Text
