/-
# Decimal digits

A number in decimal is a row of ASCII digits that spells the number, and it is the only one without
a zero in front.  A text that is read as a number of 64 bits holds nothing but digits and a sign.
-/
import Mathlib.Algebra.Group.Int.Defs
import Switchboard.Number.Reading

namespace Switchboard.Number

theorem isDigit_iff {c : Char} : isDigit c = true ↔ 48 ≤ c.toNat ∧ c.toNat ≤ 57 := by
  simp only [isDigit, Bool.and_eq_true, decide_eq_true_eq]
  exact Iff.rfl

theorem isDigit_of_mem_toDigits {n : Nat} {c : Char} (h : c ∈ Nat.toDigits 10 n) :
    isDigit c = true :=
  Nat.isDigit_of_mem_toDigits (by decide) (by decide) h

theorem ofDigits_toDigits (n : Nat) : ofDigits (Nat.toDigits 10 n) = n :=
  Nat.ofDigitChars_ten_toDigits

/-! ## Rows of digits without a zero in front -/

theorem digitValue_lt {c : Char} (h : isDigit c = true) : digitValue c < 10 := by
  have hzero : '0'.toNat = 48 := rfl
  have := isDigit_iff.mp h
  rw [digitValue, hzero]
  omega

theorem digitChar_digitValue {c : Char} (h : isDigit c = true) :
    Nat.digitChar (digitValue c) = c := by
  have hall : ∀ n < 58, 48 ≤ n → Nat.digitChar (n - 48) = Char.ofNat n := by decide
  obtain ⟨hlow, hhigh⟩ := isDigit_iff.mp h
  exact (hall c.toNat (by omega) hlow).trans (Char.ofNat_toNat c)

theorem toDigits_digitValue {c : Char} (h : isDigit c = true) :
    Nat.toDigits 10 (digitValue c) = [c] := by
  rw [Nat.toDigits_of_lt_base (digitValue_lt h), digitChar_digitValue h]

theorem toDigits_foldl {s : List Char} (hs : ∀ c ∈ s, isDigit c = true) {n : Nat} (hn : 0 < n) :
    Nat.toDigits 10 (s.foldl (fun n c => 10 * n + digitValue c) n) = Nat.toDigits 10 n ++ s := by
  induction s generalizing n with
  | nil => simp
  | cons c s ih =>
      have hc : isDigit c = true := hs c List.mem_cons_self
      have hnext : Nat.toDigits 10 (10 * n + digitValue c) = Nat.toDigits 10 n ++ [c] := by
        rw [← Nat.toDigits_append_toDigits (by decide) hn (digitValue_lt hc),
          toDigits_digitValue hc]
      rw [List.foldl_cons, ih (fun d hd => hs d (List.mem_cons_of_mem c hd)) (by omega), hnext,
        List.append_assoc, List.singleton_append]

/-- A row of digits is the number that it spells, unless there is a zero in front. -/
theorem toDigits_ofDigits {s : List Char} (hne : s ≠ []) (hs : ∀ c ∈ s, isDigit c = true)
    (hzero : s.head? = some '0' → s.length = 1) : Nat.toDigits 10 (ofDigits s) = s := by
  cases s with
  | nil => exact absurd rfl hne
  | cons c rest =>
      have hc : isDigit c = true := hs c List.mem_cons_self
      have hrest : ∀ d ∈ rest, isDigit d = true := fun d hd => hs d (List.mem_cons_of_mem c hd)
      by_cases hfirst : c = '0'
      · subst hfirst
        obtain rfl : rest = [] := List.eq_nil_of_length_eq_zero (Nat.succ.inj (hzero rfl))
        rfl
      · have hpos : 0 < digitValue c := by
          refine Nat.pos_of_ne_zero fun hz => hfirst ?_
          rw [← digitChar_digitValue hc, hz]
          rfl
        have hstart : 10 * 0 + digitValue c = digitValue c := by omega
        rw [ofDigits, List.foldl_cons, hstart, toDigits_foldl hrest hpos, toDigits_digitValue hc]
        rfl

/-- There is no zero in front of a number that is not zero. -/
theorem head?_toDigits_ne_zero {n : Nat} (hn : 0 < n) : (Nat.toDigits 10 n).head? ≠ some '0' := by
  induction n using Nat.strongRecOn with
  | ind n ih =>
      by_cases hlt : n < 10
      · have hall : ∀ n < 10, 0 < n → [Nat.digitChar n].head? ≠ some '0' := by decide
        rw [Nat.toDigits_of_lt_base hlt]
        exact hall n hlt hn
      · have hrest := ih (n / 10) (by omega) (by omega)
        rw [Nat.toDigits_of_base_le (by decide) (by omega)]
        cases hd : Nat.toDigits 10 (n / 10) with
        | nil => exact absurd hd Nat.toDigits_ne_nil
        | cons c digits =>
            rw [hd] at hrest
            exact hrest

/-! ## Numbers of 64 bits -/

/-- A text that spells a number of 64 bits without sign: digits, perhaps behind one plus sign. -/
def Spells (s : List Char) (n : Nat) : Prop :=
  ∃ digits, digits ≠ [] ∧ (∀ c ∈ digits, isDigit c = true) ∧ (s = digits ∨ s = '+' :: digits) ∧
    ofDigits digits = n ∧ n < Nat.pow 2 64

theorem digits?_eq_some_iff {s : List Char} {n : Nat} :
    digits? s = some n ↔ s ≠ [] ∧ (∀ c ∈ s, isDigit c = true) ∧ ofDigits s = n := by
  simp [digits?, Option.ite_none_left_eq_some, and_assoc]

/-- A number of 64 bits is read from the texts that spell it. -/
theorem word64?_eq_some_iff {s : List Char} {n : Nat} : word64? s = some n ↔ Spells s n := by
  have hread : word64? s = some n ↔
      digits? (if s.head? = some '+' then s.drop 1 else s) = some n ∧ n < Nat.pow 2 64 := by
    simp only [word64?, natural?, Option.bind_eq_bind, Option.bind_eq_some_iff,
      Option.ite_none_right_eq_some, Option.some.injEq]
    constructor
    · rintro ⟨m, hm, hlt, rfl⟩
      exact ⟨hm, hlt⟩
    · rintro ⟨hn, hlt⟩
      exact ⟨n, hn, hlt, rfl⟩
  rw [hread, digits?_eq_some_iff]
  -- A plus sign is no digit, so the text that begins with one is not a row of digits itself.
  by_cases hplus : s.head? = some '+'
  · obtain ⟨rest, rfl⟩ : ∃ rest, s = '+' :: rest := List.head?_eq_some_iff.mp hplus
    rw [if_pos hplus, List.drop_one, List.tail_cons]
    constructor
    · rintro ⟨⟨hne, hall, hn⟩, hlt⟩
      exact ⟨rest, hne, hall, .inr rfl, hn, hlt⟩
    · rintro ⟨digits, hne, hall, hs | hs, hn, hlt⟩
      · exact absurd (hall '+' (hs ▸ List.mem_cons_self)) (by decide)
      · obtain rfl := (List.cons.inj hs).2
        exact ⟨⟨hne, hall, hn⟩, hlt⟩
  · rw [if_neg hplus]
    constructor
    · rintro ⟨⟨hne, hall, hn⟩, hlt⟩
      exact ⟨s, hne, hall, .inl rfl, hn, hlt⟩
    · rintro ⟨digits, hne, hall, rfl | rfl, hn, hlt⟩
      · exact ⟨⟨hne, hall, hn⟩, hlt⟩
      · exact absurd rfl hplus

/-- Every character of a text that is read as a number is a digit or a plus sign. -/
theorem mem_of_word64? {s : List Char} {t : Nat} (h : word64? s = some t) {c : Char}
    (hc : c ∈ s) : c = '+' ∨ isDigit c = true := by
  obtain ⟨digits, -, hall, rfl | rfl, -⟩ := word64?_eq_some_iff.mp h
  · exact .inr (hall c hc)
  · rcases List.mem_cons.mp hc with rfl | hc
    · exact .inl rfl
    · exact .inr (hall c hc)

/-! ## Numbers that are written out -/

theorem toList_toString (n : Nat) : (toString n).toList = Nat.toDigits 10 n := by
  show (Nat.repr n).toList = _
  rw [Nat.repr, String.toList_ofList]

theorem digits?_toDigits (n : Nat) : digits? (Nat.toDigits 10 n) = some n := by
  have hempty : (Nat.toDigits 10 n).isEmpty = false := by
    cases h : Nat.toDigits 10 n with
    | nil => exact absurd h Nat.toDigits_ne_nil
    | cons c rest => rfl
  have hall : (Nat.toDigits 10 n).all isDigit = true :=
    List.all_eq_true.mpr fun _ => isDigit_of_mem_toDigits
  rw [digits?, hempty, hall, ofDigits_toDigits]
  rfl

/-- A number of 64 bits is spelled as it is written out. -/
theorem spells_toString {n : Nat} (h : n < Nat.pow 2 64) : Spells (toString n).toList n := by
  rw [toList_toString]
  exact ⟨_, Nat.toDigits_ne_nil, fun _ => isDigit_of_mem_toDigits, .inl rfl, ofDigits_toDigits n, h⟩

/-- A sign is no digit. -/
theorem head?_toDigits_ne {n : Nat} {c : Char} (hc : isDigit c = false) :
    (Nat.toDigits 10 n).head? ≠ some c := by
  intro h
  have hmem := List.mem_of_mem_head? (Option.mem_def.mpr h)
  rw [isDigit_of_mem_toDigits hmem] at hc
  cases hc

/-- A number with a sign and of 64 bits is read as it is written out. -/
theorem integer64?_toString {n : Int} (hlow : -(2 : Int) ^ 63 ≤ n) (hhigh : n < 2 ^ 63) :
    integer64? (toString n).toList = some n := by
  have hpow : (Nat.pow 2 63 : Int) = 2 ^ 63 := rfl
  cases n with
  | ofNat m =>
      have hread : natural? (Nat.pow 2 63) (Nat.toDigits 10 m) = some m := by
        have hm : m < Nat.pow 2 63 := by
          have : (m : Int) < 2 ^ 63 := hhigh
          omega
        rw [natural?, if_neg (head?_toDigits_ne rfl), digits?_toDigits]
        exact if_pos hm
      show integer64? (toString m).toList = _
      rw [toList_toString, integer64?]
      · rw [hread]
        rfl
      · intro rest hminus
        exact head?_toDigits_ne (n := m) (c := '-') rfl (by rw [hminus]; rfl)
  | negSucc m =>
      have hm : m + 1 ≤ Nat.pow 2 63 := by
        have : -(2 : Int) ^ 63 ≤ Int.negSucc m := hlow
        omega
      show integer64? ("-" ++ toString (m + 1)).toList = _
      rw [String.toList_append, toList_toString]
      show (do
        let n ← digits? (Nat.toDigits 10 (m + 1))
        if n ≤ Nat.pow 2 63 then some (-(n : Int)) else none) = some (Int.negSucc m)
      rw [digits?_toDigits]
      exact if_pos hm

theorem bounds_of_integer64? {s : List Char} {n : Int} (h : integer64? s = some n) :
    -(2 : Int) ^ 63 ≤ n ∧ n < 2 ^ 63 := by
  have hpow : (Nat.pow 2 63 : Int) = 2 ^ 63 := rfl
  unfold integer64? at h
  split at h
  · simp only [Option.bind_eq_bind, Option.bind_eq_some_iff] at h
    obtain ⟨m, -, h⟩ := h
    obtain ⟨hm, hn⟩ := Option.ite_none_right_eq_some.mp h
    have := Option.some.inj hn
    omega
  · obtain ⟨m, hm, rfl⟩ := Option.map_eq_some_iff.mp h
    simp only [natural?, Option.bind_eq_bind, Option.bind_eq_some_iff] at hm
    obtain ⟨m', -, hm⟩ := hm
    obtain ⟨hlt, hm⟩ := Option.ite_none_right_eq_some.mp hm
    have := Option.some.inj hm
    have hofNat : Int.ofNat m = (m : Int) := rfl
    omega

end Switchboard.Number
