/-
# Texts in headers

A text of printable ASCII characters can stand in a header field, and the field is read as this text.
The digits of a digest are such a text.  A look-up shows the text of the first field with a name if this
field can be read, and else nothing, whatever fields follow (`text?_eq_some_iff`, `text?_eq_none_iff`).
-/
import Switchboard.Digest.Hex
import Switchboard.Http.Header
import Switchboard.Proofs.Text.Utf8

namespace Switchboard.Http

section Field

variable {name other : String} {value : Bytes} {rest : Headers}

/-- A field with the name is found. -/
theorem first?_cons_of_eq (h : foldCase other = foldCase name) :
    first? ((other, value) :: rest) name = some value := by
  simp [first?, h]

/-- A field with another name is skipped. -/
theorem first?_cons_of_ne (h : foldCase other ≠ foldCase name) :
    first? ((other, value) :: rest) name = first? rest name := by
  simp [first?, h]

theorem text?_eq_none (h : first? rest name = none) : text? rest name = none := by
  simp only [text?, h]

end Field

/-- A character that may stand in a header: from the space to the tilde. -/
def IsPlain (c : Char) : Prop := 0x20 ≤ c.toNat ∧ c.toNat ≤ 0x7e

instance (c : Char) : Decidable (IsPlain c) := inferInstanceAs (Decidable (_ ∧ _))

/-- Whether a text is plain can be computed. -/
theorem isPlain_of_all {s : List Char} (h : s.all (fun c => decide (IsPlain c)) = true) :
    ∀ c ∈ s, IsPlain c :=
  fun c hc => of_decide_eq_true (List.all_eq_true.mp h c hc)

section Char

variable {c : Char} (h : IsPlain c)
include h

theorem utf8EncodeChar_plain : String.utf8EncodeChar c = [UInt8.ofNat c.toNat] := by
  have hle : c.toNat ≤ 127 := Nat.le_trans h.2 (by decide)
  simp [String.utf8EncodeChar, hle]

theorem toNat_ofNat_plain : (UInt8.ofNat c.toNat).toNat = c.toNat := by
  have hle := h.2
  rw [UInt8.toNat_ofNat']
  omega

theorem isPrintable_plain : isPrintable (UInt8.ofNat c.toNat) = true := by
  simp [isPrintable, UInt8.le_iff_toNat_le, toNat_ofNat_plain h, h.1, h.2]

theorem byteChar_plain : byteChar (UInt8.ofNat c.toNat) = c := by
  rw [byteChar, toNat_ofNat_plain h, Char.ofNat_toNat]

end Char

/-- A plain text has one byte for each character. -/
theorem encode_plain {s : List Char} (h : ∀ c ∈ s, IsPlain c) :
    Text.encode s = s.map fun c => UInt8.ofNat c.toNat := by
  induction s with
  | nil => rfl
  | cons c rest ih =>
      have hrest : ∀ c ∈ rest, IsPlain c := fun d hd => h d (List.mem_cons_of_mem _ hd)
      have hc : IsPlain c := h c List.mem_cons_self
      show String.utf8EncodeChar c ++ Text.encode rest = _
      rw [utf8EncodeChar_plain hc, ih hrest]
      rfl

/-- A field that holds a plain text is read as this text. -/
theorem text?_eq_some_of_plain {headers : Headers} {name s : String}
    (hs : ∀ c ∈ s.toList, IsPlain c)
    (hfirst : first? headers name = some (Text.encodeString s)) :
    text? headers name = some s := by
  have hprintable : (Text.encodeString s).all isPrintable = true := by
    rw [Text.encodeString, encode_plain hs, List.all_map, List.all_eq_true]
    exact fun c hc => isPrintable_plain (hs c hc)
  have hchars : (Text.encodeString s).map byteChar = s.toList := by
    rw [Text.encodeString, encode_plain hs, List.map_map]
    exact (List.map_congr_left fun c hc => byteChar_plain (hs c hc)).trans (List.map_id _)
  simp only [text?, hfirst, hprintable, if_true, hchars, String.ofList_toList]

theorem isPlain_digitChar : ∀ n < 16, IsPlain (Nat.digitChar n) := by
  decide

theorem isPlain_of_mem_hex {s : Bytes} {c : Char} (h : c ∈ Digest.hex s) : IsPlain c := by
  obtain ⟨b, -, hb⟩ := List.mem_flatMap.mp h
  have hlt : b.toNat < 256 := b.toNat_lt
  rcases List.mem_cons.mp hb with rfl | hb
  · exact isPlain_digitChar _ (by omega)
  · obtain rfl := List.mem_singleton.mp hb
    exact isPlain_digitChar _ (by omega)

/-! ## The first field with a name -/

section First

variable {headers : Headers} {name s : String} {value : Bytes}

/-- The first field with a name, in any letter case, holds a value; what follows does not matter. -/
def FirstIs (headers : Headers) (name : String) (value : Bytes) : Prop :=
  ∃ before other after, headers = before ++ (other, value) :: after ∧
    foldCase other = foldCase name ∧ ∀ h ∈ before, foldCase h.1 ≠ foldCase name

/-- Whether a value can be read as a text: it has no bytes but printable ones and tabs. -/
def Readable (value : Bytes) : Prop := ∀ b ∈ value, b = 0x09 ∨ (0x20 ≤ b ∧ b ≤ 0x7e)

/-- The first field with a name holds a text. -/
def Shows (headers : Headers) (name s : String) : Prop :=
  FirstIs headers name (Text.encodeString s) ∧ Readable (Text.encodeString s)

/-- There is no field with a name, or the first one cannot be read, whatever follows. -/
def Hides (headers : Headers) (name : String) : Prop :=
  (∀ h ∈ headers, foldCase h.1 ≠ foldCase name) ∨
    ∃ value, FirstIs headers name value ∧ ¬ Readable value

theorem first?_eq_some_iff : first? headers name = some value ↔ FirstIs headers name value := by
  simp only [first?, Option.map_eq_some_iff, List.find?_eq_some_iff_append]
  constructor
  · rintro ⟨⟨other, _⟩, ⟨hname, before, after, rfl, hbefore⟩, rfl⟩
    exact ⟨before, other, after, rfl, by simpa using hname, fun h hh => by
      simpa using hbefore h hh⟩
  · rintro ⟨before, other, after, rfl, hname, hbefore⟩
    exact ⟨(other, value), ⟨by simpa using hname, before, after, rfl, fun h hh => by
      simpa using hbefore h hh⟩, rfl⟩

theorem first?_eq_none_iff :
    first? headers name = none ↔ ∀ h ∈ headers, foldCase h.1 ≠ foldCase name := by
  simp [first?, List.find?_eq_none]

theorem all_isPrintable_iff : value.all isPrintable = true ↔ Readable value := by
  simp [Readable, isPrintable]

/-- A byte below 128 is the whole form of its character. -/
theorem utf8EncodeChar_byteChar {b : UInt8} (h : b ≤ 0x7e) :
    String.utf8EncodeChar (byteChar b) = [b] := by
  have hb : b.toNat ≤ 126 := UInt8.le_iff_toNat_le.mp h
  have hval : (byteChar b).val.toNat = b.toNat := by
    have hvalid : b.toNat.isValidChar := .inl (by omega)
    rw [byteChar, Char.ofNat, dif_pos hvalid]
    rfl
  have hle : b.toNat ≤ 127 := by omega
  simp [String.utf8EncodeChar, hval, hle]

/-- A readable value is the form of its text. -/
theorem encode_of_readable (h : Readable value) : Text.encode (value.map byteChar) = value := by
  induction value with
  | nil => rfl
  | cons b rest ih =>
      have hb : b ≤ 0x7e := by
        rcases h b List.mem_cons_self with rfl | h
        · decide
        · exact h.2
      rw [List.map_cons, Text.encode_cons, utf8EncodeChar_byteChar hb,
        ih fun d hd => h d (List.mem_cons_of_mem b hd)]
      rfl

theorem text?_eq_some_iff : text? headers name = some s ↔ Shows headers name s := by
  unfold text? Shows
  rw [← first?_eq_some_iff, ← all_isPrintable_iff]
  cases hfirst : first? headers name with
  | none => simp
  | some value =>
      by_cases hall : value.all isPrintable = true
      · have hback := encode_of_readable (all_isPrintable_iff.mp hall)
        simp only [hall, if_true, Option.some.injEq]
        constructor
        · rintro rfl
          have hsame : Text.encodeString (String.ofList (value.map byteChar)) = value := by
            rw [Text.encodeString, String.toList_ofList, hback]
          rw [hsame]
          exact ⟨rfl, hall⟩
        · rintro ⟨rfl, -⟩
          rw [Text.encode_injective hback, String.ofList_toList]
      · simp only [hall, Bool.false_eq_true, if_false, reduceCtorEq, false_iff, not_and]
        intro heq
        rwa [← Option.some.inj heq]

theorem text?_eq_none_iff : text? headers name = none ↔ Hides headers name := by
  unfold text? Hides
  rw [← first?_eq_none_iff]
  cases hfirst : first? headers name with
  | none => simp
  | some value =>
      have hunique : ∀ v, FirstIs headers name v ↔ value = v := fun v => by
        rw [← first?_eq_some_iff, hfirst, Option.some.injEq]
      have hsome : (∃ v, FirstIs headers name v ∧ ¬ Readable v) ↔
          ¬ value.all isPrintable = true := by
        simp only [hunique, all_isPrintable_iff, exists_eq_left']
      rw [hsome]
      by_cases hall : value.all isPrintable = true
      · simp only [hall, if_true, reduceCtorEq, not_true, or_self]
      · simp only [hall, if_false, reduceCtorEq, false_or, Bool.false_eq_true, not_false_eq_true]

end First
end Switchboard.Http
