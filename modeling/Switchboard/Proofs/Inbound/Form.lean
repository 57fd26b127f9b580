/-
# Forms are read back

A client may write the same fields as a form in several ways: `FormOf` relates fields to all bodies
that stand for them, and `formPairs_of_formOf` says that each is read as the fields.  `formBody` is
the way in which most clients do it.
-/
import Mathlib.Data.List.Forall2
import Switchboard.Inbound.Form
import Switchboard.Proofs.Text.Search
import Switchboard.Proofs.Text.Utf8

namespace Switchboard.Inbound

/-! ## Bodies that stand for fields -/

/-- The bytes that mean something in a form: `%`, `&`, `+` and `=`. -/
def marks : Bytes := [0x25, 0x26, 0x2b, 0x3d]

/-- How a byte may be written: as it is, unless it is a mark; as a plus sign, if it is a space; or as
its number behind a percent sign, in hexadecimal digits of either case. -/
inductive ByteOf : UInt8 → Bytes → Prop where
  | plain {b : UInt8} (h : b ∉ marks) : ByteOf b [b]
  | plus : ByteOf 0x20 [0x2b]
  | number {b high low : UInt8} (hhigh : Http.hexByte? high = some (b.toNat / 16))
      (hlow : Http.hexByte? low = some (b.toNat % 16)) : ByteOf b [0x25, high, low]

/-- How a text may be written, byte by byte. -/
inductive BytesOf : Bytes → Bytes → Prop where
  | nil : BytesOf [] []
  | cons {b : UInt8} {s t r : Bytes} (h : ByteOf b t) (rest : BytesOf s r) :
      BytesOf (b :: s) (t ++ r)

/-- How a field may be written: key and value with an equals sign between them. -/
inductive FieldOf : String × String → Bytes → Prop where
  | mk {key value : String} {k v : Bytes} (hkey : BytesOf (Text.encodeString key) k)
      (hvalue : BytesOf (Text.encodeString value) v) : FieldOf (key, value) (k ++ 0x3d :: v)

/-- How fields may be written as a body: with ampersands between them. -/
def FormOf (fields : List (String × String)) (body : Bytes) : Prop :=
  ∃ pieces, List.Forall₂ FieldOf fields pieces ∧ body = [0x26].intercalate pieces

/-! ## Reading keys and values -/

theorem hexByte?_mark : ∀ b ∈ marks, Http.hexByte? b = none := by
  intro b hb
  simp only [marks, List.mem_cons, List.not_mem_nil, or_false] at hb
  rcases hb with rfl | rfl | rfl | rfl <;> rfl

/-- A hexadecimal digit is no mark. -/
theorem notMem_marks {b : UInt8} {n : Nat} (h : Http.hexByte? b = some n) : b ∉ marks :=
  fun hb => nomatch (hexByte?_mark b hb).symm.trans h

theorem ByteOf.separator_notMem {b m : UInt8} {t : Bytes} (h : ByteOf b t)
    (hm : m = 0x26 ∨ m = 0x3d) : m ∉ t := by
  have hmark : m ∈ marks := by
    rcases hm with rfl | rfl <;> decide
  have hother : m ≠ 0x25 ∧ m ≠ 0x2b := by
    rcases hm with rfl | rfl <;> decide
  cases h with
  | plain h =>
      rintro hmem
      exact h (List.mem_singleton.mp hmem ▸ hmark)
  | plus => exact fun hmem => hother.2 (List.mem_singleton.mp hmem)
  | number hhigh hlow =>
      intro hmem
      rcases List.mem_cons.mp hmem with rfl | hmem
      · exact hother.1 rfl
      rcases List.mem_cons.mp hmem with rfl | hmem
      · exact notMem_marks hhigh hmark
      · exact notMem_marks hlow (List.mem_singleton.mp hmem ▸ hmark)

theorem BytesOf.separator_notMem {s t : Bytes} {m : UInt8} (h : BytesOf s t)
    (hm : m = 0x26 ∨ m = 0x3d) : m ∉ t := by
  induction h with
  | nil => exact List.not_mem_nil
  | cons h _ ih =>
      intro hmem
      rcases List.mem_append.mp hmem with hmem | hmem
      · exact h.separator_notMem hm hmem
      · exact ih hmem

/-- A byte for which a plus sign stands for a space. -/
def spaced (b : UInt8) : UInt8 := if b = 0x2b then 0x20 else b

theorem unescapedFrom_byteOf {b : UInt8} {t : Bytes} (h : ByteOf b t) (out rest : Bytes) :
    Http.unescapedFrom out (t.map spaced ++ rest) = Http.unescapedFrom (b :: out) rest := by
  have hspaced : ∀ c ∉ marks, spaced c = c := fun c hc =>
    if_neg fun (hplus : c = 0x2b) => hc (hplus ▸ by decide)
  cases h with
  | plain h =>
      have hpercent : b ≠ 0x25 := fun hb => h (hb ▸ by decide)
      rw [List.map_singleton, hspaced b h, List.singleton_append, Http.unescapedFrom,
        if_neg hpercent]
  | plus =>
      show Http.unescapedFrom out (0x20 :: rest) = _
      rw [Http.unescapedFrom, if_neg (by decide)]
  | @number _ high low hhigh hlow =>
      have hbyte : UInt8.ofNat (16 * (b.toNat / 16) + b.toNat % 16) = b := by
        rw [Nat.div_add_mod, UInt8.ofNat_toNat]
      have hahead : Http.digitsAhead? (high :: low :: rest) = some b := by
        simp only [Http.digitsAhead?, Option.bind_eq_bind, hhigh, hlow, Option.bind_some, hbyte]
      show Http.unescapedFrom out (0x25 :: spaced high :: spaced low :: rest) = _
      rw [hspaced high (notMem_marks hhigh), hspaced low (notMem_marks hlow), Http.unescapedFrom,
        if_pos rfl, hahead]
      rfl

theorem unescapedFrom_bytesOf {s t : Bytes} (h : BytesOf s t) (out : Bytes) :
    Http.unescapedFrom out (t.map spaced) = out.reverse ++ s := by
  induction h generalizing out with
  | nil => simp [Http.unescapedFrom]
  | cons h _ ih =>
      rw [List.map_append, unescapedFrom_byteOf h, ih]
      simp

/-- A text that is written in one of these ways is read as the text. -/
theorem formText_of_bytesOf {s : String} {t : Bytes} (h : BytesOf (Text.encodeString s) t) :
    formText t = s := by
  have hbytes : unescape t = Text.encodeString s := unescapedFrom_bytesOf h []
  rw [formText, hbytes, Text.encodeString, Text.decodeLossy_encode, String.ofList_toList]

/-! ## Reading fields -/

theorem formPair_of_fieldOf {field : String × String} {piece : Bytes} (h : FieldOf field piece) :
    formPair piece = field := by
  cases h with
  | mk hkey hvalue =>
      rw [formPair, Text.cut_append (hkey.separator_notMem (.inr rfl))]
      exact Prod.ext (formText_of_bytesOf hkey) (formText_of_bytesOf hvalue)

theorem FieldOf.ampersand_notMem {field : String × String} {piece : Bytes}
    (h : FieldOf field piece) : 0x26 ∉ piece := by
  cases h with
  | mk hkey hvalue =>
      simp only [List.mem_append, List.mem_cons, not_or]
      exact ⟨hkey.separator_notMem (.inl rfl), by decide, hvalue.separator_notMem (.inl rfl)⟩

theorem FieldOf.ne_nil {field : String × String} {piece : Bytes} (h : FieldOf field piece) :
    piece ≠ [] := by
  cases h with
  | mk hkey hvalue => exact List.append_ne_nil_of_right_ne_nil _ (List.cons_ne_nil _ _)

section Fields

variable {fields : List (String × String)} {pieces : List Bytes}

theorem ampersand_notMem_of_forall₂ (h : List.Forall₂ FieldOf fields pieces) :
    ∀ piece ∈ pieces, 0x26 ∉ piece := by
  induction h with
  | nil => exact fun _ hmem => absurd hmem List.not_mem_nil
  | cons h _ ih =>
      intro piece hmem
      rcases List.mem_cons.mp hmem with rfl | hmem
      · exact h.ampersand_notMem
      · exact ih piece hmem

theorem formPairs_of_forall₂ (h : List.Forall₂ FieldOf fields pieces) :
    (pieces.filter fun piece => !piece.isEmpty).map formPair = fields := by
  induction h with
  | nil => rfl
  | cons h _ ih =>
      rw [List.filter_cons_of_pos (by simpa using h.ne_nil), List.map_cons, ih,
        formPair_of_fieldOf h]

end Fields

/-- A body that stands for fields is read as the fields. -/
theorem formPairs_of_formOf {fields : List (String × String)} {body : Bytes}
    (h : FormOf fields body) : formPairs body = fields := by
  obtain ⟨pieces, hpieces, rfl⟩ := h
  cases pieces with
  | nil =>
      cases hpieces
      rfl
  | cons piece pieces =>
      rw [formPairs, Text.split_intercalate (ampersand_notMem_of_forall₂ hpieces)]
      exact formPairs_of_forall₂ hpieces

/-! ## The common way of writing -/

/-- The bytes that are written as they are: digits, letters and the marks `*`, `-`, `.` and `_`. -/
def isKept (b : UInt8) : Bool :=
  (0x30 ≤ b && b ≤ 0x39) || (0x41 ≤ b && b ≤ 0x5a) || (0x61 ≤ b && b ≤ 0x7a) ||
    b = 0x2a || b = 0x2d || b = 0x2e || b = 0x5f

/-- A byte as it is commonly written. -/
def formByte (b : UInt8) : Bytes :=
  if b = 0x20 then [0x2b] else if isKept b then [b] else Text.encode (Http.percent b)

/-- A text as it is commonly written. -/
def formBytes (s : Bytes) : Bytes := s.flatMap formByte

/-- A field as it is commonly written. -/
def formField (field : String × String) : Bytes :=
  formBytes (Text.encodeString field.1) ++ 0x3d :: formBytes (Text.encodeString field.2)

/-- Fields as they are commonly written. -/
def formBody (fields : List (String × String)) : Bytes := [0x26].intercalate (fields.map formField)

theorem marks_not_kept : ∀ b ∈ marks, isKept b = false := by
  intro b hb
  simp only [marks, List.mem_cons, List.not_mem_nil, or_false] at hb
  rcases hb with rfl | rfl | rfl | rfl <;> rfl

/-- The digits behind a percent sign. -/
theorem encode_percent (b : UInt8) :
    ∃ high low, Text.encode (Http.percent b) = [0x25, high, low] ∧
      Http.hexByte? high = some (b.toNat / 16) ∧ Http.hexByte? low = some (b.toNat % 16) := by
  have hdigit : ∀ n < 16,
      String.utf8EncodeChar (Nat.digitChar n).toUpper
          = [UInt8.ofNat (Nat.digitChar n).toUpper.toNat] ∧
        Http.hexByte? (UInt8.ofNat (Nat.digitChar n).toUpper.toNat) = some n := by
    decide
  have hpercent : String.utf8EncodeChar '%' = [0x25] := rfl
  have hlt : b.toNat < 256 := b.toNat_lt
  obtain ⟨hhigh, hhigh'⟩ := hdigit (b.toNat / 16) (by omega)
  obtain ⟨hlow, hlow'⟩ := hdigit (b.toNat % 16) (by omega)
  refine ⟨_, _, ?_, hhigh', hlow'⟩
  simp [Http.percent, Digest.byteDigits, Text.encode, hpercent, hhigh, hlow]

theorem byteOf_formByte (b : UInt8) : ByteOf b (formByte b) := by
  unfold formByte
  split
  · rename_i h
    subst h
    exact .plus
  · split
    · rename_i hkept
      exact .plain fun hmark => by simp [marks_not_kept b hmark] at hkept
    · obtain ⟨high, low, hbytes, hhigh, hlow⟩ := encode_percent b
      rw [hbytes]
      exact .number hhigh hlow

theorem bytesOf_formBytes : ∀ s : Bytes, BytesOf s (formBytes s)
  | [] => .nil
  | b :: s => .cons (byteOf_formByte b) (bytesOf_formBytes s)

/-- The common way is one of those in which fields may be written. -/
theorem formOf_formBody (fields : List (String × String)) : FormOf fields (formBody fields) := by
  refine ⟨_, ?_, rfl⟩
  rw [List.forall₂_map_right_iff]
  exact List.forall₂_same.mpr fun field _ => .mk (bytesOf_formBytes _) (bytesOf_formBytes _)

end Switchboard.Inbound
