/-
# Texts between quotes

A printed text is scanned into one piece for each of its characters, up to the closing quote, and the
pieces make the text again.  The printer uses short escapes where there are any; the other control
characters are written, and so scanned, as numbers.
-/
import Switchboard.Json.Printer
import Switchboard.Json.Reader

namespace Switchboard.Json

/-- Whether a character is written by its number: the control characters without a short escape. -/
def isNumbered (c : Char) : Bool :=
  c.toNat < 0x20 && !(['\x08', '\x0c', '\n', '\r', '\t'].contains c)

/-- The piece that a printed character is scanned into. -/
def piece (c : Char) : Piece := if isNumbered c then .unit c.toNat else .char c

/-- The pieces that a printed text is scanned into. -/
def pieces (s : String) : List Piece := s.toList.map piece

/-! ## Scanning what is printed -/

/-- The four digits of a control character spell its number. -/
theorem unit?_control :
    ∀ n < 0x20, unit? '0' '0' (hexDigit (n / 16)) (hexDigit n) = some n := by
  decide

theorem scanText_plain {c : Char} (hquote : c ≠ '"') (hslash : c ≠ '\\') (hlow : ¬ c.toNat < 0x20)
    (out : List Piece) (rest : List Char) :
    scanText out (c :: rest) = scanText (.char c :: out) rest := by
  rw [scanText]
  · simp [hlow, hslash]
  · exact hquote
  · rintro a b d e s rfl
    exact absurd rfl hslash
  · rintro d s rfl
    exact absurd rfl hslash

/-- An escaped character is scanned as its piece. -/
theorem scanText_escape (c : Char) (out : List Piece) (rest : List Char) :
    scanText out (escape c ++ rest) = scanText (piece c :: out) rest := by
  fun_cases escape c
  case case8 h1 h2 h3 h4 h5 h6 h7 hlow =>
    have hnumbered : isNumbered c = true := by
      simp only [isNumbered, Bool.and_eq_true, decide_eq_true_eq, Bool.not_eq_true',
        List.contains_eq_mem, decide_eq_false_iff_not, List.mem_cons, List.not_mem_nil, or_false,
        not_or]
      exact ⟨hlow, h3, h4, h5, h6, h7⟩
    rw [piece, if_pos hnumbered]
    show scanText out ('\\' :: 'u' :: '0' :: '0' :: hexDigit (c.toNat / 16) :: hexDigit c.toNat :: rest)
      = _
    rw [scanText, unit?_control c.toNat hlow]
  case case9 h1 h2 h3 h4 h5 h6 h7 hlow =>
    have hplain : isNumbered c = false := by
      rw [isNumbered, decide_eq_false hlow, Bool.false_and]
    rw [piece, hplain]
    exact scanText_plain h1 h2 hlow out rest
  all_goals rfl

theorem scanText_flatMap (s : List Char) (out : List Piece) (rest : List Char) :
    scanText out (s.flatMap escape ++ '"' :: rest)
      = some (out.reverse ++ s.map piece, rest) := by
  induction s generalizing out with
  | nil => simp [scanText]
  | cons c s ih =>
      rw [List.flatMap_cons, List.append_assoc, scanText_escape, ih]
      simp

/-- A printed text is scanned as a whole. -/
theorem scanText_quoted (s : String) (rest : List Char) :
    scanText [] (s.toList.flatMap escape ++ '"' :: rest) = some (pieces s, rest) :=
  scanText_flatMap s.toList [] rest

/-! ## Joining the pieces -/

/-- A unit that belongs to no pair stands for a character by itself. -/
theorem joinFrom_unit {n : Nat} (h : n < 0xd800) (out : List Char) (rest : List Piece) :
    joinFrom out (.unit n :: rest) = joinFrom (Char.ofNat n :: out) rest := by
  have hhigh : isHighUnit n = false := by
    simp only [isHighUnit, Bool.and_eq_false_iff, decide_eq_false_iff_not]
    omega
  have hlow : isLowUnit n = false := by
    simp only [isLowUnit, Bool.and_eq_false_iff, decide_eq_false_iff_not]
    omega
  rw [joinFrom.eq_def]
  simp only [hhigh, hlow, Bool.false_eq_true, if_false]

theorem joinFrom_piece (c : Char) (out : List Char) (rest : List Piece) :
    joinFrom out (piece c :: rest) = joinFrom (c :: out) rest := by
  cases hc : isNumbered c with
  | true =>
      have hlow : c.toNat < 0x20 := by
        simp only [isNumbered, Bool.and_eq_true, decide_eq_true_eq] at hc
        exact hc.1
      rw [piece, hc, if_pos rfl, joinFrom_unit (by omega), Char.ofNat_toNat]
  | false =>
      rw [piece, hc]
      rfl

theorem joinFrom_map_piece (s : List Char) (out : List Char) :
    joinFrom out (s.map piece) = some (out.reverse ++ s) := by
  induction s generalizing out with
  | nil => simp [joinFrom]
  | cons c s ih =>
      rw [List.map_cons, joinFrom_piece, ih]
      simp

/-- The pieces of a text make the text. -/
theorem join?_pieces (s : String) : join? (pieces s) = some s := by
  rw [join?, pieces, joinFrom_map_piece]
  simp

end Switchboard.Json
