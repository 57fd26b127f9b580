/-
# Reading JSON

A document is read in two passes.  The first cuts it into tokens.  The second runs over the tokens
with the open containers on a list, so that neither a long nor a deep document needs a deep
recursion, and every token is looked at once.
-/
import Switchboard.Json.Term

namespace Switchboard.Json

open Switchboard.Number (isDigit)

/-- What a document is made of, white space apart. -/
inductive Token where
  | openArray
  | closeArray
  | openObject
  | closeObject
  | comma
  | colon
  | null
  | bool (b : Bool)
  | number (n : Numeral)
  | text (pieces : List Piece)

/-- The only white space of a document. -/
def isSpace (c : Char) : Bool := c = ' ' || c = '\t' || c = '\n' || c = '\r'

/-- The value of a hexadecimal digit in either case. -/
def hexValue? (c : Char) : Option Nat :=
  if '0' ≤ c && c ≤ '9' then some (c.toNat - '0'.toNat)
  else if 'a' ≤ c && c ≤ 'f' then some (c.toNat - 'a'.toNat + 10)
  else if 'A' ≤ c && c ≤ 'F' then some (c.toNat - 'A'.toNat + 10)
  else none

/-- The number that four hexadecimal digits spell. -/
def unit? (a b c d : Char) : Option Nat := do
  some ((((← hexValue? a) * 16 + (← hexValue? b)) * 16 + (← hexValue? c)) * 16 + (← hexValue? d))

/-- The character that a backslash and a letter stand for. -/
def escaped? (c : Char) : Option Char :=
  match c with
  | '"' => some '"'
  | '\\' => some '\\'
  | '/' => some '/'
  | 'b' => some '\x08'
  | 'f' => some '\x0c'
  | 'n' => some '\n'
  | 'r' => some '\r'
  | 't' => some '\t'
  | _ => none

/-- The pieces of a text up to its closing quote, and what follows it; `out` has the pieces so far,
reversed. -/
def scanText (out : List Piece) : List Char → Option (List Piece × List Char)
  | [] => none
  | '"' :: rest => some (out.reverse, rest)
  | '\\' :: 'u' :: a :: b :: c :: d :: rest =>
    match unit? a b c d with
    | some n => scanText (.unit n :: out) rest
    | none => none
  | '\\' :: c :: rest =>
    match escaped? c with
    | some e => scanText (.char e :: out) rest
    | none => none
  | c :: rest => if c.toNat < 0x20 || c = '\\' then none else scanText (.char c :: out) rest

/-- What follows a text is shorter than what it was scanned from. -/
theorem scanText_length {out : List Piece} {s : List Char} {pieces : List Piece}
    {rest : List Char} (h : scanText out s = some (pieces, rest)) : rest.length < s.length := by
  fun_induction scanText out s with
  | case1 => simp at h
  | case2 => simp_all
  | case3 out a b c d rest n hn ih => have := ih h; simp only [List.length_cons]; omega
  | case4 => simp at h
  | case5 out c rest hc e he ih => have := ih h; simp only [List.length_cons]; omega
  | case6 => simp at h
  | case7 => simp at h
  | case8 out c rest _ _ _ _ ih => have := ih h; simp only [List.length_cons]; omega

/-- The digits before the point: a zero alone, or digits that start with another. -/
def scanWhole? (s : List Char) : Option (List Char × List Char) :=
  match s with
  | '0' :: rest => some (['0'], rest)
  | _ =>
    let digits := s.takeWhile isDigit
    if digits.isEmpty then none else some (digits, s.dropWhile isDigit)

/-- A point and one or more digits, if there is a point. -/
def scanFraction? (s : List Char) : Option (Option (List Char) × List Char) :=
  match s with
  | '.' :: rest =>
    let digits := rest.takeWhile isDigit
    if digits.isEmpty then none else some (some digits, rest.dropWhile isDigit)
  | _ => some (none, s)

/-- The digits of an exponent after its sign. -/
def scanExponentDigits? (negative : Bool) (s : List Char) : Option (Option Exponent × List Char) :=
  let digits := s.takeWhile isDigit
  if digits.isEmpty then none else some (some ⟨negative, digits⟩, s.dropWhile isDigit)

/-- An exponent part, if there is one. -/
def scanExponent? (s : List Char) : Option (Option Exponent × List Char) :=
  match s with
  | c :: rest =>
    if c = 'e' || c = 'E' then
      match rest with
      | '-' :: rest => scanExponentDigits? true rest
      | '+' :: rest => scanExponentDigits? false rest
      | _ => scanExponentDigits? false rest
    else some (none, s)
  | [] => some (none, [])

/-- A numeral without its sign, and what follows it. -/
def scanNumeral? (negative : Bool) (s : List Char) : Option (Numeral × List Char) := do
  let (whole, s) ← scanWhole? s
  let (fraction, s) ← scanFraction? s
  let (exponent, s) ← scanExponent? s
  some (⟨negative, whole, fraction, exponent⟩, s)

/-- The token that starts with `c`, which is no white space, and what follows it. -/
def scanToken? (c : Char) (rest : List Char) : Option (Token × List Char) :=
  match c, rest with
  | '[', _ => some (.openArray, rest)
  | ']', _ => some (.closeArray, rest)
  | '\x7b', _ => some (.openObject, rest)
  | '\x7d', _ => some (.closeObject, rest)
  | ',', _ => some (.comma, rest)
  | ':', _ => some (.colon, rest)
  | 'n', 'u' :: 'l' :: 'l' :: rest => some (.null, rest)
  | 't', 'r' :: 'u' :: 'e' :: rest => some (.bool true, rest)
  | 'f', 'a' :: 'l' :: 's' :: 'e' :: rest => some (.bool false, rest)
  | '"', _ => (scanText [] rest).map fun (pieces, rest) => (.text pieces, rest)
  | '-', _ => (scanNumeral? true rest).map fun (n, rest) => (.number n, rest)
  | _, _ => (scanNumeral? false (c :: rest)).map fun (n, rest) => (.number n, rest)

/-- Where the reader stands inside an open container: its items or members so far, reversed; in an
object also the key whose value is being read. -/
inductive Frame where
  | array (items : List Term)
  | object (members : List (List Piece × Term)) (key : List Piece)

/-- What must come next; `frames` are the open containers, innermost first. -/
inductive State where
  | value (frames : List Frame)
  | firstItem (frames : List Frame)
  | firstKey (frames : List Frame)
  | nextKey (members : List (List Piece × Term)) (frames : List Frame)
  | colon (members : List (List Piece × Term)) (key : List Piece) (frames : List Frame)
  | after (done : Term) (frames : List Frame)

/-- The state after a token that must start a value. -/
def startValue? (frames : List Frame) : Token → Option State
  | .null => some (.after .null frames)
  | .bool b => some (.after (.bool b) frames)
  | .number n => some (.after (.number n) frames)
  | .text pieces => some (.after (.text pieces) frames)
  | .openArray => some (.firstItem frames)
  | .openObject => some (.firstKey frames)
  | _ => none

/-- The state after a token that follows a finished value. -/
def afterValue? (done : Term) (frames : List Frame) (token : Token) : Option State :=
  match frames, token with
  | .array items :: rest, .comma => some (.value (.array (done :: items) :: rest))
  | .array items :: rest, .closeArray => some (.after (.array (done :: items).reverse) rest)
  | .object members key :: rest, .comma => some (.nextKey ((key, done) :: members) rest)
  | .object members key :: rest, .closeObject =>
    some (.after (.object ((key, done) :: members).reverse) rest)
  | _, _ => none

/-- One step of the reader. -/
def step? (state : State) (token : Token) : Option State :=
  match state, token with
  | .value frames, _ => startValue? frames token
  | .firstItem frames, .closeArray => some (.after (.array []) frames)
  | .firstItem frames, _ => startValue? (.array [] :: frames) token
  | .firstKey frames, .closeObject => some (.after (.object []) frames)
  | .firstKey frames, .text key => some (.colon [] key frames)
  | .nextKey members frames, .text key => some (.colon members key frames)
  | .colon members key frames, .colon => some (.value (.object members key :: frames))
  | .after done frames, _ => afterValue? done frames token
  | _, _ => none

/-- Dropping what a non-empty front part holds leaves less. -/
theorem dropWhile_length_lt {α : Type} {p : α → Bool} {s : List α}
    (h : (s.takeWhile p).isEmpty = false) : (s.dropWhile p).length < s.length := by
  cases s with
  | nil => simp at h
  | cons a r =>
    by_cases ha : p a = true
    · have := (List.dropWhile_sublist p (l := r)).length_le
      rw [List.dropWhile_cons_of_pos ha, List.length_cons]
      omega
    · simp [ha] at h

theorem scanWhole?_length {s digits rest : List Char} (h : scanWhole? s = some (digits, rest)) :
    rest.length < s.length := by
  unfold scanWhole? at h
  split at h
  · simp_all
  · simp only [Option.ite_none_left_eq_some, Option.some.injEq, Prod.mk.injEq] at h
    obtain ⟨h, -, rfl⟩ := h
    exact dropWhile_length_lt (by simpa using h)

theorem scanFraction?_length {s rest : List Char} {f : Option (List Char)}
    (h : scanFraction? s = some (f, rest)) : rest.length ≤ s.length := by
  unfold scanFraction? at h
  split at h
  · rename_i r
    simp only [Option.ite_none_left_eq_some, Option.some.injEq, Prod.mk.injEq] at h
    obtain ⟨-, -, rfl⟩ := h
    have := (List.dropWhile_sublist isDigit (l := r)).length_le
    simp only [List.length_cons]
    omega
  · simp_all

theorem scanExponentDigits?_length {b : Bool} {s rest : List Char} {e : Option Exponent}
    (h : scanExponentDigits? b s = some (e, rest)) : rest.length ≤ s.length := by
  simp only [scanExponentDigits?, Option.ite_none_left_eq_some, Option.some.injEq,
    Prod.mk.injEq] at h
  obtain ⟨-, -, rfl⟩ := h
  exact (List.dropWhile_sublist isDigit).length_le

theorem scanExponent?_length {s rest : List Char} {e : Option Exponent}
    (h : scanExponent? s = some (e, rest)) : rest.length ≤ s.length := by
  unfold scanExponent? at h
  split at h
  · split at h
    · split at h <;> have := scanExponentDigits?_length h <;> simp only [List.length_cons] at * <;>
        omega
    · simp_all
  · simp_all

theorem scanNumeral?_length {b : Bool} {s rest : List Char} {n : Numeral}
    (h : scanNumeral? b s = some (n, rest)) : rest.length < s.length := by
  simp only [scanNumeral?, Option.bind_eq_bind, Option.bind_eq_some_iff, Option.some.injEq,
    Prod.mk.injEq, Prod.exists] at h
  obtain ⟨w, s1, h1, f, s2, h2, e, s3, h3, -, rfl⟩ := h
  have := scanWhole?_length h1
  have := scanFraction?_length h2
  have := scanExponent?_length h3
  omega

theorem scanToken?_length {c : Char} {s rest : List Char} {t : Token}
    (h : scanToken? c s = some (t, rest)) : rest.length ≤ s.length := by
  unfold scanToken? at h
  split at h
  all_goals try (simp only [Option.some.injEq, Prod.mk.injEq] at h; obtain ⟨-, rfl⟩ := h)
  all_goals try simp only [List.length_cons]
  all_goals try omega
  all_goals
    simp only [Option.map_eq_some_iff, Prod.exists, Prod.mk.injEq] at h
    obtain ⟨_, _, h, -, rfl⟩ := h
  · have := scanText_length h; omega
  · have := scanNumeral?_length h; omega
  · have := scanNumeral?_length h; simp only [List.length_cons] at this; omega

/-- Cuts the rest of a document into tokens; `out` has those before, reversed. -/
def tokensFrom (out : List Token) (s : List Char) : Option (List Token) :=
  match s with
  | [] => some out.reverse
  | c :: rest =>
    if isSpace c then tokensFrom out rest
    else
      match _h : scanToken? c rest with
      | some (t, rest) => tokensFrom (t :: out) rest
      | none => none
  termination_by s.length
  decreasing_by
    · simp
    · have := scanToken?_length _h; simp only [List.length_cons]; omega

/-- The tokens of a document. -/
def tokens? (s : List Char) : Option (List Token) := tokensFrom [] s

/-- Runs the reader over the rest of the tokens. -/
def run? (state : State) : List Token → Option State
  | [] => some state
  | t :: rest =>
    match step? state t with
    | some next => run? next rest
    | none => none

/-- The document that a text spells. -/
def Term.read? (s : List Char) : Option Term :=
  match tokens? s with
  | some ts =>
    match run? (.value []) ts with
    | some (.after done []) => some done
    | _ => none
  | none => none

/-- The value that a text spells. -/
def read? (s : List Char) : Option Json := (Term.read? s).bind (Term.toJson? maxNesting)

end Switchboard.Json
