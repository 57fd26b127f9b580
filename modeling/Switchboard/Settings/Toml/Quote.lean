/-
# TOML strings

The four quoted forms: basic and literal, each on one line or on several.  A basic string has
escapes; a literal one has none.  A line end inside a string of several lines is one character,
however it was written.
-/
import Switchboard.Json.Reader

namespace Switchboard.Settings.Toml

open Json (hexValue?)

/-- A character that may stand in a comment or string: no control character but the tab. -/
def isPlain (c : Char) : Bool := c = '\t' || (' ' ≤ c && c ≠ '\x7f')

/-- Blanks inside a line. -/
def isGap (c : Char) : Bool := c = ' ' || c = '\t'

/-- The number that hexadecimal digits spell. -/
def hexNumber? (digits : List Char) : Option Nat :=
  digits.foldlM (fun n c => (hexValue? c).map (16 * n + ·)) 0

/-- The character with a number, if there is one. -/
def scalar? (n : Nat) : Option Char :=
  if n < 0xd800 || (0xdfff < n && n < 0x110000) then some (Char.ofNat n) else none

/-- The character that the `n` hexadecimal digits at the front number, and how many characters of
the escape they are with the letter before them. -/
def numbered? (n : Nat) (s : List Char) : Option (Char × Nat) :=
  let digits := s.take n
  if digits.length = n then do
    let c ← scalar? (← hexNumber? digits)
    some (c, n + 1)
  else none

/-- The character that an escape stands for, and the length of the escape after its backslash. -/
def escape? : List Char → Option (Char × Nat)
  | 'b' :: _ => some ('\x08', 1)
  | 't' :: _ => some ('\t', 1)
  | 'n' :: _ => some ('\n', 1)
  | 'f' :: _ => some ('\x0c', 1)
  | 'r' :: _ => some ('\r', 1)
  | '"' :: _ => some ('"', 1)
  | '\\' :: _ => some ('\\', 1)
  | 'u' :: rest => numbered? 4 rest
  | 'U' :: rest => numbered? 8 rest
  | _ => none

/-- A text and what follows it. -/
abbrev Scan := Option (List Char × List Char)

/-- A basic string after its opening quote; `out` is the text so far, reversed. -/
def basicFrom (out : List Char) (s : List Char) : Scan :=
  match s with
  | [] => none
  | c :: rest =>
    if c = '"' then some (out.reverse, rest)
    else if c = '\\' then
      match escape? rest with
      | some (e, n) => basicFrom (e :: out) (rest.drop n)
      | none => none
    else if isPlain c then basicFrom (c :: out) rest
    else none
  termination_by s.length
  decreasing_by all_goals (simp only [List.length_cons, List.length_drop]; omega)

/-- A literal string after its opening quote. -/
def literal? (s : List Char) : Scan :=
  let text := s.takeWhile fun c => c ≠ '\'' && isPlain c
  match s.drop text.length with
  | '\'' :: rest => some (text, rest)
  | _ => none

/-- Drops one line end. -/
def dropLineEnd : List Char → List Char
  | '\n' :: rest => rest
  | '\r' :: '\n' :: rest => rest
  | s => s

/-- Drops blanks and line ends. -/
def dropSpace : List Char → List Char
  | '\r' :: '\n' :: rest => dropSpace rest
  | c :: rest => if isGap c || c = '\n' then dropSpace rest else c :: rest
  | [] => []

/-- Whether a line ends after blanks. -/
def lineEndsAfterGap (s : List Char) : Bool :=
  match s.dropWhile isGap with
  | '\n' :: _ => true
  | '\r' :: '\n' :: _ => true
  | _ => false

theorem length_dropSpace_le (s : List Char) : (dropSpace s).length ≤ s.length := by
  fun_induction dropSpace s <;> grind

/-- How many of the quotes at the front belong to the end of a string of several lines: the last
three close it, and up to two before them are text. -/
def closing? (quotes : Nat) : Option Nat := if 3 ≤ quotes then some (min quotes 5) else none

/-- A basic string of several lines after its opening quotes; `out` is the text so far, reversed. -/
def basicLinesFrom (out : List Char) (s : List Char) : Scan :=
  match s with
  | [] => none
  | '\r' :: '\n' :: rest => basicLinesFrom ('\n' :: out) rest
  | c :: rest =>
    if c = '"' then
      match closing? ((c :: rest).takeWhile (· = '"')).length with
      | some n => some ((List.replicate (n - 3) '"' ++ out).reverse, (c :: rest).drop n)
      | none => basicLinesFrom ('"' :: out) rest
    else if c = '\\' then
      if lineEndsAfterGap rest then basicLinesFrom out (dropSpace rest)
      else
        match escape? rest with
        | some (e, n) => basicLinesFrom (e :: out) (rest.drop n)
        | none => none
    else if c = '\n' || isPlain c then basicLinesFrom (c :: out) rest
    else none
  termination_by s.length
  decreasing_by
    all_goals
      have := length_dropSpace_le rest
      simp only [List.length_cons, List.length_drop]
      omega

/-- A literal string of several lines after its opening quotes; `out` is the text so far,
reversed. -/
def literalLinesFrom (out : List Char) : List Char → Scan
  | [] => none
  | '\r' :: '\n' :: rest => literalLinesFrom ('\n' :: out) rest
  | c :: rest =>
    if c = '\'' then
      match closing? ((c :: rest).takeWhile (· = '\'')).length with
      | some n => some ((List.replicate (n - 3) '\'' ++ out).reverse, (c :: rest).drop n)
      | none => literalLinesFrom ('\'' :: out) rest
    else if c = '\n' || isPlain c then literalLinesFrom (c :: out) rest
    else none

/-- A quoted string that may be a key: one on a single line. -/
def quotedKey? : List Char → Scan
  | '"' :: rest => basicFrom [] rest
  | '\'' :: rest => literal? rest
  | _ => none

/-- A quoted string. -/
def quoted? : List Char → Scan
  | '"' :: '"' :: '"' :: rest => basicLinesFrom [] (dropLineEnd rest)
  | '\'' :: '\'' :: '\'' :: rest => literalLinesFrom [] (dropLineEnd rest)
  | s => quotedKey? s

end Switchboard.Settings.Toml
