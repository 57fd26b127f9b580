/-
# JSON5 documents

JSON as people write it: with comments, names without quotes, strings in single quotes that may go
over several lines, commas behind the last item, and numbers with a sign, a bare point or in base
sixteen.  The document must be an object.
-/
import Switchboard.Settings.Value
import Switchboard.Settings.Toml.Quote
import Switchboard.Number.Reading
import Switchboard.Text.NameTable

namespace Switchboard.Settings.Json5

open Number (isDigit)
open Json (hexValue?)

/-- A character that ends a line. -/
def isLineEnd (c : Char) : Bool := c = '\n' || c = '\r' || c = '\u2028' || c = '\u2029'

/-- Space separators of all scripts. -/
def spaceRanges : Text.Ranges :=
  [(0x20, 0x20), (0xa0, 0xa0), (0x1680, 0x1680), (0x2000, 0x200a), (0x202f, 0x202f),
   (0x205f, 0x205f), (0x3000, 0x3000)]

/-- A character that may stand anywhere between the parts of a document. -/
def isSpace (c : Char) : Bool :=
  c = '\t' || c = '\x0b' || c = '\x0c' || c = '\ufeff' || isLineEnd c || spaceRanges.has c.toNat

/-- What is being skipped: space, a comment up to the end of its line, or one up to its mark. -/
inductive Gap where
  | space
  | line
  | block
  deriving DecidableEq, Repr

/-- Drops space and comments.  Of a comment that is never closed a slash stays, which fits
nowhere. -/
def dropGap : Gap → List Char → List Char
  | .space, '/' :: '/' :: rest => dropGap .line rest
  | .space, '/' :: '*' :: rest => dropGap .block rest
  | .space, c :: rest => if isSpace c then dropGap .space rest else c :: rest
  | .line, c :: rest => dropGap (if isLineEnd c then .space else .line) rest
  | .block, '*' :: '/' :: rest => dropGap .space rest
  | .block, _ :: rest => dropGap .block rest
  | .block, [] => ['/']
  | _, [] => []

/-- Drops space and comments. -/
def skip (s : List Char) : List Char := dropGap .space s

/-- A piece of a string: a character, or the unit of a wide character that an escape names. -/
inductive Piece where
  | char (c : Char)
  | unit (n : Nat)
  deriving DecidableEq, Repr

/-- The text that pieces make; a high unit and the low unit behind it are one character, and
neither may stand alone. -/
def joined? : List Piece → Option (List Char)
  | [] => some []
  | .char c :: rest => (joined? rest).map (c :: ·)
  | .unit high :: .unit low :: rest =>
    if 0xd800 ≤ high && high < 0xdc00 then
      if 0xdc00 ≤ low && low < 0xe000 then
        (joined? rest).map
          (Char.ofNat (0x10000 + (high - 0xd800) * 0x400 + (low - 0xdc00)) :: ·)
      else none
    else (Toml.scalar? high).bind fun c => (joined? (.unit low :: rest)).map (c :: ·)
  | .unit n :: rest => (Toml.scalar? n).bind fun c => (joined? rest).map (c :: ·)

/-- The number that the first `n` characters spell in base sixteen. -/
def hexFront? (n : Nat) (s : List Char) : Option Nat :=
  if (s.take n).length = n then Toml.hexNumber? (s.take n) else none

/-- What the characters behind a backslash stand for, and how many of them there are.  A backslash
in front of a line end joins two lines. -/
def escape? : List Char → Option (List Piece × Nat)
  | '\r' :: '\n' :: _ => some ([], 2)
  | 'b' :: _ => some ([.char '\x08'], 1)
  | 'f' :: _ => some ([.char '\x0c'], 1)
  | 'n' :: _ => some ([.char '\n'], 1)
  | 'r' :: _ => some ([.char '\r'], 1)
  | 't' :: _ => some ([.char '\t'], 1)
  | 'v' :: _ => some ([.char '\x0b'], 1)
  | '0' :: _ => some ([.char '\x00'], 1)
  | 'x' :: rest => (hexFront? 2 rest).map fun n => ([.char (Char.ofNat n)], 3)
  | 'u' :: rest => (hexFront? 4 rest).map fun n => ([.unit n], 5)
  | c :: _ => if isDigit c then none else some (if isLineEnd c then [] else [.char c], 1)
  | [] => none

/-- A string after its opening quote; `out` has the pieces so far, reversed. -/
def stringFrom (quote : Char) (out : List Piece) (s : List Char) :
    Option (List Char × List Char) :=
  match s with
  | [] => none
  | c :: rest =>
    if c = quote then (joined? out.reverse).map fun text => (text, rest)
    else if c = '\\' then
      match escape? rest with
      | some (pieces, n) => stringFrom quote (pieces ++ out) (rest.drop n)
      | none => none
    else if isLineEnd c then none
    else stringFrom quote (.char c :: out) rest
  termination_by s.length
  decreasing_by all_goals (simp only [List.length_cons, List.length_drop]; omega)

/-- A character that a name may start with. -/
def isNameStart (c : Char) : Bool := c = '$' || c = '_' || Text.letterRanges.has c.toNat

/-- A character that a name may go on with. -/
def isNamePart (c : Char) : Bool :=
  isNameStart c || c = '\u200c' || c = '\u200d' || Text.letterTailRanges.has c.toNat

/-- The pieces of a name, the last first, and what follows it. -/
def namePieces (out : List Piece) (s : List Char) : List Piece × List Char :=
  match s with
  | '\\' :: 'u' :: rest =>
    match hexFront? 4 rest with
    | some n => namePieces (.unit n :: out) (rest.drop 4)
    | none => (out, s)
  | c :: rest =>
    if if out.isEmpty then isNameStart c else isNamePart c then namePieces (.char c :: out) rest
    else (out, s)
  | [] => (out, s)
  termination_by s.length
  decreasing_by all_goals (simp only [List.length_cons, List.length_drop]; omega)

/-- A name without quotes. -/
def name? (s : List Char) : Option (List Char × List Char) :=
  match namePieces [] s with
  | ([], _) => none
  | (pieces, rest) => (joined? pieces.reverse).map fun text => (text, rest)

/-- The name of a member. -/
def key? (s : List Char) : Option (List Char × List Char) :=
  match s with
  | '"' :: rest => stringFrom '"' [] rest
  | '\'' :: rest => stringFrom '\'' [] rest
  | _ => name? s

/-- The length of the digits at the front. -/
def digitCount (s : List Char) : Nat := (s.takeWhile isDigit).length

/-- The length of an exponent at the front, if there is one. -/
def exponentLength (s : List Char) : Nat :=
  match s with
  | c :: rest =>
    if c = 'e' || c = 'E' then
      let sign := match rest with
        | d :: _ => if d = '+' || d = '-' then 1 else 0
        | [] => 0
      let digits := digitCount (rest.drop sign)
      if digits = 0 then 0 else 1 + sign + digits
    else 0
  | [] => 0

/-- The length of the whole part of a number: a zero alone, or digits that start with none. -/
def wholeLength (s : List Char) : Nat := if s.head? = some '0' then 1 else digitCount s

/-- The length of the decimal number at the front; zero if there is none. -/
def decimalLength (s : List Char) : Nat :=
  let whole := wholeLength s
  let (point, places) := match s.drop whole with
    | '.' :: rest => (1, digitCount rest)
    | _ => (0, 0)
  if whole + places = 0 then 0
  else
    let length := whole + point + places
    length + exponentLength (s.drop length)

/-- A decimal number. -/
def decimal? (s : List Char) : Option Value :=
  if s.any fun c => c = '.' || c = 'e' || c = 'E' then
    match Number.float? s with
    | some x => if x.isFinite then some (.real x) else none
    | none => none
  else (Number.integer64? s).map .whole

/-- A number in base sixteen, of 32 bits. -/
def based? (digits : List Char) : Option Value :=
  match Toml.hexNumber? digits with
  | some n => if n < Nat.pow 2 32 then some (.whole n) else none
  | none => none

/-- A number, and what follows it.  One in base sixteen has no sign, and neither has infinity with a
plus. -/
def number? (s : List Char) : Option (Value × List Char) :=
  let (sign, body) := match s with
    | '+' :: rest => (['+'], rest)
    | '-' :: rest => (['-'], rest)
    | _ => ([], s)
  let named (name : String) (x : Float) : Option (Value × List Char) :=
    if name.toList.isPrefixOf body && sign ≠ ['+'] then
      some (.real (if sign.isEmpty then x else -x), body.drop name.length)
    else none
  let hex := match body with
    | '0' :: x :: rest =>
      if x = 'x' || x = 'X' then rest.takeWhile fun c => (hexValue? c).isSome else []
    | _ => []
  if !hex.isEmpty then
    if sign.isEmpty then (based? hex).map fun v => (v, body.drop (2 + hex.length)) else none
  else
    let length := decimalLength body
    if length = 0 then (named "Infinity" (1.0 / 0.0)).or (named "NaN" (0.0 / 0.0))
    else (decimal? (sign ++ body.take length)).map fun v => (v, body.drop length)

/-- A value that is named by a word. -/
def word? (s : List Char) : Option (Value × List Char) :=
  let named (name : String) (v : Value) : Option (Value × List Char) :=
    if name.toList.isPrefixOf s then some (v, s.drop name.length) else none
  (named "null" .nothing).or ((named "true" (.bool true)).or (named "false" (.bool false)))

/-- A value without parts. -/
def plain? (s : List Char) : Option (Value × List Char) :=
  match s with
  | '"' :: rest =>
    (stringFrom '"' [] rest).map fun (text, rest) => (.text (String.ofList text), rest)
  | '\'' :: rest =>
    (stringFrom '\'' [] rest).map fun (text, rest) => (.text (String.ofList text), rest)
  | _ => (word? s).or (number? s)

mutual

/-- A value, and what follows it. -/
def value? : Nat → List Char → Option (Value × List Char)
  | 0, _ => none
  | fuel + 1, s =>
    match skip s with
    | '\x7b' :: rest => (members? fuel [] (skip rest)).map fun (m, rest) => (.table m, rest)
    | '[' :: rest => (items? fuel [] (skip rest)).map fun (v, rest) => (.list v, rest)
    | s => plain? s

/-- The members of an object up to its end; `done` has those before. -/
def members? : Nat → List (String × Value) → List Char →
    Option (List (String × Value) × List Char)
  | 0, _, _ => none
  | fuel + 1, done, s =>
    match s with
    | '\x7d' :: rest => some (done, rest)
    | _ =>
      match key? s with
      | some (key, rest) =>
        match skip rest with
        | ':' :: rest =>
          match value? fuel rest with
          | some (v, rest) =>
            let done := put (String.ofList key) v done
            match skip rest with
            | ',' :: rest => members? fuel done (skip rest)
            | '\x7d' :: rest => some (done, rest)
            | _ => none
          | none => none
        | _ => none
      | none => none

/-- The items of an array up to its end; `done` has those before, reversed. -/
def items? : Nat → List Value → List Char → Option (List Value × List Char)
  | 0, _, _ => none
  | fuel + 1, done, s =>
    match s with
    | ']' :: rest => some (done.reverse, rest)
    | _ =>
      match value? fuel s with
      | some (v, rest) =>
        match skip rest with
        | ',' :: rest => items? fuel (v :: done) (skip rest)
        | ']' :: rest => some ((v :: done).reverse, rest)
        | _ => none
      | none => none

end

/-- The entries that a document spells. -/
def read? (text : String) : Option (List (String × Value)) :=
  let s := text.toList
  match value? (2 * s.length + 2) s with
  | some (.table entries, rest) => if (skip rest).isEmpty then some entries else none
  | _ => none

end Switchboard.Settings.Json5
