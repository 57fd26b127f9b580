/-
# RON documents

Object notation with structures: `(name: value)` has named fields, `(a, b)` is a list like `[a,
b]`, and `{key: value}` is a map.  A name in front of parentheses does not count, and a name alone
stands for nothing.  The document must be a structure or a map.
-/
import Switchboard.Settings.Value
import Switchboard.Settings.Toml.Quote
import Switchboard.Number.Reading

namespace Switchboard.Settings.Ron

open Number (isDigit)
open Json (hexValue?)

/-- A value of a document. -/
inductive Term where
  | nothing
  | bool (b : Bool)
  | whole (n : Int)
  | real (x : Float)
  | text (s : String)
  | given (t : Term)
  | list (items : List Term)
  | map (entries : List (Term × Term))

/-- A text and what follows it. -/
abbrev Scan := Option (List Char × List Char)

/-- A character that may stand between the parts of a document. -/
def isSpace (c : Char) : Bool := c = ' ' || c = '\t' || c = '\n' || c = '\r'

/-- Drops space and comments; `depth` is the number of comments that are open, and `line` whether
one goes up to the end of the line.  A slash that starts no comment, or one that is never closed,
makes no sense. -/
def skipFrom? (line : Bool) (depth : Nat) : List Char → Option (List Char)
  | [] => if depth = 0 then some [] else none
  | c :: rest =>
    if line then skipFrom? (c ≠ '\n') 0 rest
    else
      match depth, c, rest with
      | 0, '/', '/' :: rest => skipFrom? true 0 rest
      | 0, '/', '*' :: rest => skipFrom? false 1 rest
      | 0, '/', _ => none
      | 0, c, rest => if isSpace c then skipFrom? false 0 rest else some (c :: rest)
      | depth + 1, '/', '*' :: rest => skipFrom? false (depth + 2) rest
      | depth + 1, '*', '/' :: rest => skipFrom? false depth rest
      | depth + 1, _, rest => skipFrom? false (depth + 1) rest

/-- Drops space and comments. -/
def skip? (s : List Char) : Option (List Char) := skipFrom? false 0 s

/-- What follows a word, if it stands at the front. -/
def after? (word : String) (s : List Char) : Option (List Char) :=
  if word.toList.isPrefixOf s then some (s.drop word.length) else none

/-- A character that a name may start with. -/
def isNameStart (c : Char) : Bool := c.isAlpha || c = '_'

/-- A character that a name may go on with. -/
def isNamePart (c : Char) : Bool := c.isAlphanum || c = '_'

/-- A character of a raw name. -/
def isRawPart (c : Char) : Bool := isNamePart c || c = '.' || c = '+' || c = '-'

/-- What follows a word that is a name by itself. -/
def afterName? (word : String) (s : List Char) : Option (List Char) :=
  match after? word s with
  | some (c :: rest) => if isNamePart c then none else some (c :: rest)
  | found => found

/-- A name; the start of a raw string is none. -/
def name? (s : List Char) : Scan :=
  match s with
  | ['r'] => none
  | 'r' :: '"' :: _ => none
  | 'r' :: '#' :: rest =>
    let raw := rest.takeWhile isRawPart
    if raw.isEmpty then none else some (raw, rest.drop raw.length)
  | c :: _ =>
    if isNameStart c then
      let name := s.takeWhile isNamePart
      some (name, s.drop name.length)
    else none
  | [] => none

/-- The character that up to six hexadecimal digits in braces number, and the length of them all. -/
def braced? (s : List Char) : Option (Char × Nat) :=
  match s with
  | '\x7b' :: rest =>
    let digits := (rest.take 6).takeWhile (· ≠ '\x7d')
    if digits.isEmpty || (rest.drop digits.length).head? ≠ some '\x7d' then none
    else do
      let c ← Toml.scalar? (← Toml.hexNumber? digits)
      some (c, digits.length + 2)
  | _ => none

/-- The character that an escape stands for, and the length of the escape after its backslash. -/
def escape? : List Char → Option (Char × Nat)
  | '\'' :: _ => some ('\'', 1)
  | '"' :: _ => some ('"', 1)
  | '\\' :: _ => some ('\\', 1)
  | 'n' :: _ => some ('\n', 1)
  | 'r' :: _ => some ('\r', 1)
  | 't' :: _ => some ('\t', 1)
  | '0' :: _ => some ('\x00', 1)
  | 'x' :: rest => Toml.numbered? 2 rest
  | 'u' :: rest => (braced? rest).map fun (c, n) => (c, n + 1)
  | _ => none

/-- A string after its opening quote; `out` is the text so far, reversed. -/
def stringFrom (out : List Char) (s : List Char) : Scan :=
  match s with
  | [] => none
  | c :: rest =>
    if c = '"' then some (out.reverse, rest)
    else if c = '\\' then
      match escape? rest with
      | some (e, n) => stringFrom (e :: out) (rest.drop n)
      | none => none
    else stringFrom (c :: out) rest
  termination_by s.length
  decreasing_by all_goals (simp only [List.length_cons, List.length_drop]; omega)

/-- Reads up to a mark, which is dropped; `out` is the text so far, reversed. -/
def upTo? (mark : List Char) (out : List Char) : List Char → Scan
  | [] => none
  | c :: rest =>
    if mark.isPrefixOf (c :: rest) then some (out.reverse, (c :: rest).drop mark.length)
    else upTo? mark (c :: out) rest

/-- A raw string after the letter that marks it: it ends with a quote and as many number signs as
stand in front of the opening one. -/
def rawString? (s : List Char) : Scan :=
  let signs := s.takeWhile (· = '#')
  match s.drop signs.length with
  | '"' :: rest => upTo? ('"' :: signs) [] rest
  | _ => none

/-- A character in single quotes, after the opening one. -/
def char? (s : List Char) : Option (Char × List Char) :=
  let closed (c : Char) (rest : List Char) : Option (Char × List Char) :=
    match rest with
    | '\'' :: rest => some (c, rest)
    | _ => none
  match s with
  | '\'' :: _ => none
  | '\\' :: rest => (escape? rest).bind fun (c, n) => closed c (rest.drop n)
  | c :: rest => closed c rest
  | [] => none

/-- A character of a whole number in some base. -/
def isWholePart (c : Char) : Bool := (hexValue? c).isSome || c = '_'

/-- A character of a number with a point or an exponent. -/
def isRealPart (c : Char) : Bool :=
  isDigit c || c = 'e' || c = 'E' || c = '.' || c = '+' || c = '-' || c = '_'

/-- The number that digits of a base spell; underscores between them do not count. -/
def digits? (base : Nat) (s : List Char) : Option Nat :=
  if s.isEmpty || s.head? = some '_' then none
  else (s.filter (· ≠ '_')).foldlM (fun n c => do
    let d ← hexValue? c
    if d < base then some (base * n + d) else none) 0

/-- A whole number without its sign, and what follows it. -/
def wholeSize? (s : List Char) : Option (Nat × List Char) :=
  let (base, body) := match s with
    | '0' :: 'x' :: rest => (16, rest)
    | '0' :: 'b' :: rest => (2, rest)
    | '0' :: 'o' :: rest => (8, rest)
    | _ => (10, s)
  let part := body.takeWhile isWholePart
  (digits? base part).map fun n => (n, body.drop part.length)

/-- A real number, and what follows it. -/
def real? (s : List Char) : Option (Term × List Char) :=
  let part := s.takeWhile isRealPart
  (Number.float? part).map fun x => (.real x, s.drop part.length)

/-- A whole number that fits 64 bits, and what follows it.  Without a sign it may be a bit longer,
and becomes a real number if it is too long for a sign. -/
def whole? (s : List Char) : Option (Term × List Char) :=
  match s with
  | '-' :: rest =>
    match wholeSize? rest with
    | some (n, rest) => if n ≤ Nat.pow 2 63 then some (.whole (-(n : Int)), rest) else none
    | none => none
  | '+' :: rest =>
    match wholeSize? rest with
    | some (n, rest) => if n < Nat.pow 2 63 then some (.whole n, rest) else none
    | none => none
  | _ =>
    match wholeSize? s with
    | some (n, rest) =>
      if n < Nat.pow 2 63 then some (.whole n, rest)
      else if n < Nat.pow 2 64 then some (.real (Float.ofNat n), rest)
      else none
    | none => none

/-- A number, and what follows it.  It is a real one if that takes more characters, or if it makes
no whole one. -/
def number? (s : List Char) : Option (Term × List Char) :=
  let body := match s with
    | '+' :: rest => rest
    | '-' :: rest => rest
    | _ => s
  if (body.takeWhile isWholePart).length < (body.takeWhile isRealPart).length then real? s
  else (whole? s).or (real? s)

/-- A value that is named by a word, and what follows it. -/
def word? (s : List Char) : Option (Term × List Char) :=
  let named (name : String) (t : Term) : Option (Term × List Char) :=
    (afterName? name s).map fun rest => (t, rest)
  (named "true" (.bool true)).or <| (named "false" (.bool false)).or <|
  (named "None" .nothing).or <| ((after? "()" s).map fun rest => (.nothing, rest)).or <|
  (named "inf" (.real (1.0 / 0.0))).or <| (named "-inf" (.real (-1.0 / 0.0))).or <|
  named "NaN" (.real (0.0 / 0.0))

/-- Whether parentheses hold named fields, judged by what follows the opening one. -/
def hasNames? (s : List Char) : Option Bool :=
  match (skip? s).bind name? with
  | none => (skip? s).map fun _ => false
  | some (_, rest) =>
    match skip? rest with
    | some (c :: _) => some (c = ':')
    | _ => none

/-- What follows a comma, and whether there was one. -/
def comma? (s : List Char) : Option (Bool × List Char) := do
  match ← skip? s with
  | ',' :: rest => some (true, ← skip? rest)
  | rest => some (false, rest)

/-- How deep values nest: a container takes one level, and each of its items another. -/
def depthLimit : Nat := 128

mutual

/-- A value, and what follows it.  Without a mark around a value that may be missing, it counts as
given only if `loose` says so. -/
def value? (loose : Bool) : Nat → Nat → List Char → Option (Term × List Char)
  | 0, _, _ => none
  | fuel + 1, room, s =>
    match word? s with
    | some found => some found
    | none =>
      match afterName? "Some" s with
      | some rest => given? loose fuel room rest
      | none =>
        match name? s with
        | some (_, rest) => (skip? rest).bind (structure? loose fuel room)
        | none =>
          match s with
          | '(' :: _ => structure? loose fuel room s
          | '[' :: rest =>
            if room = 0 then none
            else
              (items? loose fuel (room - 1) ']' true [] rest).map fun (v, rest) => (.list v, rest)
          | '\x7b' :: rest =>
            if room = 0 then none
            else (entries? loose fuel (room - 1) '\x7d' true [] rest).map
              fun (v, rest) => (.map v, rest)
          | '"' :: rest => (stringFrom [] rest).map fun (t, rest) => (.text (String.ofList t), rest)
          | 'r' :: rest => (rawString? rest).map fun (t, rest) => (.text (String.ofList t), rest)
          | '\'' :: rest => (char? rest).map fun (c, rest) => (.text (String.ofList [c]), rest)
          | '.' :: _ => real? s
          | c :: _ => if isDigit c || c = '+' || c = '-' then number? s else none
          | [] => none

/-- A value that is marked as given, after the mark. -/
def given? (loose : Bool) : Nat → Nat → List Char → Option (Term × List Char)
  | 0, _, _ => none
  | fuel + 1, room, s => do
    if room = 0 then none
    else
      match ← skip? s with
      | '(' :: rest =>
        let (t, rest) ← value? loose fuel (room - 1) (← skip? rest)
        match ← comma? rest with
        | (_, ')' :: rest) => some (.given t, rest)
        | _ => none
      | rest =>
        if loose then (value? loose fuel (room - 1) rest).map fun (t, rest) => (.given t, rest)
        else none

/-- What stands in parentheses; without them it is nothing. -/
def structure? (loose : Bool) : Nat → Nat → List Char → Option (Term × List Char)
  | 0, _, _ => none
  | fuel + 1, room, s =>
    match s with
    | '(' :: rest =>
      if room = 0 then none
      else
        match hasNames? rest with
        | some true =>
          (entries? loose fuel (room - 1) ')' true [] rest).map fun (v, rest) => (.map v, rest)
        | some false =>
          (items? loose fuel (room - 1) ')' true [] rest).map fun (v, rest) => (.list v, rest)
        | none => none
    | _ => some (.nothing, s)

/-- The items up to a closing mark; `ready` says whether another may follow, and `done` has those
before, reversed. -/
def items? (loose : Bool) : Nat → Nat → Char → Bool → List Term → List Char →
    Option (List Term × List Char)
  | 0, _, _, _, _, _ => none
  | fuel + 1, room, close, ready, done, s => do
    match ← skip? s with
    | [] => none
    | c :: rest =>
      if c = close then some (done.reverse, rest)
      else if !ready || room = 0 then none
      else
        let (t, rest) ← value? loose fuel (room - 1) (c :: rest)
        let (ready, rest) ← comma? rest
        items? loose fuel room close ready (t :: done) rest

/-- The entries up to a closing mark; those in parentheses have names as keys. -/
def entries? (loose : Bool) : Nat → Nat → Char → Bool → List (Term × Term) → List Char →
    Option (List (Term × Term) × List Char)
  | 0, _, _, _, _, _ => none
  | fuel + 1, room, close, ready, done, s => do
    match ← skip? s with
    | [] => none
    | c :: rest =>
      if c = close then some (done.reverse, rest)
      else if !ready || room = 0 then none
      else
        let (key, rest) ←
          if close = ')' then
            (name? (c :: rest)).map fun (n, rest) => (.text (String.ofList n), rest)
          else value? loose fuel (room - 1) (c :: rest)
        match ← skip? rest with
        | ':' :: rest =>
          let (t, rest) ← value? loose fuel (room - 1) (← skip? rest)
          let (ready, rest) ← comma? rest
          entries? loose fuel room close ready ((key, t) :: done) rest
        | _ => none

end

/-- The extensions that a document may ask for. -/
def extensions : List String := ["unwrap_newtypes", "implicit_some", "unwrap_variant_newtypes"]

/-- The extension that makes values count as given without a mark. -/
def looseExtension : String := "implicit_some"

/-- The names of extensions, and what follows them. -/
def extensionNames? : Nat → List String → List Char → Option (List String × List Char)
  | 0, _, _ => none
  | fuel + 1, done, s => do
    let (name, rest) ← name? s
    let name := String.ofList name
    if !extensions.contains name then none
    else
      let done := name :: done
      let (more, rest) ← comma? rest
      let goesOn := rest.head?.any isNamePart
      if goesOn then if more then extensionNames? fuel done rest else none
      else some (done, rest)

/-- What follows words with space between and behind them. -/
def afterAll? : List String → List Char → Option (List Char)
  | [], s => some s
  | word :: words, s => do afterAll? words (← skip? (← after? word s))

/-- The extensions that a document asks for at its front, and what follows. -/
def preamble? : Nat → List String → List Char → Option (List String × List Char)
  | 0, _, _ => none
  | fuel + 1, done, s =>
    if s.head? = some '#' then do
      let rest ← afterAll? ["#", "!", "[", "enable", "("] s
      let (names, rest) ← extensionNames? fuel done rest
      let rest ← afterAll? [")", "]"] rest
      preamble? fuel names rest
    else some (done, s)

/-- The value of a document. -/
def term? (s : List Char) : Option Term := do
  let fuel := 2 * s.length + 2
  let (names, rest) ← preamble? fuel [] (← skip? s)
  let (t, rest) ← value? (names.contains looseExtension) fuel depthLimit rest
  if (← skip? rest).isEmpty then some t else none

mutual

/-- A value of settings; the keys of maps must be texts. -/
def Term.value? : Term → Option Value
  | .nothing => some .nothing
  | .bool b => some (.bool b)
  | .whole n => some (.whole n)
  | .real x => some (.real x)
  | .text s => some (.text s)
  | .given t => t.value?
  | .list items => (itemValues? items).map .list
  | .map entries => (entryValues? [] entries).map .table

/-- Values as values of settings. -/
def itemValues? : List Term → Option (List Value)
  | [] => some []
  | t :: rest => do
    let v ← t.value?
    some (v :: (← itemValues? rest))

/-- Entries as entries of settings; `done` has those before. -/
def entryValues? (done : List (String × Value)) :
    List (Term × Term) → Option (List (String × Value))
  | [] => some done
  | (key, t) :: rest =>
    match key with
    | .text name => do
      let v ← t.value?
      entryValues? (put name v done) rest
    | _ => none

end

/-- The entries that a document spells. -/
def read? (text : String) : Option (List (String × Value)) :=
  match (term? text.toList).bind Term.value? with
  | some (.table entries) => some entries
  | _ => none

end Switchboard.Settings.Ron
