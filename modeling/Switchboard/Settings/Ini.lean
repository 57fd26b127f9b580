/-
# INI documents

A document of lines `key = value`, below headers `[section]` or in front of the first one.  Values
are texts.  A value may be quoted; a backslash gives the character behind it another meaning, and
one at the end of a line joins it with the next.  A comment takes a whole line.
-/
import Switchboard.Settings.Value
import Switchboard.Settings.Toml.Quote
import Switchboard.Text.Blank

namespace Switchboard.Settings.Ini

open Text (isBlank trim)

/-- A text and what follows it. -/
abbrev Scan := Option (List Char × List Char)

/-- The character with the number that four hexadecimal digits spell; a plus sign may stand for the
first of them. -/
def numbered? (s : List Char) : Option Char :=
  let digits := if s.head? = some '+' then s.drop 1 else s
  if s.length = 4 then (Toml.hexNumber? digits).bind Toml.scalar? else none

/-- What a backslash and the character behind it stand for. -/
def escape (c : Char) : List Char :=
  match c with
  | '0' => ['\x00']
  | 'a' => ['\x07']
  | 'b' => ['\x08']
  | 't' => ['\t']
  | 'r' => ['\r']
  | 'n' => ['\n']
  | '\n' => []
  | c => [c]

/-- Reads up to a character that ends the text, which is left; `out` is the text so far, reversed.
Some texts also end where the document does. -/
def textFrom (isEnd : Char → Bool) (atEnd : Bool) (out : List Char) (s : List Char) : Scan :=
  match s with
  | [] => if atEnd then some (out.reverse, []) else none
  | c :: rest =>
    if isEnd c then some (out.reverse, c :: rest)
    else if c = '\\' then
      match rest with
      | 'x' :: rest =>
        match numbered? (rest.take 4) with
        | some e => textFrom isEnd atEnd (e :: out) (rest.drop 4)
        | none => none
      | e :: rest => textFrom isEnd atEnd (escape e ++ out) rest
      | [] => none
    else textFrom isEnd atEnd (c :: out) rest
  termination_by s.length
  decreasing_by all_goals (simp only [List.length_cons, List.length_drop]; omega)

/-- The rest of a line. -/
def line? (s : List Char) : Scan := textFrom (fun c => c = '\n' || c = '\r') true [] s

/-- A value between quotes of one kind; what follows them on the line belongs to it. -/
def quoted? (quote : Char) (s : List Char) : Scan := do
  let (inner, rest) ← textFrom (· = quote) false [] s
  let (tail, rest) ← line? (rest.drop 1)
  some (inner ++ tail, rest)

/-- A blank inside a line. -/
def isGap (c : Char) : Bool := isBlank c && c ≠ '\n' && c ≠ '\r'

/-- A value. -/
def value? (s : List Char) : Scan :=
  match s.dropWhile isGap with
  | '"' :: rest => quoted? '"' rest
  | '\'' :: rest => quoted? '\'' rest
  | s => line? s

/-- A thing that a document says. -/
inductive Item where
  | header (name : String)
  | pair (key value : String)
  deriving DecidableEq, Repr

/-- A text without the blanks at its ends. -/
def name (s : List Char) : String := String.ofList (trim s)

/-- A header after its opening bracket. -/
def header? (s : List Char) : Option (Item × List Char) := do
  let (title, rest) ← textFrom (· = ']') false [] s
  some (.header (name title), rest.drop 1)

/-- A key with its value. -/
def pair? (s : List Char) : Option (Item × List Char) := do
  let (key, rest) ← textFrom (fun c => c = '=' || c = ':') false [] s
  if (name key).isEmpty then none
  else
    let (value, rest) ← value? (rest.drop 1)
    some (.pair (name key) (name value), rest)

/-- Drops blanks; also tells whether a line starts there.  `fresh` tells it for the front. -/
def dropBlanks (fresh : Bool) : List Char → Bool × List Char
  | c :: rest => if isBlank c then dropBlanks (c = '\n') rest else (fresh, c :: rest)
  | [] => (fresh, [])

/-- Reads things to the end of a document.  A comment must start its line. -/
def items? : Nat → Bool → List Char → Option (List Item)
  | 0, _, _ => none
  | fuel + 1, fresh, s =>
    match dropBlanks fresh s with
    | (_, []) => some []
    | (fresh, c :: rest) =>
      if c = ';' || c = '#' then
        if fresh then items? fuel true ((rest.dropWhile (· ≠ '\n')).drop 1) else none
      else do
        let (item, rest) ← if c = '[' then header? rest else pair? (c :: rest)
        let items ← items? fuel false rest
        some (item :: items)

/-- Puts what an item says under the section that it belongs to.  A header starts its section
anew. -/
def place (sofar : Option String × List (String × Value)) :
    Item → Option String × List (String × Value)
  | .header title => (some title, put title (.table []) sofar.2)
  | .pair key value =>
    match sofar.1 with
    | none => (none, put key (.text value) sofar.2)
    | some title =>
      let inner := ((lookup title sofar.2).getD (.table [])).entries
      (some title, put title (.table (put key (.text value) inner)) sofar.2)

/-- The entries that a document spells. -/
def read? (text : String) : Option (List (String × Value)) :=
  let s := text.toList
  (items? (s.length + 1) true s).map fun items => (items.foldl place (none, [])).2

end Switchboard.Settings.Ini
