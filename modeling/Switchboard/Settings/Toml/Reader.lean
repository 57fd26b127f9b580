/-
# Reading TOML

A document is a sequence of lines: headers, which say to which table the following lines belong, and
keys with their values.  Values may go over several lines.  Every step takes at least one character,
so the number of characters bounds the number of steps; containers nest to a fixed depth.
-/
import Switchboard.Settings.Toml.Node
import Switchboard.Settings.Toml.Scalar

namespace Switchboard.Settings.Toml

/-- How deep values nest and how many parts a key has, at most one less than this. -/
def depthLimit : Nat := 80

/-- A character of a key without quotes. -/
def isBareKey (c : Char) : Bool := c.isAlphanum || c = '_' || c = '-'

/-- One part of a key. -/
def keyPart? (s : List Char) : Option (String × List Char) :=
  let bare := s.takeWhile isBareKey
  if bare.isEmpty then (quotedKey? s).map fun (text, rest) => (String.ofList text, rest)
  else some (String.ofList bare, s.drop bare.length)

/-- The parts of a dotted key, at most `room` of them; blanks around the points do not count. -/
def keyParts? : Nat → List Char → Option (List String × List Char)
  | 0, _ => none
  | room + 1, s => do
    let (part, rest) ← keyPart? (s.dropWhile isGap)
    match rest.dropWhile isGap with
    | '.' :: more =>
      let (parts, rest) ← keyParts? room more
      some (part :: parts, rest)
    | rest => some ([part], rest)

/-- A dotted key as the path to a table and a name in it. -/
def key? (s : List Char) : Option ((List String × String) × List Char) := do
  let (parts, rest) ← keyParts? (depthLimit - 1) s
  let name ← parts.getLast?
  some ((parts.dropLast, name), rest)

/-- What follows a comment, if there is one. -/
def dropComment (s : List Char) : List Char :=
  match s with
  | '#' :: rest => rest.dropWhile isPlain
  | _ => s

/-- What follows a line end, or nothing at the end of the text. -/
def lineEnd? : List Char → Option (List Char)
  | [] => some []
  | '\n' :: rest => some rest
  | '\r' :: '\n' :: rest => some rest
  | _ => none

/-- What follows the rest of a line that has nothing more to say. -/
def restOfLine? (s : List Char) : Option (List Char) := lineEnd? (dropComment (s.dropWhile isGap))

/-- Drops blanks, comments and line ends, taking at most `fuel` lines. -/
def dropLines : Nat → List Char → List Char
  | 0, s => s
  | fuel + 1, s =>
    match dropComment (s.dropWhile isGap) with
    | '\n' :: rest => dropLines fuel rest
    | '\r' :: '\n' :: rest => dropLines fuel rest
    | rest => rest

/-- The table that the pairs of an inline table make. -/
def ofPairs? (pairs : List ((List String × String) × Value)) : Option Value :=
  (pairs.foldlM (fun entries ((path, name), v) => addDotted name v path entries) []).map
    fun entries => .table (entryValues entries)

mutual

/-- A value in which at most `room` containers nest. -/
def value? : Nat → Nat → List Char → Option (Value × List Char)
  | 0, _, _ => none
  | fuel + 1, room, s =>
    match s with
    | '[' :: rest => if room = 0 then none else items? fuel (room - 1) [] rest
    | '\x7b' :: rest =>
      if room = 0 then none
      else
        match rest.dropWhile isGap with
        | '\x7d' :: rest => some (.table [], rest)
        | rest => pairs? fuel (room - 1) [] rest
    | c :: _ =>
      if c = '"' || c = '\'' then
        (quoted? s).map fun (text, rest) => (.text (String.ofList text), rest)
      else bare? s
    | [] => none

/-- The rest of an array, which may have a comma at its end; `done` has the items before,
reversed. -/
def items? : Nat → Nat → List Value → List Char → Option (Value × List Char)
  | 0, _, _, _ => none
  | fuel + 1, room, done, s =>
    match dropLines fuel s with
    | ']' :: rest => some (.list done.reverse, rest)
    | s =>
      match value? fuel room s with
      | some (v, rest) =>
        match dropLines fuel rest with
        | ',' :: rest => items? fuel room (v :: done) rest
        | ']' :: rest => some (.list (v :: done).reverse, rest)
        | _ => none
      | none => none

/-- The rest of an inline table, which has no comma at its end; `done` has the pairs before,
reversed. -/
def pairs? : Nat → Nat → List ((List String × String) × Value) → List Char →
    Option (Value × List Char)
  | 0, _, _, _ => none
  | fuel + 1, room, done, s =>
    match key? s with
    | some (key, '=' :: rest) =>
      match value? fuel room (rest.dropWhile isGap) with
      | some (v, rest) =>
        match rest.dropWhile isGap with
        | ',' :: rest => pairs? fuel room ((key, v) :: done) rest
        | '\x7d' :: rest => (ofPairs? ((key, v) :: done).reverse).map fun t => (t, rest)
        | _ => none
      | none => none
    | _ => none

end

/-- A document so far, and the path of the table to which lines belong. -/
structure State where
  root : Entries := []
  path : List String := []

/-- Takes a header of a table. -/
def State.onTable? (s : State) (path : List String) (name : String) : Option State :=
  (atHeader (openTable name) path s.root).map fun root => ⟨root, path ++ [name]⟩

/-- Takes a header of an array of tables. -/
def State.onRow? (s : State) (path : List String) (name : String) : Option State :=
  (atHeader (openRow name) path s.root).map fun root => ⟨root, path ++ [name]⟩

/-- Takes a key with its value. -/
def State.onPair? (s : State) (path : List String) (name : String) (v : Value) : Option State :=
  (atHeader (addDotted name v path) s.path s.root).map fun root => { s with root }

/-- Takes a line that starts with a header or key; the second part is what follows the line. -/
def line? (fuel : Nat) (state : State) (s : List Char) : Option (State × List Char) :=
  match s with
  | '[' :: '[' :: rest => do
    let ((path, name), rest) ← key? rest
    match rest with
    | ']' :: ']' :: rest => some (← state.onRow? path name, ← restOfLine? rest)
    | _ => none
  | '[' :: rest => do
    let ((path, name), rest) ← key? rest
    match rest with
    | ']' :: rest => some (← state.onTable? path name, ← restOfLine? rest)
    | _ => none
  | _ => do
    let ((path, name), rest) ← key? s
    match rest with
    | '=' :: rest =>
      let (v, rest) ← value? fuel (depthLimit - 1) (rest.dropWhile isGap)
      some (← state.onPair? path name v, ← restOfLine? rest)
    | _ => none

/-- Takes the rest of a document. -/
def lines? (valueFuel : Nat) : Nat → State → List Char → Option State
  | 0, _, _ => none
  | fuel + 1, state, s =>
    match dropLines valueFuel s with
    | [] => some state
    | s =>
      match line? valueFuel state s with
      | some (state, rest) => lines? valueFuel fuel state rest
      | none => none

/-- The key that makes a table a moment, if it is its first one: its text spells the moment. -/
def momentKey : String := "$__toml_private_datetime"

mutual

/-- A value in which the tables that stand for moments are moments; one that spells no moment
makes no sense. -/
def settled? : Value → Option Value
  | .table ((key, v) :: rest) =>
    if key = momentKey then
      match v with
      | .text s => (moment? .loose s.toList).map .moment
      | _ => none
    else do
      let first ← settled? v
      some (.table ((key, first) :: (← settledEntries? rest)))
  | .list items => (settledItems? items).map .list
  | v => some v

/-- Items in which moments are settled. -/
def settledItems? : List Value → Option (List Value)
  | [] => some []
  | v :: rest => do
    let v ← settled? v
    some (v :: (← settledItems? rest))

/-- Entries in which moments are settled. -/
def settledEntries? : List (String × Value) → Option (List (String × Value))
  | [] => some []
  | (key, v) :: rest => do
    let v ← settled? v
    some ((key, v) :: (← settledEntries? rest))

end

/-- The entries that a document spells. -/
def read? (text : String) : Option (List (String × Value)) :=
  let s := match text.toList with
    | '\ufeff' :: rest => rest
    | s => s
  let fuel := 2 * s.length + 2
  match (lines? fuel fuel {} s).bind fun state => settled? (.table (entryValues state.root)) with
  | some (.table entries) => some entries
  | _ => none

end Switchboard.Settings.Toml
