/-
# YAML tokens

A document as the sequence of its marks, names and scalars.  Indentation is turned into marks:
where a line is indented deeper a collection starts, and where it goes back collections end.
Whether something is a key shows only at the colon behind it, so the mark of a key is put in front
of it then.
-/
import Switchboard.Settings.Yaml.Scalar
import Switchboard.Text.Utf8

namespace Switchboard.Settings.Yaml

/-- A token. -/
inductive Token where
  | version
  | handle (handle : String) (stem : String)
  | documentStart
  | documentEnd
  | listStart
  | tableStart
  | blockEnd
  | flowListStart
  | flowListEnd
  | flowTableStart
  | flowTableEnd
  | item
  | comma
  | key
  | value
  | reference (name : String)
  | anchor (name : String)
  | tag (handle : String) (suffix : String)
  | scalar (plain : Bool) (text : String)
  deriving DecidableEq, Repr

/-- A token that may turn out to be a key: where it starts, and its number among the tokens. -/
structure Candidate where
  possible : Bool := false
  required : Bool := false
  number : Nat := 0
  line : Nat := 0
  column : Nat := 0
  deriving DecidableEq, Repr

/-- A level of indentation that has been left for a deeper one; `isBlock` tells whether the deeper
one is that of a collection. -/
structure Level where
  indent : Int
  isBlock : Bool
  deriving DecidableEq, Repr

/-- A pair that stands in a list without braces: none so far, one that a colon has opened, or one
with a marked key. -/
inductive Pairing where
  | none
  | bare
  | marked
  deriving DecidableEq, Repr

/-- An open collection in brackets. -/
inductive Flow where
  | table
  | list (pairing : Pairing)
  deriving DecidableEq, Repr

/-- A document that is being cut into tokens; `room` is more than its length. -/
structure Scan where
  room : Nat
  here : Cursor
  tokens : Array Token := #[]
  keyAllowed : Bool := true
  keys : List Candidate := [{}]
  indent : Int := -1
  levels : List Level := []
  flows : List Flow := []
  adjacent : Option (Nat × Nat) := none

namespace Scan

/-- Whether brackets are open. -/
def inFlow (s : Scan) : Bool := !s.flows.isEmpty

/-- The scan with one more token. -/
def push (s : Scan) (t : Token) : Scan := { s with tokens := s.tokens.push t }

/-- The scan with a token in front of the one with a number. -/
def insert (s : Scan) (number : Nat) (t : Token) : Scan :=
  { s with tokens := s.tokens.insertIdxIfInBounds number t }

/-- The scan at another place. -/
def moveTo (s : Scan) (c : Cursor) : Scan := { s with here := c }

/-- Whether a key may start next. -/
def allowKey (s : Scan) (allowed : Bool) : Scan := { s with keyAllowed := allowed }

/-- The innermost candidate. -/
def candidate (s : Scan) : Candidate := s.keys.headD {}

/-- The scan with another innermost candidate. -/
def setCandidate (s : Scan) (k : Candidate) : Scan := { s with keys := k :: s.keys.drop 1 }

/-- Whether the innermost level is that of a collection. -/
def inBlock (s : Scan) : Bool := (s.levels.head?).any Level.isBlock

/-- Makes what follows a candidate, if a key may start there. -/
def saveCandidate (s : Scan) : Scan :=
  if s.keyAllowed then
    s.setCandidate {
      possible := true
      required := !s.inFlow && s.indent = s.here.column && s.inBlock
      number := s.tokens.size, line := s.here.line, column := s.here.column }
  else s

/-- Gives the candidate up, unless it had to be a key. -/
def dropCandidate? (s : Scan) : Option Scan :=
  let k := s.candidate
  if k.possible && k.required then none else some (s.setCandidate { k with possible := false })

/-- How far a colon may be from the start of its key. -/
def keySpan : Nat := 1024

/-- Gives a candidate up that is too far away; a key outside brackets does not go over lines. -/
def dropStale? (s : Scan) : Option Scan :=
  let k := s.candidate
  let stale := k.line < s.here.line || k.column + keySpan < s.here.column
  if !s.inFlow && k.possible && stale then s.dropCandidate? else some s

/-- Goes back to the level of a column: collections that are indented deeper end. -/
def unrollLevels (column : Int) (tokens : Array Token) (indent : Int) :
    List Level → Array Token × Int × List Level
  | [] => (tokens, indent, [])
  | level :: outer =>
    if column < indent then
      let tokens := if level.isBlock then tokens.push .blockEnd else tokens
      unrollLevels column tokens level.indent outer
    else (tokens, indent, level :: outer)

/-- Goes back to the level of a column, unless brackets are open. -/
def unroll (s : Scan) (column : Int) : Scan :=
  if s.inFlow then s
  else
    let (tokens, indent, levels) := unrollLevels column s.tokens s.indent s.levels
    { s with tokens, indent, levels }

/-- Goes back to the level of the innermost collection. -/
def unrollLoose (indent : Int) : List Level → Int × List Level
  | level :: outer =>
    if level.isBlock then (indent, level :: outer) else unrollLoose level.indent outer
  | [] => (indent, [])

/-- The scan at the level of the innermost collection. -/
def atBlock (s : Scan) : Scan :=
  let (indent, levels) := unrollLoose s.indent s.levels
  { s with indent, levels }

/-- Goes to the level of a column for a collection, which starts if the column is deeper; its mark
goes in front of a token, or to the end. -/
def roll (s : Scan) (column : Nat) (number : Option Nat) (start : Token) : Scan :=
  if s.inFlow then s
  else
    let s := match s.levels with
      | level :: outer =>
        if s.indent ≤ (column : Int) && !level.isBlock then
          { s with indent := level.indent, levels := outer }
        else s
      | [] => s
    if s.indent < (column : Int) then
      let s := { s with indent := column, levels := ⟨s.indent, true⟩ :: s.levels }
      match number with
      | some n => s.insert n start
      | none => s.push start
    else s

/-- Goes one column deeper, for what belongs to an item or a key. -/
def rollOne (s : Scan) : Scan :=
  if !s.inFlow && s.inBlock then
    { s with indent := s.indent + 1, levels := ⟨s.indent, false⟩ :: s.levels }
  else s

/-- Moves to the next thing on the line, or to the end of the line. -/
def overGap? (s : Scan) : Option Scan := s.here.gap?.map fun (_, c) => s.moveTo c

/-- Skips blanks, line ends and comments.  A tab may not stand where a line is indented, unless
the line is empty. -/
def skip? : Nat → Scan → Option Scan
  | 0, _ => none
  | fuel + 1, s =>
    let c := s.here
    if c.char = '\t' && !s.levels.isEmpty && c.fresh && c.column < s.indent then
      match c.gap? with
      | some (_, c) => if isLineEnd c.char then skip? fuel (s.moveTo c) else none
      | none => none
    else if isGap c.char then skip? fuel (s.moveTo c.next)
    else if c.char = '\n' then
      skip? fuel { s with here := c.next, keyAllowed := s.keyAllowed || !s.inFlow }
    else if c.char = '#' then skip? fuel (s.moveTo c.toLineEnd)
    else some s

/-- Skips what stands between tokens. -/
def skipAll? (s : Scan) : Option Scan := skip? s.room s

/-! ## Directives, anchors and tags -/

/-- A character of a directive's name. -/
def isNameChar (c : Char) : Bool := c.isAlphanum || c = '-' || c = '_'

/-- A character of a tag's address. -/
def isAddressChar (c : Char) : Bool :=
  c.isAlphanum || c = '-' || "#;/?:@&=+$,_.!~*'()[]%".toList.contains c

/-- A character of a tag behind its handle. -/
def isTagChar (c : Char) : Bool := isAddressChar c && !isFlowMark c && c ≠ '!'

/-- The bytes that percent signs and digits spell at the front. -/
def percentBytes : List Char → Bytes
  | '%' :: a :: b :: rest =>
    match Json.hexValue? a, Json.hexValue? b with
    | some x, some y => UInt8.ofNat (16 * x + y) :: percentBytes rest
    | _, _ => []
  | _ => []

/-- The character that bytes behind percent signs spell, and the length of their text. -/
def percentChar? (s : List Char) : Option (Char × Nat) :=
  match percentBytes s with
  | b :: rest =>
    match Text.lead b rest with
    | .char c more => some (c, 3 * (more + 1))
    | .junk _ => none
  | [] => none

/-- Takes the characters of an address; `out` is the text so far, reversed. -/
def address? (isPart : Char → Bool) : Nat → List Char → Cursor → Option (List Char × Cursor)
  | 0, _, _ => none
  | fuel + 1, out, c =>
    if c.rest.isEmpty || !isPart c.char then some (out.reverse, c)
    else if c.char = '%' then
      match percentChar? c.rest with
      | some (e, n) => address? isPart fuel (e :: out) (c.skip n)
      | none => none
    else address? isPart fuel (c.char :: out) c.next

/-- The handle of a tag: an exclamation mark, and a name with another one behind it. -/
def tagHandle? (c : Cursor) : Option (List Char × Cursor) :=
  if c.char = '!' then
    let name := c.next.takeWhile isNameChar
    let c := c.next.skip name.length
    if c.char = '!' then some ('!' :: name ++ ['!'], c.next) else some ('!' :: name, c)
  else none

/-- Whether a handle has a mark at both ends. -/
def isClosedHandle (handle : List Char) : Bool :=
  2 ≤ handle.length && handle.getLast? = some '!'

/-- What stands for a handle: a local or a global address. -/
def tagStem? (c : Cursor) : Option (List Char × Cursor) :=
  let room := c.rest.length + 1
  if c.char = '!' then (address? isAddressChar room [] c.next).map fun (s, c) => ('!' :: s, c)
  else if isTagChar c.char then address? isAddressChar room [] c
  else none

/-- A tag: a whole address in angle brackets, or a handle and a suffix. -/
def tag? (c : Cursor) : Option (Token × Cursor) :=
  let room := c.rest.length + 1
  if c.second = '<' then do
    let (address, c) ← address? isAddressChar room [] (c.skip 2)
    if c.char = '>' then some (.tag "" (String.ofList address), c.next) else none
  else do
    let (handle, c) ← tagHandle? c
    let (suffix, c) ← address? isTagChar room [] c
    if isClosedHandle handle then
      if suffix.isEmpty then none else some (.tag (String.ofList handle) (String.ofList suffix), c)
    else
      let suffix := handle.drop 1 ++ suffix
      if suffix.isEmpty then some (.tag "" "!", c)
      else some (.tag "!" (String.ofList suffix), c)

/-- The number of a version, and what follows it. -/
def versionNumber? (c : Cursor) : Option Cursor :=
  let digits := c.takeWhile Char.isDigit
  if digits.isEmpty || 9 < digits.length then none else some (c.skip digits.length)

/-- A version after the name of its directive. -/
def version? (c : Cursor) : Option (Token × Cursor) := do
  let c ← versionNumber? (c.dropWhile isGap)
  if c.char = '.' then (versionNumber? c.next).map fun c => (.version, c) else none

/-- A handle and what stands for it, after the name of their directive. -/
def handle? (c : Cursor) : Option (Token × Cursor) := do
  let (handle, c) ← tagHandle? (c.dropWhile isGap)
  if handle ≠ ['!'] && !isClosedHandle handle then none
  else
    let (stem, c) ← tagStem? (c.dropWhile isGap)
    if isWordEnd c.char then some (.handle (String.ofList handle) (String.ofList stem), c) else none

/-- A directive; one with an unknown name says nothing. -/
def directive? (c : Cursor) : Option (Token × Cursor) :=
  let name := c.next.takeWhile isNameChar
  let c := c.next.skip name.length
  if name.isEmpty || !isWordEnd c.char then none
  else do
    let (token, c) ←
      if name = "YAML".toList then version? c
      else if name = "TAG".toList then handle? c
      else some (.handle "" "", c.toLineEnd)
    let (_, c) ← c.gap?
    if isLineEnd c.char then some (token, c.next) else none

/-- A character of an anchor's name. -/
def isAnchorChar (c : Char) : Bool := !isWordEnd c && !isFlowMark c && c ≠ '\ufeff'

/-! ## Taking tokens -/

/-- Ends all collections that indentation has opened. -/
def closeAll? (s : Scan) : Option Scan := ((s.unroll (-1)).dropCandidate?).map (·.allowKey false)

/-- Takes a directive. -/
def onDirective? (s : Scan) : Option Scan := do
  let s ← s.closeAll?
  let (token, c) ← directive? s.here
  some ((s.push token).moveTo c)

/-- Takes the mark of a document's start. -/
def onDocumentStart? (s : Scan) : Option Scan := do
  let s ← s.closeAll?
  some ((s.push .documentStart).moveTo (s.here.skip 3))

/-- Takes the mark of a document's end, which has its line to itself. -/
def onDocumentEnd? (s : Scan) : Option Scan := do
  let s ← s.closeAll?
  let s ← ((s.push .documentEnd).moveTo (s.here.skip 3)).overGap?
  if isLineEnd s.here.char then some s else none

/-- Ends a pair that stands in a list without braces. -/
def closePair (s : Scan) : Scan :=
  match s.flows with
  | .list .bare :: outer => { s.push .flowTableEnd with flows := .list .none :: outer }
  | .list .marked :: outer => { s with flows := .list .none :: outer }
  | _ => s

/-- How many brackets may be open. -/
def flowLimit : Nat := 255

/-- Takes an opening bracket. -/
def onFlowStart? (s : Scan) (flow : Flow) (token : Token) : Option Scan :=
  let s := s.saveCandidate.rollOne
  if flowLimit ≤ s.flows.length then none
  else
    let s := { s with keys := {} :: s.keys, flows := flow :: s.flows, keyAllowed := true }
    ((s.moveTo s.here.next).overGap?).map (·.push token)

/-- Takes a closing bracket. -/
def onFlowEnd? (s : Scan) (token : Token) : Option Scan := do
  let s ← s.dropCandidate?
  let s := if token = .flowListEnd then s.closePair else s
  let s := if s.inFlow then { s with keys := s.keys.drop 1, flows := s.flows.drop 1 } else s
  let s ← ((s.allowKey false).moveTo s.here.next).overGap?
  let s := if s.inFlow then { s with adjacent := some (s.here.line, s.here.column) } else s
  some (s.push token)

/-- Takes a comma. -/
def onComma? (s : Scan) : Option Scan := do
  let s ← s.dropCandidate?
  let s := (s.allowKey true).closePair
  let s ← (s.moveTo s.here.next).overGap?
  some (s.push .comma)

/-- Takes the mark of an item. -/
def onItem? (s : Scan) : Option Scan :=
  if s.inFlow || !s.keyAllowed then none
  else do
    let column := s.here.column
    let s := (s.moveTo s.here.next).roll column none .listStart
    let (gap, c) ← s.here.gap?
    if gap.tab && c.char = '-' && isWordEnd c.second then none
    else
      let s := s.moveTo c
      let s := if c.char = '\n' || isFlowMark c.char then s.rollOne else s
      let s ← s.dropCandidate?
      some ((s.allowKey true).push .item)

/-- Skips blanks, line ends and comments, but no tab. -/
def skipNoTab : Nat → Scan → Scan
  | 0, s => s
  | fuel + 1, s =>
    let c := s.here
    if c.char = ' ' then skipNoTab fuel (s.moveTo c.next)
    else if c.char = '\n' then
      skipNoTab fuel { s with here := c.next, keyAllowed := s.keyAllowed || !s.inFlow }
    else if c.char = '#' then skipNoTab fuel (s.moveTo c.toLineEnd)
    else s

/-- Skips what must stand behind the mark of a key. -/
def overKeyGap? (s : Scan) : Option Scan :=
  if s.here.char = ' ' || s.here.char = '\n' then
    let s := s.skipNoTab s.room
    if s.here.char = '\t' then none else some s
  else none

/-- The scan behind the mark of a key, which opens a pair of a list by itself. -/
def markPair (s : Scan) : Scan :=
  match s.flows with
  | .list .none :: outer => { s with flows := .list .marked :: outer }
  | _ => s

/-- Takes the mark of a key. -/
def onKey? (s : Scan) : Option Scan :=
  if !s.inFlow && !s.keyAllowed then none
  else do
    let s := (s.roll s.here.column none .tableStart).markPair
    let s ← s.dropCandidate?
    let s ← ((s.allowKey (!s.inFlow)).moveTo s.here.next).overKeyGap?
    some (s.push .key)

/-- Whether a colon here opens a pair of a list. -/
def opensPair (s : Scan) : Bool :=
  match s.flows with
  | .list .none :: _ => true
  | .list .bare :: _ => true
  | _ => false

/-- The scan inside a pair that a colon opens. -/
def openPair (s : Scan) : Scan :=
  match s.flows with
  | .list .none :: outer => { s with flows := .list .bare :: outer }
  | _ => s

/-- Moves behind a colon.  Where a tab stands there, a word or an item behind it needs a space
too. -/
def overColon? (s : Scan) : Option Scan :=
  let c := s.here.next
  if c.char = '\t' then
    match c.gap? with
    | some (gap, c) =>
      if !gap.space && (c.char = '-' || isNameChar c.char) then none else some (s.moveTo c)
    | none => none
  else some (s.moveTo c)

/-- Takes a colon behind a candidate, which is a key. -/
def onKeyed? (s : Scan) (k : Candidate) (line : Nat) : Option Scan :=
  if s.opensPair && k.line < line then none
  else
    let keyed := s.insert k.number .key
    let s := if s.opensPair then keyed.insert k.number .flowTableStart else keyed
    let s := (s.roll k.column (some k.number) .tableStart).rollOne
    some ((s.setCandidate { k with possible := false }).allowKey false)

/-- Takes a colon that has no candidate before it: one behind a marked key, or one without a key. -/
def onBare? (s : Scan) (column : Nat) : Option Scan :=
  let s := if s.opensPair then s.push .flowTableStart else s
  if s.inFlow then some ((s.rollOne).allowKey false)
  else if s.keyAllowed then some (((s.roll column none .tableStart).rollOne).allowKey true)
  else none

/-- Takes a colon. -/
def onValue? (s : Scan) : Option Scan := do
  let k := s.candidate
  let start := s.here
  let s ← s.openPair.overColon?
  let s ← if k.possible then s.onKeyed? k start.line else s.onBare? start.column
  some (s.push .value)

/-- Takes an anchor, or an alias of one. -/
def onAnchor? (s : Scan) (isAlias : Bool) : Option Scan :=
  let s := s.saveCandidate.allowKey false
  let name := s.here.next.takeWhile isAnchorChar
  if name.isEmpty then none
  else
    let known := String.ofList name
    some ((s.push (if isAlias then .reference known else .anchor known)).moveTo
      (s.here.skip (name.length + 1)))

/-- Takes a tag. -/
def onTag? (s : Scan) : Option Scan := do
  let s := s.saveCandidate.allowKey false
  let (token, c) ← tag? s.here
  if isWordEnd c.char || (s.inFlow && isFlowMark c.char) then some ((s.push token).moveTo c)
  else none

/-- Takes a block scalar. -/
def onBlock? (s : Scan) : Option Scan := do
  let s := (s.saveCandidate.allowKey true).atBlock
  let (text, c) ← block? s.indent s.room s.here
  some ((s.push (.scalar false text)).moveTo c)

/-- Takes a quoted scalar. -/
def onQuoted? (s : Scan) : Option Scan := do
  let s := s.saveCandidate.allowKey false
  let (text, c) ← quoted? s.indent s.inFlow s.room s.here
  let s ← (s.moveTo c).skipAll?
  some ({ s with adjacent := some (s.here.line, s.here.column) }.push (.scalar false text))

/-- Takes a plain scalar. -/
def onPlain? (s : Scan) : Option Scan := do
  let s := (s.saveCandidate.allowKey false).atBlock
  let (text, c) ← plain? ⟨s.indent + 1, s.inFlow⟩ s.room s.here
  let s := if c.fresh then s.allowKey true else s
  some ((s.push (.scalar true text)).moveTo c)

/-- Whether a colon here is the mark of a value. -/
def isValueMark (s : Scan) : Bool :=
  isWordEnd s.here.second ||
    (s.inFlow && (isFlowMark s.here.second || s.adjacent = some (s.here.line, s.here.column)))

/-- Takes the token at a place that is neither a directive nor the mark of a document. -/
def take? (s : Scan) : Option Scan :=
  let c := s.here.char
  let alone := isWordEnd s.here.second
  if c = '[' then s.onFlowStart? (.list .none) .flowListStart
  else if c = '\x7b' then s.onFlowStart? .table .flowTableStart
  else if c = ']' then s.onFlowEnd? .flowListEnd
  else if c = '\x7d' then s.onFlowEnd? .flowTableEnd
  else if c = ',' then s.onComma?
  else if c = '-' && alone then s.onItem?
  else if c = '?' && alone then s.onKey?
  else if c = ':' && s.isValueMark then s.onValue?
  else if c = '*' then s.onAnchor? true
  else if c = '&' then s.onAnchor? false
  else if c = '!' then s.onTag?
  else if (c = '|' || c = '>') && !s.inFlow then s.onBlock?
  else if c = '\'' || c = '"' then s.onQuoted?
  else if c = '%' || c = '@' || c = '\x60' then none
  else s.onPlain?

/-- Takes the next token. -/
def fetch? (s : Scan) : Option Scan :=
  if s.here.column = 0 && s.here.char = '%' then s.onDirective?
  else if s.here.column = 0 && s.here.isMark '-' then s.onDocumentStart?
  else if s.here.column = 0 && s.here.isMark '.' then s.onDocumentEnd?
  else if s.here.column < s.indent then none
  else s.take?

/-- Ends the document: no candidate may be left that had to be a key. -/
def finish? (s : Scan) : Option (Array Token) :=
  if s.keys.any fun k => k.possible && k.required then none
  else some (s.unroll (-1)).tokens

/-- Takes tokens to the end of the document. -/
def run? : Nat → Scan → Option (Array Token)
  | 0, _ => none
  | fuel + 1, s => do
    let s ← s.skipAll?
    let s ← s.dropStale?
    let s := s.unroll s.here.column
    if s.here.rest.isEmpty then s.finish? else run? fuel (← s.fetch?)

end Scan

/-- The tokens of a document. -/
def tokens? (text : List Char) : Option (List Token) :=
  let s := plainLines text
  let room := s.length + 1
  (Scan.run? (room + 1) { room, here := { rest := s } }).map Array.toList

end Switchboard.Settings.Yaml
