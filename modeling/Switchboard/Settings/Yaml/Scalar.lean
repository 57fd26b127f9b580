/-
# YAML scalars

The text of a scalar in each of its forms: plain, between quotes of either kind, or as a block
whose lines are kept or folded.  Inside a text a single line end counts as a space, and of several
line ends the first does not count; only a block can keep its lines as they are.
-/
import Switchboard.Settings.Yaml.Cursor
import Switchboard.Settings.Toml.Quote

namespace Switchboard.Settings.Yaml

/-- Where a scalar stands: the least column of its lines, and whether brackets are around it. -/
structure Frame where
  indent : Int
  inFlow : Bool
  deriving DecidableEq, Repr

/-- A scalar under way; `out` and `spaces` are reversed.  Of the line ends behind it, `broken` tells
whether there is a first one, and `breaks` counts the others. -/
structure Draft where
  out : List Char := []
  spaces : List Char := []
  broken : Bool := false
  breaks : Nat := 0

/-- The text with the line ends behind it. -/
def Draft.folded (d : Draft) : Draft :=
  let filler := if d.broken && d.breaks = 0 then [' '] else List.replicate d.breaks '\n'
  { d with out := filler ++ d.out, broken := false, breaks := 0 }

/-- The text with the blanks behind it. -/
def Draft.spaced (d : Draft) : Draft := { d with out := d.spaces ++ d.out, spaces := [] }

/-! ## Plain scalars -/

/-- Whether a plain scalar can go on here. -/
def isPlain (inFlow : Bool) (c : Cursor) : Bool :=
  !isWordEnd c.char && !(c.char = ':' && (isWordEnd c.second || (inFlow && isFlowMark c.second))) &&
    !(inFlow && isFlowMark c.char)

/-- Takes the characters of a word. -/
def takeWord (inFlow : Bool) (d : Draft) (c : Cursor) : Draft × Cursor :=
  if _h : c.rest = [] then (d, c)
  else if isPlain inFlow c then takeWord inFlow { d with out := c.char :: d.out } c.next
  else (d, c)
  termination_by c.rest.length
  decreasing_by exact Cursor.length_next_lt _h

/-- Takes blanks and line ends.  A tab may not stand where a line is indented, unless the line is
empty. -/
def takeGaps? (indent : Int) : Nat → Draft → Cursor → Option (Draft × Cursor)
  | 0, _, _ => none
  | fuel + 1, d, c =>
    if isGap c.char then
      if !c.fresh then takeGaps? indent fuel { d with spaces := c.char :: d.spaces } c.next
      else if c.char = '\t' && c.column < indent then
        match c.gap? with
        | some (_, c) => if isLineEnd c.char then takeGaps? indent fuel d c else none
        | none => none
      else takeGaps? indent fuel d c.next
    else if c.char = '\n' then
      if c.fresh then takeGaps? indent fuel { d with breaks := d.breaks + 1 } c.next
      else takeGaps? indent fuel { d with spaces := [], broken := true } c.next
    else some (d, c)

/-- Takes the words of a plain scalar. -/
def plainFrom? (frame : Frame) : Nat → Draft → Cursor → Option (Draft × Cursor)
  | 0, _, _ => none
  | fuel + 1, d, c =>
    if c.isDocumentMark || c.char = '#' then some (d, c)
    else if frame.inFlow && c.char = '-' && isFlowMark c.second then none
    else
      let (d, c) :=
        if isPlain frame.inFlow c then
          takeWord frame.inFlow (if c.fresh then d.folded else d.spaced) c
        else (d, c)
      if isGap c.char || c.char = '\n' then
        match takeGaps? frame.indent (fuel + 1) d c with
        | some (d, c) =>
          if !frame.inFlow && c.column < frame.indent then some (d, c)
          else plainFrom? frame fuel d c
        | none => none
      else some (d, c)

/-- A plain scalar; `room` is more than the length of what is left. -/
def plain? (frame : Frame) (room : Nat) (c : Cursor) : Option (String × Cursor) :=
  if frame.inFlow && c.column < frame.indent then none
  else
    match plainFrom? frame room {} c with
    | some (d, c) => if d.out.isEmpty then none else some (String.ofList d.out.reverse, c)
    | none => none

/-! ## Quoted scalars -/

/-- The character that an escape stands for, and the length of the escape after its backslash. -/
def escape? : List Char → Option (Char × Nat)
  | '0' :: _ => some ('\x00', 1)
  | 'a' :: _ => some ('\x07', 1)
  | 'b' :: _ => some ('\x08', 1)
  | 't' :: _ => some ('\t', 1)
  | '\t' :: _ => some ('\t', 1)
  | 'n' :: _ => some ('\n', 1)
  | 'v' :: _ => some ('\x0b', 1)
  | 'f' :: _ => some ('\x0c', 1)
  | 'r' :: _ => some ('\r', 1)
  | 'e' :: _ => some ('\x1b', 1)
  | ' ' :: _ => some (' ', 1)
  | '"' :: _ => some ('"', 1)
  | '/' :: _ => some ('/', 1)
  | '\\' :: _ => some ('\\', 1)
  | 'N' :: _ => some ('\u0085', 1)
  | '_' :: _ => some ('\u00a0', 1)
  | 'L' :: _ => some ('\u2028', 1)
  | 'P' :: _ => some ('\u2029', 1)
  | 'x' :: rest => Toml.numbered? 2 rest
  | 'u' :: rest => Toml.numbered? 4 rest
  | 'U' :: rest => Toml.numbered? 8 rest
  | _ => none

/-- Takes the characters of a quoted scalar up to a blank, a line end or the closing quote; also
tells whether a line end was escaped there. -/
def takeQuoted? (quote : Char) : Nat → Draft → Cursor → Option (Bool × Draft × Cursor)
  | 0, _, _ => none
  | fuel + 1, d, c =>
    if isWordEnd c.char then some (false, d, c)
    else if quote = '\'' && c.char = '\'' && c.second = '\'' then
      takeQuoted? quote fuel { d with out := '\'' :: d.out } (c.skip 2)
    else if c.char = quote then some (false, d, c)
    else if quote = '"' && c.char = '\\' then
      if c.second = '\n' then some (true, d, c.skip 2)
      else
        match escape? (c.rest.drop 1) with
        | some (e, n) => takeQuoted? quote fuel { d with out := e :: d.out } (c.skip (n + 1))
        | none => none
    else takeQuoted? quote fuel { d with out := c.char :: d.out } c.next

/-- Takes blanks and line ends inside quotes; `lineBroken` tells whether a line has ended before. -/
def takeQuotedGaps? (indent : Int) :
    Nat → Bool → Draft → Cursor → Option (Bool × Draft × Cursor)
  | 0, _, _, _ => none
  | fuel + 1, lineBroken, d, c =>
    if isGap c.char then
      if !lineBroken then
        takeQuotedGaps? indent fuel false { d with spaces := c.char :: d.spaces } c.next
      else if c.char = '\t' && c.column < indent then none
      else takeQuotedGaps? indent fuel true d c.next
    else if c.char = '\n' then
      if lineBroken then
        takeQuotedGaps? indent fuel true { d with breaks := d.breaks + 1 } c.next
      else takeQuotedGaps? indent fuel true { d with spaces := [], broken := true } c.next
    else some (lineBroken, d, c)

/-- Takes a quoted scalar up to its closing quote. -/
def quotedFrom? (quote : Char) (indent : Int) : Nat → Draft → Cursor → Option (Draft × Cursor)
  | 0, _, _ => none
  | fuel + 1, d, c =>
    if c.isDocumentMark || c.rest.isEmpty || c.column < indent then none
    else
      match takeQuoted? quote (fuel + 1) d c with
      | none => none
      | some (escaped, d, c) =>
        if c.char = quote then some (d, c)
        else
          match takeQuotedGaps? indent (fuel + 1) escaped d c with
          | none => none
          | some (lineBroken, d, c) =>
            quotedFrom? quote indent fuel (if lineBroken then d.folded else d.spaced) c

/-- Whether something may stand behind a quoted scalar that started on a line. -/
def mayFollowQuoted (inFlow : Bool) (line : Nat) (c : Cursor) : Bool :=
  isLineEnd c.char ||
    (inFlow && (c.char = ',' || c.char = '\x7d' || c.char = ']' || c.char = ':')) ||
    (!inFlow && c.char = ':' && c.line = line)

/-- A quoted scalar; `room` is more than the length of what is left. -/
def quoted? (indent : Int) (inFlow : Bool) (room : Nat) (c : Cursor) : Option (String × Cursor) :=
  match quotedFrom? c.char indent room {} c.next with
  | none => none
  | some (d, stop) =>
    match stop.next.gap? with
    | none => none
    | some (_, stop) =>
      if mayFollowQuoted inFlow c.line stop then some (String.ofList d.out.reverse, stop) else none

/-! ## Block scalars -/

/-- What becomes of the line ends behind a block: none stays, the first one, or all of them. -/
inductive Chomp where
  | strip
  | clip
  | keep
  deriving DecidableEq, Repr

/-- What the first line of a block says: whether its lines are kept, what becomes of the line ends
behind it, and by how much it is indented. -/
structure BlockHead where
  literal : Bool
  chomp : Chomp := .clip
  increment : Nat := 0
  deriving DecidableEq, Repr

/-- Reads what becomes of the line ends. -/
def BlockHead.takeChomp (h : BlockHead) (c : Cursor) : BlockHead × Cursor :=
  if c.char = '+' then ({ h with chomp := .keep }, c.next)
  else if c.char = '-' then ({ h with chomp := .strip }, c.next)
  else (h, c)

/-- Reads by how much a block is indented, which is not by nothing. -/
def BlockHead.takeIncrement? (h : BlockHead) (c : Cursor) : Option (BlockHead × Cursor) :=
  if c.char = '0' then none
  else if c.char.isDigit then some ({ h with increment := c.char.toNat - '0'.toNat }, c.next)
  else some (h, c)

/-- The first line of a block, up to its end. -/
def blockHead? (c : Cursor) : Option (BlockHead × Cursor) := do
  let head : BlockHead := { literal := c.char = '|' }
  let (head, c) := head.takeChomp c.next
  let chomped := head.chomp ≠ .clip
  let (head, c) ← head.takeIncrement? c
  let (head, c) := if chomped then (head, c)
    else if head.increment = 0 then (head, c) else head.takeChomp c
  let (_, c) ← c.gap?
  if isLineEnd c.char then some (head, c) else none

/-- Skips empty lines and the indentation of the line behind them; counts the lines. -/
def blockGaps (indent : Nat) : Nat → Nat → Cursor → Nat × Cursor
  | 0, breaks, c => (breaks, c)
  | fuel + 1, breaks, c =>
    if c.column < indent && c.char = ' ' then blockGaps indent fuel breaks c.next
    else if c.char = '\n' then blockGaps indent fuel (breaks + 1) c.next
    else (breaks, c)

/-- Skips empty lines and the blanks in front of the first line of a block; counts the lines, and
finds the widest indentation among them. -/
def firstGaps : Nat → Nat → Nat → Cursor → Nat × Nat × Cursor
  | 0, widest, breaks, c => (widest, breaks, c)
  | fuel + 1, widest, breaks, c =>
    if c.char = ' ' then firstGaps fuel widest breaks c.next
    else if c.char = '\n' then firstGaps fuel (max widest c.column) (breaks + 1) c.next
    else (max widest c.column, breaks, c)

/-- Puts the line ends before a line into a block's text: a folded block joins lines that do not
start with a blank. -/
def joinLine (literal afterBlank : Bool) (d : Draft) (c : Cursor) : Draft :=
  if !literal && d.broken && !afterBlank && !isGap c.char then d.folded
  else
    let ends := d.breaks + (if d.broken then 1 else 0)
    { d with out := List.replicate ends '\n' ++ d.out, broken := false, breaks := 0 }

/-- Takes the lines of a block, which start at a column. -/
def blockLines (literal : Bool) (indent : Nat) : Nat → Bool → Draft → Cursor → Draft × Cursor
  | 0, _, d, c => (d, c)
  | fuel + 1, afterBlank, d, c =>
    if c.column ≠ indent || c.rest.isEmpty || (indent = 0 && c.isMark '.') then (d, c)
    else
      let startsBlank := isGap c.char
      let d := joinLine literal afterBlank d c
      let line := c.takeWhile fun x => !isLineEnd x
      let c := c.toLineEnd
      let d := { d with out := line.reverse ++ d.out }
      if c.rest.isEmpty then (d, c)
      else
        let (breaks, c) := blockGaps indent (fuel + 1) 0 c.next
        blockLines literal indent fuel startsBlank { d with broken := true, breaks } c

/-- The text of a block, with the line ends that stay behind it. -/
def chomped (chomp : Chomp) (indent : Nat) (d : Draft) (c : Cursor) : List Char :=
  let first := if d.broken then ['\n'] else []
  let last := if c.rest.isEmpty && max indent 1 ≤ c.column then ['\n'] else []
  match chomp with
  | .strip => d.out
  | .clip => last ++ first ++ d.out
  | .keep => List.replicate d.breaks '\n' ++ last ++ first ++ d.out

/-- The text of a block that ends with the document before its first line; `headLine` is the line of
its head, and `headEnded` tells whether that line has an end. -/
def emptyBlock (chomp : Chomp) (headLine : Nat) (headEnded : Bool) (breaks : Nat) (c : Cursor) :
    List Char :=
  let ended := if headEnded then ['\n'] else []
  if chomp = .strip || c.line = headLine then []
  else if chomp = .keep && breaks ≠ 0 then List.replicate breaks '\n'
  else ended

/-- A block scalar below an indentation; `room` is more than the length of what is left. -/
def block? (indent : Int) (room : Nat) (c : Cursor) : Option (String × Cursor) := do
  let headLine := c.line
  let (head, c) ← blockHead? c
  let headEnded := c.char = '\n'
  let c := if headEnded then c.next else c
  if c.char = '\t' then none
  else
    let fixed := if 0 ≤ indent then indent.toNat + head.increment else head.increment
    let (width, breaks, c) :=
      if head.increment = 0 then
        let (widest, breaks, c) := firstGaps room 0 0 c
        (max (max widest (indent + 1).toNat) (if 0 < indent then 1 else 0), breaks, c)
      else
        let (breaks, c) := blockGaps fixed room 0 c
        (fixed, breaks, c)
    if c.rest.isEmpty then
      some (String.ofList (emptyBlock head.chomp headLine headEnded breaks c), c)
    else if c.column < width && indent < c.column then none
    else
      let (d, c) := blockLines head.literal width room false { breaks } c
      some (String.ofList (chomped head.chomp width d c).reverse, c)

end Switchboard.Settings.Yaml
