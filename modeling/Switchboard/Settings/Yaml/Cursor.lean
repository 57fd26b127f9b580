/-
# Places in a YAML document

Indentation carries meaning in YAML, so a reader keeps the line and column of what it looks at,
and whether only blanks stand before it on its line.  A zero character stands for the end of the
document.
-/

namespace Switchboard.Settings.Yaml

/-- A place in a document, with what follows it. -/
structure Cursor where
  rest : List Char
  line : Nat := 0
  column : Nat := 0
  fresh : Bool := true
  deriving DecidableEq, Repr

/-- A space or a tab. -/
def isGap (c : Char) : Bool := c = ' ' || c = '\t'

/-- Where a line ends. -/
def isLineEnd (c : Char) : Bool := c = '\n' || c = '\x00'

/-- Where a word ends. -/
def isWordEnd (c : Char) : Bool := isGap c || isLineEnd c

/-- The marks of collections that are written in brackets. -/
def isFlowMark (c : Char) : Bool := c = ',' || c = '[' || c = ']' || c = '\x7b' || c = '\x7d'

namespace Cursor

/-- The character at a place. -/
def char (c : Cursor) : Char := c.rest.headD '\x00'

/-- The character behind the one at a place. -/
def second (c : Cursor) : Char := (c.rest.drop 1).headD '\x00'

/-- The place behind a character. -/
def behind (line column : Nat) (fresh : Bool) (rest : List Char) (c : Char) : Cursor :=
  if c = '\n' then ⟨rest, line + 1, 0, true⟩ else ⟨rest, line, column + 1, fresh && isGap c⟩

/-- The next place. -/
def next (c : Cursor) : Cursor :=
  match c.rest with
  | x :: rest => behind c.line c.column c.fresh rest x
  | [] => c

/-- The place after some characters. -/
def skip : Nat → Cursor → Cursor
  | 0, c => c
  | n + 1, c => skip n c.next

theorem length_next_lt {c : Cursor} (h : c.rest ≠ []) : c.next.rest.length < c.rest.length := by
  obtain ⟨rest, line, column, fresh⟩ := c
  match rest, h with
  | x :: rest, _ =>
    simp only [next, behind]
    split <;> simp

/-- The first place from here on at which a property fails. -/
def dropWhile (p : Char → Bool) (c : Cursor) : Cursor :=
  if _h : c.rest = [] then c
  else if p c.char then dropWhile p c.next
  else c
  termination_by c.rest.length
  decreasing_by exact length_next_lt _h

/-- The characters from here on up to the first at which a property fails. -/
def takeWhile (p : Char → Bool) (c : Cursor) : List Char := c.rest.takeWhile p

/-- The end of the line. -/
def toLineEnd (c : Cursor) : Cursor := c.dropWhile fun x => !isLineEnd x

/-- Whether a document's start or end is marked here. -/
def isMark (mark : Char) (c : Cursor) : Bool :=
  [mark, mark, mark].isPrefixOf c.rest && isWordEnd ((c.rest.drop 3).headD '\x00')

/-- Whether a line starts here with the start or the end of a document. -/
def isDocumentMark (c : Cursor) : Bool := c.column = 0 && (c.isMark '-' || c.isMark '.')

/-- What was met between a place and the next thing on its line. -/
structure Gap where
  tab : Bool := false
  space : Bool := false
  deriving DecidableEq, Repr

/-- Walks over blanks and a comment, which must stand behind a blank. -/
def overGap? (gap : Gap) (c : Cursor) : Option (Gap × Cursor) :=
  if _h : c.rest = [] then some (gap, c)
  else if c.char = ' ' then overGap? { gap with space := true } c.next
  else if c.char = '\t' then overGap? { gap with tab := true } c.next
  else if c.char = '#' then if gap.tab || gap.space then some (gap, c.toLineEnd) else none
  else some (gap, c)
  termination_by c.rest.length
  decreasing_by all_goals exact length_next_lt _h

/-- The next thing on the line, or the end of the line. -/
def gap? (c : Cursor) : Option (Gap × Cursor) := overGap? {} c

end Cursor

/-- A document without the differences between line ends, up to the first zero character. -/
def plainLines : List Char → List Char
  | '\x00' :: _ => []
  | '\r' :: '\n' :: rest => '\n' :: plainLines rest
  | '\r' :: rest => '\n' :: plainLines rest
  | c :: rest => c :: plainLines rest
  | [] => []

end Switchboard.Settings.Yaml
