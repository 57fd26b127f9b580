/-
# Blank characters

The characters with Unicode's `White_Space` property, and the trimming that drops them from both
ends of a text.  The set is larger than ASCII's: it has the no-break space, the ideographic space
and the line separators, but not the zero-width space.
-/
import Switchboard.Text.Ranges

namespace Switchboard.Text

/-- The `White_Space` characters. -/
def blankRanges : Ranges :=
  [(0x9, 0xd), (0x20, 0x20), (0x85, 0x85), (0xa0, 0xa0), (0x1680, 0x1680), (0x2000, 0x200a),
   (0x2028, 0x2029), (0x202f, 0x202f), (0x205f, 0x205f), (0x3000, 0x3000)]

/-- Whether a character is white space. -/
def isBlank (c : Char) : Bool := blankRanges.has c.toNat

/-- Drops blank characters from the front. -/
def trimLeft (s : List Char) : List Char := s.dropWhile isBlank

/-- Drops blank characters from the end. -/
def trimRight (s : List Char) : List Char := (s.reverse.dropWhile isBlank).reverse

/-- Drops blank characters from both ends. -/
def trim (s : List Char) : List Char := trimRight (trimLeft s)

/-- A text of blank characters only; the empty text is one. -/
def allBlank (s : String) : Bool := s.toList.all isBlank

end Switchboard.Text
