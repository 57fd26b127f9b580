/-
# Direction

Some scripts run from left to right and some from right to left.  A word that keeps to a few rules
looks the same whatever stands beside it: it starts with a letter, holds nothing that runs the other
way, and ends with a letter or a digit, marks aside.
-/
import Switchboard.Text.ScriptTable

namespace Switchboard.Text

/-- How a character takes part in the direction of a line. -/
inductive Direction where
  | left
  | right
  | arabicDigit
  | europeanDigit
  | neutral
  | mark
  deriving DecidableEq, Repr

namespace Direction

/-- The direction of a character. -/
def ofChar (c : Char) : Direction :=
  if Script.nonspacing.has c.toNat then mark
  else if Script.rightToLeft.has c.toNat then right
  else if Script.arabicDigits.has c.toNat then arabicDigit
  else if Script.europeanDigits.has c.toNat then europeanDigit
  else if Script.neutral.has c.toNat then neutral
  else left

/-- Whether a character makes the order of a line a matter of direction. -/
def turns (d : Direction) : Bool := d = right || d = arabicDigit

/-- The last direction of a word, marks aside. -/
def ending? (word : List Direction) : Option Direction := (word.reverse.dropWhile (· = mark)).head?

/-- Whether a word that starts from the left is in order. -/
def isLeftWord (word : List Direction) : Bool :=
  word.all [left, europeanDigit, neutral, mark].contains &&
    (ending? word).any [left, europeanDigit].contains

/-- Whether a word that starts from the right is in order; it has digits of one kind only. -/
def isRightWord (word : List Direction) : Bool :=
  word.all [right, arabicDigit, europeanDigit, neutral, mark].contains &&
    (ending? word).any [right, arabicDigit, europeanDigit].contains &&
    !(word.contains arabicDigit && word.contains europeanDigit)

/-- Whether a word is in order. -/
def isWord (word : List Direction) : Bool :=
  match word with
  | [] => true
  | left :: _ => isLeftWord word
  | right :: _ => isRightWord word
  | _ => false

end Direction

/-- Whether words side by side look the same in either direction: if any of them has to do with
direction, all must be in order. -/
def keepOrder (words : List (List Char)) : Bool :=
  let directions := words.map fun w => w.map Direction.ofChar
  !(directions.any fun w => w.any Direction.turns) || directions.all Direction.isWord

end Switchboard.Text
