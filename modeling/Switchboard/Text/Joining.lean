/-
# Joiners

Two characters without a shape say whether the letters beside them join.  They make a difference
only behind a sign that cuts off a vowel, and the one that keeps letters apart also between
letters that would join.
-/
import Switchboard.Text.Normal
import Switchboard.Text.ScriptTable

namespace Switchboard.Text

/-- Keeps letters apart. -/
def nonJoiner : Char := '\u200c'

/-- Joins letters. -/
def joiner : Char := '\u200d'

/-- Whether a character is a mark. -/
def isMark (c : Char) : Bool := Script.nonspacing.has c.toNat || Script.spacing.has c.toNat

/-- The class of the signs that cut off a vowel. -/
def cutClass : Nat := 9

/-- Whether joining looks through a character. -/
def isTransparent (c : Char) : Bool :=
  Script.nonspacing.has c.toNat || Script.alsoTransparent.has c.toNat

/-- Whether a letter joins with the one behind it. -/
def joinsBehind (c : Char) : Bool :=
  Script.dualJoining.has c.toNat || Script.leftJoining.has c.toNat

/-- Whether a letter joins with the one before it. -/
def joinsBefore (c : Char) : Bool :=
  Script.dualJoining.has c.toNat || Script.rightJoining.has c.toNat

/-- The first character that joining does not look through. -/
def nextLetter? (s : List Char) : Option Char := (s.dropWhile isTransparent).head?

/-- Whether a character has a place where it makes a difference, if it needs one; `before` is what
stands before it, reversed. -/
def isAtPlace (before : List Char) (c : Char) (after : List Char) : Bool :=
  if c = joiner then before.head?.any (markClass · = cutClass)
  else if c = nonJoiner then
    before.head?.any (markClass · = cutClass) ||
      ((nextLetter? before).any joinsBehind && (nextLetter? after).any joinsBefore)
  else true

/-- Whether all joiners of a text are at places where they make a difference; `before` is the text
so far, reversed. -/
def joinersFit (before : List Char) : List Char → Bool
  | [] => true
  | c :: after => isAtPlace before c after && joinersFit (c :: before) after

end Switchboard.Text
