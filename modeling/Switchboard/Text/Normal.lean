/-
# Composed form

The same text can be written with marks of its own behind a letter, or with letters that have
their marks built in.  The composed form takes letters apart, puts the marks on each letter in the
order of their classes, and puts together what is one character.
-/
import Switchboard.Text.NormalTable

namespace Switchboard.Text

/-- No mark comes before this code point. -/
def firstMark : Nat := 0x300

/-- The class of a mark; zero for anything that starts anew. -/
def markClass (c : Char) : Nat :=
  if c.toNat < firstMark then 0
  else ((markClasses.find? fun m => m.2.has c.toNat).map Prod.fst).getD 0

/-! ## Syllables of Hangul -/

/-- The number of vowels, and of endings with the missing one. -/
def vowelCount : Nat := 21

/-- The number of endings, with the missing one. -/
def endingCount : Nat := 28

/-- The letters of a syllable, if a character is one. -/
def syllableParts? (c : Char) : Option (List Char) :=
  let n := c.toNat - 0xac00
  if c.toNat < 0xac00 || 19 * vowelCount * endingCount ≤ n then none
  else
    let lead := Char.ofNat (0x1100 + n / endingCount / vowelCount)
    let vowel := Char.ofNat (0x1161 + n / endingCount % vowelCount)
    if n % endingCount = 0 then some [lead, vowel]
    else some [lead, vowel, Char.ofNat (0x11a7 + n % endingCount)]

/-- The syllable that two parts of it make. -/
def syllable? (a b : Char) : Option Char :=
  let lead := a.toNat - 0x1100
  let vowel := b.toNat - 0x1161
  let ending := b.toNat - 0x11a7
  if 0x1100 ≤ a.toNat && lead < 19 && 0x1161 ≤ b.toNat && vowel < vowelCount then
    some (Char.ofNat (0xac00 + (lead * vowelCount + vowel) * endingCount))
  else
    match syllableParts? a with
    | some [_, _] =>
      if 0x11a7 < b.toNat && ending < endingCount then some (Char.ofNat (a.toNat + ending))
      else none
    | _ => none

/-! ## Taking apart -/

/-- The two characters that a composite is made of. -/
def parts? (c : Char) : Option (Char × Char) :=
  compositions.findSome? fun (last, firsts) =>
    (firsts.find? fun f => f.2 = c.toNat).map fun f => (Char.ofNat f.1, Char.ofNat last)

/-- The composite of the table that two characters make. -/
def tableComposite? (a b : Char) : Option Char := do
  let (_, firsts) ← compositions.find? fun c => c.1 = b.toNat
  let (_, whole) ← firsts.find? fun f => f.1 = a.toNat
  some (Char.ofNat whole)

/-- The composite that two characters make; the second is a mark, or comes behind the marks. -/
def composite? (a b : Char) : Option Char :=
  if b.toNat < firstMark then none else (syllable? a b).or (tableComposite? a b)

/-- No character has more than this many parts, one inside the other. -/
def deepest : Nat := 4

/-- No composite comes before this code point. -/
def firstComposite : Nat := 0xc0

/-- A character taken apart. -/
def apart : Nat → Char → List Char
  | 0, c => [c]
  | depth + 1, c =>
    if c.toNat < firstComposite then [c] else
    match syllableParts? c with
    | some parts => parts
    | none =>
      match parts? c with
      | some (first, last) => apart depth first ++ [last]
      | none => [c]

/-! ## Ordering -/

/-- Puts marks in the order of their classes; marks of one class stay in order. -/
def sortMarks (marks : List (Nat × Char)) : List (Nat × Char) :=
  marks.mergeSort fun a b => a.1 ≤ b.1

/-- Orders the marks between characters that start anew; `out` is what is done, reversed. -/
def orderedFrom (out s : List (Nat × Char)) : List (Nat × Char) :=
  match s with
  | [] => out.reverse
  | c :: rest =>
    if c.1 = 0 then orderedFrom (c :: out) rest
    else
      let run := rest.takeWhile (0 < ·.1)
      orderedFrom ((sortMarks (c :: run)).reverse ++ out) (rest.drop run.length)
  termination_by s.length
  decreasing_by all_goals (simp only [List.length_cons, List.length_drop]; omega)

/-- Orders the marks between characters that start anew. -/
def ordered (s : List (Nat × Char)) : List (Nat × Char) := orderedFrom [] s

/-! ## Putting together -/

/-- A composed text under way: what is finished, reversed; the character that may still take
marks; and the marks behind it that it has not taken, reversed. -/
structure Composing where
  done : List Char := []
  starter : Option Char := none
  marks : List (Nat × Char) := []

namespace Composing

/-- The text so far, reversed. -/
def out (s : Composing) : List Char := s.marks.map Prod.snd ++ s.starter.toList ++ s.done

/-- Adds a character that starts anew, or a mark that is not taken. -/
def push (s : Composing) (c : Nat × Char) : Composing :=
  if c.1 = 0 then { done := s.out, starter := some c.2 } else { s with marks := c :: s.marks }

/-- Whether a mark behind the starter hides it from a character. -/
def isHidden (s : Composing) (c : Nat × Char) : Bool := s.marks.any fun m => c.1 ≤ m.1

/-- Adds a character, which the starter takes if they are one character together. -/
def add (s : Composing) (c : Nat × Char) : Composing :=
  match s.starter with
  | some starter =>
    if s.isHidden c then s.push c
    else
      match composite? starter c.2 with
      | some whole => { s with starter := some whole }
      | none => s.push c
  | none => s.push c

end Composing

/-- The composed form of a text. -/
def composed (s : List Char) : List Char :=
  let parts := (s.flatMap (apart deepest)).map fun c => (markClass c, c)
  ((ordered parts).foldl Composing.add {}).out.reverse

end Switchboard.Text
