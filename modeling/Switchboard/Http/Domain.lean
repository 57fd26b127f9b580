/-
# Domains

A domain may be written in letters of any script.  Characters are first taken for those that they
stand for, and the text is brought to its composed form.  Each label of it that is not plain is
then written in Punycode behind a mark of four characters; a label that already has the mark must
be such a written form.
-/
import Switchboard.Http.Domain.Table
import Switchboard.Text.Casing
import Switchboard.Text.Direction
import Switchboard.Text.Joining
import Switchboard.Text.Punycode

namespace Switchboard.Http.Domain

open Text (Ranges)

/-- The code point at which a word of a table stands, and its image.  `last` is the code point
before it. -/
def imageOf (last : Nat) (w : List Char) : Nat × List Char :=
  let spelled (s : List Char) : List Char :=
    (Text.split '+' s).map fun d => Char.ofNat (Text.ofHex d)
  match Text.cut ':' w with
  | (start, some image) => (Text.ofHex start, spelled image)
  | (image, none) => (last + 1, spelled image)

/-- The code points and images of the words of a table; `last` is the code point before them. -/
def imagesFrom (last : Nat) : List (List Char) → List (Nat × List Char)
  | [] => []
  | w :: rest =>
    let image := imageOf last w
    image :: imagesFrom image.1 rest

/-- Characters and what they stand for, in increasing order. -/
def imageList : List (Nat × List Char) := imagesFrom 0 (Text.tableWords images)

/-- Looks a code point up. -/
def findImage? (n : Nat) : List (Nat × List Char) → Option (List Char)
  | [] => none
  | (m, image) :: rest =>
    if n < m then none else if n = m then some image else findImage? n rest

/-- The code point that stands for another one, in the runs of partners. -/
def partner (n : Nat) : Nat :=
  if kept.has n then n
  else
    let moved := Text.lowerCode shifted n
    if moved = n then Text.lowerCode Text.lowerRuns n else moved

/-- What a character stands for; `none` if it may not be in a domain. -/
def image? (c : Char) : Option (List Char) :=
  if allowed.has c.toNat then
    some ((findImage? c.toNat imageList).getD [Char.ofNat (partner c.toNat)])
  else if ignored.has c.toNat then some []
  else none

/-- Whether a character stands for itself. -/
def isSettled (c : Char) : Bool := image? c = some [c]

/-! ## Labels -/

/-- A plain character. -/
def isPlain (c : Char) : Bool := c.toNat < 0x80

/-- The mark in front of a written form. -/
def mark : List Char := "xn--".toList

/-- The longest written form that is read. -/
def maxWritten : Nat := 2000

/-- The longest label that is written. -/
def maxLabel : Nat := 1000

/-- Whether a label may be part of a domain: it does not start with a mark on a letter, and its
joiners are where they belong. -/
def isProper (label : List Char) : Bool :=
  !(label.head?).any Text.isMark && Text.joinersFit [] label

/-- Whether a label can have been written: it has characters that are not plain, and each stands for
itself. -/
def isWritable (label : List Char) : Bool :=
  !label.all isPlain && label.all isSettled && Text.composed label = label &&
    !mark.isPrefixOf label && isProper label

/-- The label that another one stands for: itself, or what it is the written form of. -/
def meaning? (label : List Char) : Option (List Char) :=
  if mark.isPrefixOf label then
    let written := label.drop mark.length
    if maxWritten < written.length || !label.all isPlain then none
    else (Text.Punycode.decode? written).filter isWritable
  else if isProper label then some label
  else none

/-- A label in plain characters. -/
def written? (label : List Char) : Option (List Char) :=
  if label.all isPlain then some label
  else if maxLabel < label.length then none
  else some (mark ++ Text.Punycode.encode label)

/-- Plain characters that no domain may hold. -/
def isForbidden (c : Char) : Bool :=
  c.toNat ≤ 0x20 || c = '\x7f' || "%#/:<>?@[\\]^|".toList.contains c

/-- The labels of a domain, with characters for those that they stand for. -/
def labels? (s : List Char) : Option (List (List Char)) := do
  let text := Text.composed (← s.mapM image?).flatten
  if text.any isForbidden then none else some (Text.split '.' text)

/-- A domain in plain characters; `none` if it cannot be one. -/
def plain? (s : List Char) : Option (List Char) := do
  let labels ← labels? s
  let meanings ← labels.mapM meaning?
  if Text.keepOrder meanings then
    return ['.'].intercalate (← labels.mapM written?)
  else none

end Switchboard.Http.Domain
