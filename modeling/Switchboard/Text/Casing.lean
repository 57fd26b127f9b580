/-
# Lower-casing

The lower-case form of a text.  Most letters have a partner of one character; `İ` becomes two, and
`Σ` becomes `ς` at the end of a word and `σ` elsewhere.  "End of a word" looks at both sides
through the case-ignorable characters: a cased character before, none after.
-/
import Switchboard.Text.CasingTable

namespace Switchboard.Text

/-- The partner of a code point in the runs, or the code point itself. -/
def lowerCode : List CaseRun → Nat → Nat
  | [], n => n
  | run :: rest, n =>
    if n < run.first then n
    else if n ≤ run.last then
      if (n - run.first) % run.step = 0 then run.image + (n - run.first) else n
    else lowerCode rest n

/-- The lower-case form of a character that stands alone. -/
def lowerChar (c : Char) : List Char :=
  if c = 'İ' then ['i', '\u0307'] else [Char.ofNat (lowerCode lowerRuns c.toNat)]

/-- Whether a character belongs to a letter case. -/
def isCased (c : Char) : Bool := casedRanges.has c.toNat

/-- Whether casing looks through a character. -/
def isCaseIgnorable (c : Char) : Bool := caseIgnorableRanges.has c.toNat

/-- Whether the first character that is not case-ignorable is cased. -/
def casedAhead (s : List Char) : Bool :=
  match s.dropWhile isCaseIgnorable with
  | c :: _ => isCased c
  | [] => false

/-- The lower-case form of `c`, with `before` (nearest first) and `after` around it. -/
def lowerAt (before : List Char) (c : Char) (after : List Char) : List Char :=
  if c = 'Σ' then if casedAhead before && !casedAhead after then ['ς'] else ['σ']
  else lowerChar c

/-- Lower-cases what is left, with the characters passed and the output so far both reversed. -/
def lowerFrom (before out : List Char) : List Char → List Char
  | [] => out.reverse
  | c :: after => lowerFrom (c :: before) ((lowerAt before c after).reverse ++ out) after

/-- The lower-case form of a text. -/
def lower (s : List Char) : List Char := lowerFrom [] [] s

/-- The lower-case form of a string. -/
def lowerString (s : String) : String := String.ofList (lower s.toList)

example : lowerString "ΌΔΟΣ ΣΑΣ" = "όδος σας" := by decide +kernel
example : lowerString "to\u212aEN" = "token" := by decide +kernel

end Switchboard.Text
