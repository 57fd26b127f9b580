/-
# Searching and cutting text

Plain operations on lists of characters: whether a text holds another, replacing what a matcher
finds from left to right, and splitting at a separator.  All loops keep what they have built in
reverse, so that a long text needs no deep recursion.
-/

namespace Switchboard.Text

/-- Whether `part` occurs somewhere in a text. -/
def holds (part : List Char) : List Char → Bool
  | [] => part.isEmpty
  | c :: rest => part.isPrefixOf (c :: rest) || holds part rest

/-- A matcher looks at the front of a text and says how many characters it takes there; a hit on
no characters counts as one on the first. -/
abbrev Matcher := List Char → Option Nat

/-- Replaces what `hit` finds, left to right and without overlap, with `filler` for each hit;
`out` is the text so far, reversed. -/
def replaceFrom (hit : Matcher) (filler out : List Char) : List Char → List Char
  | [] => out.reverse
  | c :: rest =>
    match hit (c :: rest) with
    | some n => replaceFrom hit filler (filler.reverse ++ out) (rest.drop (n - 1))
    | none => replaceFrom hit filler (c :: out) rest
  termination_by s => s.length
  decreasing_by all_goals (simp only [List.length_cons, List.length_drop]; omega)

/-- Replaces every hit, left to right. -/
def replaceHits (hit : Matcher) (filler s : List Char) : List Char := replaceFrom hit filler [] s

/-- Splits at every `sep`: the current piece and the pieces before it are reversed. -/
def splitFrom {α : Type} [BEq α] (sep : α) (piece : List α) (pieces : List (List α)) :
    List α → List (List α)
  | [] => (piece.reverse :: pieces).reverse
  | a :: rest =>
    if a == sep then splitFrom sep [] (piece.reverse :: pieces) rest
    else splitFrom sep (a :: piece) pieces rest

/-- The pieces between the separators; there is always at least one. -/
def split {α : Type} [BEq α] (sep : α) (s : List α) : List (List α) := splitFrom sep [] [] s

/-- Looks for the first `sep`; `front` is what stands before it, reversed. -/
def cutFrom {α : Type} [BEq α] (sep : α) (front : List α) : List α → List α × Option (List α)
  | [] => (front.reverse, none)
  | a :: rest => if a == sep then (front.reverse, some rest) else cutFrom sep (a :: front) rest

/-- Splits at the first `sep`: what stands before it, and what stands after it if there is one. -/
def cut {α : Type} [BEq α] (sep : α) (s : List α) : List α × Option (List α) := cutFrom sep [] s

/-- Drops every `c` at the end. -/
def dropRight {α : Type} [BEq α] (c : α) (s : List α) : List α :=
  (s.reverse.dropWhile (· == c)).reverse

end Switchboard.Text
