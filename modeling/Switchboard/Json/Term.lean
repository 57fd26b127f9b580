/-
# JSON documents as written

The tree of a document before its numerals and texts are given a meaning.  A part of a document
that nobody asks for need only be well formed: there a numeral may be out of range, an escape may
be half of a pair, and containers may nest without bound.  A part that is asked for is held to the
strict rules by `Term.toJson?` and `Term.text?`.
-/
import Switchboard.Json.Numeral

namespace Switchboard.Json

/-- A piece of a quoted text: a character, or a UTF-16 unit given by its number. -/
inductive Piece where
  | char (c : Char)
  | unit (n : Nat)
  deriving DecidableEq, Repr

/-- A value as written. -/
inductive Term where
  | null
  | bool (b : Bool)
  | number (n : Numeral)
  | text (pieces : List Piece)
  | array (items : List Term)
  | object (members : List (List Piece × Term))

instance : Inhabited Term := ⟨.null⟩

/-- Whether a UTF-16 unit is the first of a pair. -/
def isHighUnit (n : Nat) : Bool := 0xd800 ≤ n && n ≤ 0xdbff

/-- Whether a UTF-16 unit is the second of a pair. -/
def isLowUnit (n : Nat) : Bool := 0xdc00 ≤ n && n ≤ 0xdfff

/-- The character that a pair of units stands for. -/
def ofPair (high low : Nat) : Char := Char.ofNat (0x10000 + (high - 0xd800) * 1024 + (low - 0xdc00))

/-- Joins the pieces of a text; `out` is the text so far, reversed.  Half of a pair is an error. -/
def joinFrom (out : List Char) : List Piece → Option (List Char)
  | [] => some out.reverse
  | .char c :: rest => joinFrom (c :: out) rest
  | .unit n :: rest =>
    if isHighUnit n then
      match rest with
      | .unit m :: rest => if isLowUnit m then joinFrom (ofPair n m :: out) rest else none
      | _ => none
    else if isLowUnit n then none
    else joinFrom (Char.ofNat n :: out) rest

/-- The text that the pieces make. -/
def join? (pieces : List Piece) : Option String := (joinFrom [] pieces).map String.ofList

mutual

/-- The value of a term in which at most `room` containers nest. -/
def Term.toJson? (room : Nat) : Term → Option Json
  | .null => some .null
  | .bool b => some (.bool b)
  | .number n => n.number?.map .number
  | .text pieces => (join? pieces).map .text
  | .array items =>
    match room with
    | 0 => none
    | room + 1 => (itemsToJson? room [] items).map .array
  | .object members =>
    match room with
    | 0 => none
    | room + 1 => (membersToJson? room [] members).map ofMembers

/-- The values of the items; `out` has those done, reversed. -/
def itemsToJson? (room : Nat) (out : List Json) : List Term → Option (List Json)
  | [] => some out.reverse
  | t :: rest =>
    match t.toJson? room with
    | some v => itemsToJson? room (v :: out) rest
    | none => none

/-- The members with their keys joined; `out` has those done, reversed. -/
def membersToJson? (room : Nat) (out : List (String × Json)) :
    List (List Piece × Term) → Option (List (String × Json))
  | [] => some out.reverse
  | (key, t) :: rest =>
    match join? key, t.toJson? room with
    | some k, some v => membersToJson? room ((k, v) :: out) rest
    | _, _ => none

end

/-- How many containers of a document may nest. -/
def maxNesting : Nat := 127

/-- The text of a term that is one. -/
def Term.text? : Term → Option String
  | .text pieces => join? pieces
  | _ => none

end Switchboard.Json
