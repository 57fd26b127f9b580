/-
# JSON values

The value that a JSON document stands for.  A number is whole when its text is a whole number of 64
bits, and a double otherwise.  An object is the list of its members in the order in which they are
written; the reader puts members in the order of their keys and keeps one of each key.
-/

namespace Switchboard

/-- A number: whole if it fits 64 bits with or without a sign, else a double. -/
inductive Json.Number where
  | whole (n : Int)
  | double (x : Float)

/-- A JSON value. -/
inductive Json where
  | null
  | bool (b : Bool)
  | number (n : Json.Number)
  | text (s : String)
  | array (items : List Json)
  | object (members : List (String × Json))

namespace Json

instance : Inhabited Json := ⟨.null⟩

/-- Of neighbours with the same key, keeps the last; `out` is what has been kept, reversed. -/
def lastOfEachFrom {α : Type} (out : List (String × α)) : List (String × α) → List (String × α)
  | [] => out.reverse
  | m :: rest =>
    match out with
    | [] => lastOfEachFrom [m] rest
    | p :: kept =>
      if p.1 = m.1 then lastOfEachFrom (m :: kept) rest else lastOfEachFrom (m :: out) rest

/-- The object with these members: in the order of the keys' code points, and of a key given twice
the last member. -/
def ofMembers (members : List (String × Json)) : Json :=
  .object (lastOfEachFrom [] (members.mergeSort fun a b => decide (a.1 ≤ b.1)))

/-- The value of the first member with a key, if the value is an object that has one. -/
def get? (key : String) : Json → Option Json
  | .object members => (members.find? fun m => m.1 == key).map Prod.snd
  | _ => none

/-- The text of a text value. -/
def text? : Json → Option String
  | .text s => some s
  | _ => none

/-- The truth value of a truth value. -/
def bool? : Json → Option Bool
  | .bool b => some b
  | _ => none

end Json
end Switchboard
