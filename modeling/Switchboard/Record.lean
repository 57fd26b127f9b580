/-
# Records

How a record with known fields is read from a value.  The value may name the fields or list them in
their order.  Fields that the record does not know are passed over; a field given twice is an
error, also under two of its names; and a list must not be longer than the record, unless the
source of values permits it.  What a field's absence means depends on the field: it is an error,
or nothing, or a default.
-/
import Switchboard.Json.Reader

namespace Switchboard

/-- How a value presents its fields. -/
inductive Record.Shape (α : Type) where
  | named (members : List (String × α))
  | listed (items : List α)

/-- What records need to know about the values they are read from. -/
class Record.Source (α : Type) where
  /-- The value that stands for nothing. -/
  isNull : α → Bool
  text? : α → Option String
  /-- A whole number without sign. -/
  natural? : α → Option Nat
  items? : α → Option (List α)
  shape? : α → Option (Record.Shape α)
  /-- Whether items beyond the last field are passed over. -/
  allowsExtraItems : Bool

namespace Record

/-- A field's names; each is as good as the others. -/
abbrev Names := List String

/-- What a record's value holds for one field: a value; no member of that name; or a list that ends
before it. -/
inductive Slot (α : Type) where
  | given (v : α)
  | unnamed
  | beyond

/-- The slot of a field among named members. -/
def namedSlot? {α : Type} (members : List (String × α)) (names : Names) : Option (Slot α) :=
  match members.filter fun m => names.contains m.1 with
  | [] => some .unnamed
  | [m] => some (.given m.2)
  | _ => none

/-- The slots of the fields among listed items. -/
def listedSlots {α : Type} : List Names → List α → List (Slot α)
  | [], _ => []
  | _ :: fields, v :: items => .given v :: listedSlots fields items
  | _ :: fields, [] => .beyond :: listedSlots fields []

/-- The slots of a record's fields in a value. -/
def slots? {α : Type} [Source α] (fields : List Names) (v : α) : Option (List (Slot α)) :=
  match Source.shape? v with
  | some (.named members) => fields.mapM (namedSlot? members)
  | some (.listed items) =>
    if fields.length < items.length && !Source.allowsExtraItems α then none
    else some (listedSlots fields items)
  | none => none

namespace Slot

variable {α β : Type}

/-- A field that must be there. -/
def required (read : α → Option β) : Slot α → Option β
  | given v => read v
  | _ => none

/-- A field that has a value when it is absent; null is not absence. -/
def orDefault (default : β) (read : α → Option β) : Slot α → Option β
  | given v => read v
  | _ => some default

/-- The value of a field for which null means nothing. -/
def nullable [Source α] (read : α → Option β) (v : α) : Option (Option β) :=
  if Source.isNull v then some none else (read v).map some

/-- A field that may be null or go unnamed, but takes its place in a list. -/
def optional [Source α] (read : α → Option β) : Slot α → Option (Option β)
  | given v => nullable read v
  | unnamed => some none
  | beyond => none

/-- A field that may be null or absent. -/
def omissible [Source α] (read : α → Option β) : Slot α → Option (Option β)
  | given v => nullable read v
  | _ => some none

end Slot

/-- Reads every item of a list. -/
def listOf? {α β : Type} [Source α] (read : α → Option β) (v : α) : Option (List β) :=
  match Source.items? v with
  | some items => items.mapM read
  | none => none

/-- The natural number of a JSON number. -/
def natural? : Json.Number → Option Nat
  | .whole (.ofNat n) => some n
  | _ => none

/-- JSON values, whose texts and numbers are already settled. -/
instance : Source Json where
  isNull
    | .null => true
    | _ => false
  text? := Json.text?
  natural?
    | .number n => natural? n
    | _ => none
  items?
    | .array items => some items
    | _ => none
  shape?
    | .object members => some (.named members)
    | .array items => some (.listed items)
    | _ => none
  allowsExtraItems := false

/-- A member with its key joined. -/
def joinKey? (m : List Json.Piece × Json.Term) : Option (String × Json.Term) :=
  (Json.join? m.1).map fun key => (key, m.2)

/-- JSON documents as written: only what a record asks for is held to the strict rules, so a member
that it passes over may hold an impossible number or half of a pair. -/
instance : Source Json.Term where
  isNull
    | .null => true
    | _ => false
  text? := Json.Term.text?
  natural?
    | .number n => n.number?.bind natural?
    | _ => none
  items?
    | .array items => some items
    | _ => none
  shape?
    | .object members => (members.mapM joinKey?).map .named
    | .array items => some (.listed items)
    | _ => none
  allowsExtraItems := false

end Record
end Switchboard
