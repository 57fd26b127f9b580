/-
# The parts of a printed value

The printer keeps what it has written in reverse and puts more in front.  Read forwards, a printed
container is its marks with the printed parts between them.
-/
import Switchboard.Json.Printer

namespace Switchboard.Json

/-- The items after the first, as they are printed. -/
def itemChars (items : List Json) : List Char := items.flatMap fun v => ',' :: v.chars

/-- A member, as it is printed. -/
def memberText (m : String × Json) : List Char := quoted m.1 ++ ':' :: m.2.chars

/-- The members after the first, as they are printed. -/
def memberChars (members : List (String × Json)) : List Char :=
  members.flatMap fun m => ',' :: memberText m

mutual

/-- What is written behind something is what is written alone. -/
theorem writeOnto_eq : ∀ (out : List Char) (v : Json), writeOnto out v = v.chars.reverse ++ out
  | _, .null => rfl
  | _, .bool true => rfl
  | _, .bool false => rfl
  | _, .number n => by simp [writeOnto, chars]
  | _, .text s => by simp [writeOnto, chars]
  | _, .array [] => rfl
  | out, .array (v :: rest) => by
      rw [chars, writeOnto, writeOnto, writeOnto_eq ('[' :: out) v, writeOnto_eq ['['] v,
        writeItems_eq (_ ++ '[' :: out) rest, writeItems_eq (_ ++ ['[']) rest]
      simp
  | _, .object [] => rfl
  | out, .object ((k, v) :: rest) => by
      rw [chars, writeOnto, writeOnto, writeOnto_eq (':' :: (quoted k).reverse ++ '\x7b' :: out) v,
        writeOnto_eq (':' :: (quoted k).reverse ++ ['\x7b']) v,
        writeMembers_eq (_ ++ (':' :: (quoted k).reverse ++ '\x7b' :: out)) rest,
        writeMembers_eq (_ ++ (':' :: (quoted k).reverse ++ ['\x7b'])) rest]
      simp

theorem writeItems_eq : ∀ (out : List Char) (items : List Json),
    writeItems out items = (itemChars items).reverse ++ out
  | _, [] => rfl
  | out, v :: rest => by
      rw [writeItems, writeOnto_eq (',' :: out) v, writeItems_eq _ rest]
      simp [itemChars]

theorem writeMembers_eq : ∀ (out : List Char) (members : List (String × Json)),
    writeMembers out members = (memberChars members).reverse ++ out
  | _, [] => rfl
  | out, (k, v) :: rest => by
      rw [writeMembers, writeOnto_eq (':' :: (quoted k).reverse ++ ',' :: out) v,
        writeMembers_eq _ rest]
      simp [memberChars, memberText]

end

theorem chars_array (v : Json) (rest : List Json) :
    (Json.array (v :: rest)).chars = '[' :: (v.chars ++ (itemChars rest ++ [']'])) := by
  rw [chars, writeOnto, writeOnto_eq ['['] v, writeItems_eq]
  simp

theorem chars_object (m : String × Json) (rest : List (String × Json)) :
    (Json.object (m :: rest)).chars
      = '\x7b' :: (memberText m ++ (memberChars rest ++ ['\x7d'])) := by
  obtain ⟨k, v⟩ := m
  rw [chars, writeOnto, writeOnto_eq (':' :: (quoted k).reverse ++ ['\x7b']) v, writeMembers_eq]
  simp [memberText]

end Switchboard.Json
