/-
# UTF-8

Text as bytes and back.  Reading takes one character off the front at a time.  Where the bytes are
not UTF-8 it says how many of them form the longest beginning of a character that went wrong, so a
strict reader can stop there and a lenient one can put the replacement character in their place.
-/

namespace Switchboard

/-- A sequence of octets, such as the body of a request. -/
abbrev Bytes := List UInt8

namespace Text

/-- The UTF-8 form of a text. -/
def encode (s : List Char) : Bytes := s.flatMap String.utf8EncodeChar

/-- The UTF-8 form of a string. -/
def encodeString (s : String) : Bytes := encode s.toList

/-- What stands at the front of a byte sequence; `more` counts the bytes after the first one. -/
inductive Lead where
  | char (c : Char) (more : Nat)
  | junk (more : Nat)
  deriving DecidableEq, Repr

/-- A byte that continues a character. -/
def isTail (b : UInt8) : Bool := 0x80 ≤ b && b ≤ 0xbf

/-- The bytes that may follow `lead` as the second of three: no overlong form, no surrogate. -/
def secondOfThree (lead b : UInt8) : Bool :=
  if lead = 0xe0 then 0xa0 ≤ b && b ≤ 0xbf
  else if lead = 0xed then 0x80 ≤ b && b ≤ 0x9f
  else isTail b

/-- The bytes that may follow `lead` as the second of four: no overlong form, nothing past the last
code point. -/
def secondOfFour (lead b : UInt8) : Bool :=
  if lead = 0xf0 then 0x90 ≤ b && b ≤ 0xbf
  else if lead = 0xf4 then 0x80 ≤ b && b ≤ 0x8f
  else isTail b

/-- The six low bits of a continuation byte. -/
def low6 (b : UInt8) : Nat := b.toNat % 64

/-- A character of two bytes. -/
def lead2 (a : UInt8) : Bytes → Lead
  | b :: _ => if isTail b then .char (Char.ofNat (a.toNat % 32 * 64 + low6 b)) 1 else .junk 0
  | [] => .junk 0

/-- A character of three bytes. -/
def lead3 (a : UInt8) : Bytes → Lead
  | b :: rest =>
    if secondOfThree a b then
      match rest with
      | c :: _ =>
        if isTail c then .char (Char.ofNat ((a.toNat % 16 * 64 + low6 b) * 64 + low6 c)) 2
        else .junk 1
      | [] => .junk 1
    else .junk 0
  | [] => .junk 0

/-- A character of four bytes. -/
def lead4 (a : UInt8) : Bytes → Lead
  | b :: rest =>
    if secondOfFour a b then
      match rest with
      | c :: rest =>
        if isTail c then
          match rest with
          | d :: _ =>
            if isTail d then
              .char (Char.ofNat (((a.toNat % 8 * 64 + low6 b) * 64 + low6 c) * 64 + low6 d)) 3
            else .junk 2
          | [] => .junk 2
        else .junk 1
      | [] => .junk 1
    else .junk 0
  | [] => .junk 0

/-- The character at the front, or the bytes that fail to form one. -/
def lead (a : UInt8) (rest : Bytes) : Lead :=
  if a < 0x80 then .char (Char.ofNat a.toNat) 0
  else if 0xc2 ≤ a && a ≤ 0xdf then lead2 a rest
  else if 0xe0 ≤ a && a ≤ 0xef then lead3 a rest
  else if 0xf0 ≤ a && a ≤ 0xf4 then lead4 a rest
  else .junk 0

/-- Reads strictly; `out` is the text so far, reversed. -/
def decodeFrom (out : List Char) : Bytes → Option (List Char)
  | [] => some out.reverse
  | a :: rest =>
    match lead a rest with
    | .char c more => decodeFrom (c :: out) (rest.drop more)
    | .junk _ => none
  termination_by s => s.length
  decreasing_by simp only [List.length_cons, List.length_drop]; omega

/-- The text that the bytes spell, if all of them are UTF-8. -/
def decode? (s : Bytes) : Option (List Char) := decodeFrom [] s

/-- Stands for bytes that spell nothing. -/
def replacementChar : Char := '\ufffd'

/-- Reads leniently; `out` is the text so far, reversed. -/
def decodeLossyFrom (out : List Char) : Bytes → List Char
  | [] => out.reverse
  | a :: rest =>
    match lead a rest with
    | .char c more => decodeLossyFrom (c :: out) (rest.drop more)
    | .junk more => decodeLossyFrom (replacementChar :: out) (rest.drop more)
  termination_by s => s.length
  decreasing_by all_goals (simp only [List.length_cons, List.length_drop]; omega)

/-- The text that the bytes spell, with one replacement character for each part that spells
nothing. -/
def decodeLossy (s : Bytes) : List Char := decodeLossyFrom [] s

end Text
end Switchboard
