/-
# Hexadecimal text

Bytes as pairs of hexadecimal digits in lower case.
-/
import Switchboard.Text.Utf8

namespace Switchboard.Digest

/-- The two digits of a byte. -/
def byteDigits (b : UInt8) : List Char :=
  [Nat.digitChar (b.toNat / 16), Nat.digitChar (b.toNat % 16)]

/-- The digits of a byte sequence. -/
def hex (s : Bytes) : List Char := s.flatMap byteDigits

end Switchboard.Digest
