/-
# Form bodies

The form `key=value&key=value` of a body.  A plus sign stands for a space and `%` with two
hexadecimal digits for a byte; a `%` without them stands for itself.  Bytes that are not UTF-8 are
replaced.  Empty pairs are passed over.
-/
import Switchboard.Http.Percent
import Switchboard.Text.Search

namespace Switchboard.Inbound

/-- Undoes the encoding of a key or value. -/
def unescape (s : Bytes) : Bytes := Http.unescaped (s.map fun b => if b = 0x2b then 0x20 else b)

/-- The text of a key or value. -/
def formText (s : Bytes) : String := String.ofList (Text.decodeLossy (unescape s))

/-- A pair; one without an equals sign has no value. -/
def formPair (s : Bytes) : String × String :=
  let (key, value) := Text.cut 0x3d s
  (formText key, formText (value.getD []))

/-- The pairs of a body, in order. -/
def formPairs (body : Bytes) : List (String × String) :=
  ((Text.split 0x26 body).filter fun piece => !piece.isEmpty).map formPair

/-- The value of the last pair with a key. -/
def lastValue? (key : String) (pairs : List (String × String)) : Option String :=
  (pairs.reverse.find? fun p => p.1 == key).map Prod.snd

end Switchboard.Inbound
