/-
# Doubles in plain notation

The text of a double that never uses an exponent: the shortest digits that read back, filled up
with zeros, and no point where the value is whole.
-/
import Switchboard.Number.Shortest

namespace Switchboard.Number

/-- A double in plain notation. -/
def plainFloat (x : Float) : String :=
  let bits := x.toBits
  let sign := if isNegative bits then "-" else ""
  match magnitude bits with
  | .zero => sign ++ "0"
  | .infinite => sign ++ "inf"
  | .notANumber => "NaN"
  | .finite b => sign ++ String.ofList b.shortest.plain

end Switchboard.Number
