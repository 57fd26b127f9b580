/-
# Failures

Why an operation of the connector failed: the part of it that is to blame, and the particulars.
-/

namespace Switchboard

/-- A failed operation. -/
inductive Failure where
  | configuration (particulars : String)
  | slack (particulars : String)
  | parsing (particulars : String)
  | signature (particulars : String)
  | network (particulars : String)
  deriving DecidableEq, Repr

/-- The sentence that reports a failure. -/
def Failure.message : Failure → String
  | configuration s => "configuration error: " ++ s
  | slack s => "slack error: " ++ s
  | parsing s => "payload parsing error: " ++ s
  | signature s => "signature verification failed: " ++ s
  | network s => "network error: " ++ s

end Switchboard
