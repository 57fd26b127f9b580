/-
# Masking

What a user writes may hold a secret, so a log shows no text in which a telling word occurs, in
whatever letter case, and no more than the beginning of any other text.
-/
import Switchboard.Text.Casing
import Switchboard.Text.Search

namespace Switchboard.Inbound

/-- The words that tell of a secret. -/
def sensitiveWords : List String :=
  ["password", "passwd", "secret", "token", "api_key", "apikey", "api-key", "bearer",
   "authorization", "credential", "private", "-----begin"]

/-- The most characters of a text that a log shows. -/
def maxShown : Nat := 50

/-- Stands for a text with a telling word. -/
def redacted : String := "[REDACTED - potentially sensitive content]"

/-- Whether a telling word occurs in a text. -/
def isSensitive (text : String) : Bool :=
  let lowered := Text.lower text.toList
  sensitiveWords.any fun w => Text.holds w.toList lowered

/-- A text as a log may show it. -/
def mask (text : String) : String :=
  if isSensitive text then redacted
  else
    let chars := text.toList
    if maxShown < chars.length then String.ofList (chars.take maxShown) ++ "...[truncated]"
    else text

end Switchboard.Inbound
