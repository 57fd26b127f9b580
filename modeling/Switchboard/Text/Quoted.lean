/-
# Quoted text

The form in which log fields and descriptions show a string: between double quotes, with the quote
and the backslash escaped, the common controls by letter, and every other invisible character by
its number.  Single quotes stay as they are.
-/
import Switchboard.Text.QuotedTable

namespace Switchboard.Text

/-- The digits of a number in lower-case hexadecimal, without leading zeros. -/
def hexDigits (n : Nat) : List Char := Nat.toDigits 16 n

/-- How a character is written inside quotes. -/
def quoteChar (c : Char) : List Char :=
  match c with
  | '"' => ['\\', '"']
  | '\\' => ['\\', '\\']
  | '\n' => ['\\', 'n']
  | '\r' => ['\\', 'r']
  | '\t' => ['\\', 't']
  | '\x00' => ['\\', '0']
  | c =>
    if invisibleRanges.has c.toNat then
      ['\\', 'u', '\x7b'] ++ hexDigits c.toNat ++ ['\x7d']
    else [c]

/-- A string between quotes. -/
def quote (s : String) : String :=
  String.ofList ('"' :: s.toList.flatMap quoteChar ++ ['"'])

example : quote "e\u0301 'x' \"\n" = "\"e\\u\x7b301\x7d 'x' \\\"\\n\"" := by decide +kernel

end Switchboard.Text
