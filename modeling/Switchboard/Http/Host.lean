/-
# Hosts

The host of a URL.  On the web it is a domain, four numbers with points between them, or an
address in brackets; with other schemes it is any text without marks that have a meaning in a URL.
-/
import Switchboard.Http.Domain
import Switchboard.Http.Percent
import Switchboard.Server.Address

namespace Switchboard.Http.Host

open Switchboard.Number (isDigit)

/-! ## Numbers -/

/-- The part of a number in an address: decimal, octal behind a zero, hexadecimal behind `0x`. -/
def number? (s : List Char) : Option Nat :=
  let inBase (base : Nat) (digits : List Char) : Option Nat :=
    digits.foldlM (fun n c => do
      let d ← Json.hexValue? c
      if d < base then some (base * n + d) else none) 0
  match s with
  | [] => none
  | '0' :: 'x' :: digits => inBase 16 digits
  | '0' :: c :: digits => inBase 8 (c :: digits)
  | digits => inBase 10 digits

/-- Whether a host must be an address of four numbers: its last label is one. -/
def endsInNumber (labels : List (List Char)) : Bool :=
  match labels.getLast? with
  | some label => (!label.isEmpty && label.all isDigit) ||
      ("0x".toList.isPrefixOf label && (number? label).isSome)
  | none => false

/-- The address that up to four numbers make; the last fills what is left. -/
def addressOfNumbers? (numbers : List Nat) : Option Nat :=
  match numbers.reverse with
  | last :: before =>
    if 3 < before.length || before.any (255 < ·) || Nat.pow 256 (4 - before.length) ≤ last then none
    else some (before.reverse.foldr (fun n acc => acc / 256 + n * Nat.pow 256 3) 0 + last)
  | [] => none

/-- An address of four numbers. -/
def fourNumbers? (labels : List (List Char)) : Option String := do
  let n ← addressOfNumbers? (← labels.mapM number?)
  some (Server.bytesText [n / Nat.pow 256 3, n / Nat.pow 256 2 % 256, n / 256 % 256, n % 256])

/-! ## Hosts of all kinds -/

/-- A host in brackets, without the opening one. -/
def bracketed? (s : List Char) : Option String :=
  match s.reverse with
  | ']' :: inner =>
    match Server.eightGroups? inner.reverse with
    | some (groups, []) => some s!"[{Server.shortGroupsText groups}]"
    | _ => none
  | _ => none

/-- A host by its domain or by four numbers. -/
def named? (s : List Char) : Option String := do
  let domain ← Domain.plain? (← unescaped? s)
  let labels := Text.split '.' domain
  let labels := if labels.getLast? = some [] && 1 < labels.length then labels.dropLast else labels
  if domain.isEmpty then none
  else if endsInNumber labels then fourNumbers? labels
  else some (String.ofList domain)

/-- A host of the web. -/
def web? (s : List Char) : Option String :=
  match s with
  | '[' :: rest => bracketed? rest
  | _ => named? s

/-- Characters that no host may hold. -/
def isForbidden (c : Char) : Bool := "\x00\t\n\r #/:<>?@[\\]^|".toList.contains c

/-- A host of another scheme, which may be empty. -/
def other? (s : List Char) : Option String :=
  match s with
  | '[' :: rest => bracketed? rest
  | _ => if s.any isForbidden then none else some (String.ofList (escaped (fun _ => false) s))

/-- A host of files, which may be empty; the own machine is no host. -/
def ofFile? (s : List Char) : Option String :=
  if s.isEmpty then some ""
  else (web? s).map fun host => if host = "localhost" then "" else host

/-- Characters that may stand in the host of a request, besides those of an address in brackets. -/
def isRequestable (c : Char) : Bool := !"\"%<>\\^\x60\x7b|\x7d".toList.contains c

end Switchboard.Http.Host
