/-
# Socket addresses

Where a server listens: an IP address of either version and a port.  Reading is strict: four decimal
numbers without leading zeros, or up to eight hexadecimal groups in brackets, of which one run may
be left out.
-/
import Switchboard.Number.Reading
import Switchboard.Json.Reader

namespace Switchboard.Server

open Switchboard.Number (isDigit ofDigits)

/-- An IP address: four bytes, or eight groups of 16 bits. -/
inductive Ip where
  | v4 (bytes : List Nat)
  | v6 (groups : List Nat)
  deriving DecidableEq, Repr

/-- An address and a port; a scope of zero is none. -/
structure Address where
  ip : Ip
  scope : Nat := 0
  port : Nat
  deriving DecidableEq, Repr

/-- A decimal number below `bound`, and what follows it. -/
def decimal? (bound : Nat) (leadingZeros : Bool) (s : List Char) : Option (Nat × List Char) :=
  let digits := s.takeWhile isDigit
  let n := ofDigits digits
  if digits.isEmpty || bound ≤ n then none
  else if !leadingZeros && 1 < digits.length && digits.head? = some '0' then none
  else some (n, s.drop digits.length)

/-- What follows a character that must stand in front. -/
def expect? (c : Char) : List Char → Option (List Char)
  | d :: rest => if d = c then some rest else none
  | [] => none

/-- Four bytes with points between them, and what follows them. -/
def fourBytes? (s : List Char) : Option (List Nat × List Char) := do
  let (a, s) ← decimal? 256 false s
  let (b, s) ← decimal? 256 false (← expect? '.' s)
  let (c, s) ← decimal? 256 false (← expect? '.' s)
  let (d, s) ← decimal? 256 false (← expect? '.' s)
  some ([a, b, c, d], s)

/-- A group of one to four hexadecimal digits, and what follows it. -/
def group? (s : List Char) : Option (Nat × List Char) :=
  let digits := s.takeWhile fun c => (Json.hexValue? c).isSome
  if digits.isEmpty || 4 < digits.length then none
  else
    some (digits.foldl (fun n c => 16 * n + (Json.hexValue? c).getD 0) 0, s.drop digits.length)

/-- The groups that can be read in a row. -/
structure Groups where
  groups : List Nat
  endsInBytes : Bool
  rest : List Char

/-- Reads at most `room` groups with colons between them; `done` has those before, reversed.  The
last two may be written as four bytes. -/
def groupsFrom (done : List Nat) : Nat → List Char → Groups
  | 0, s => ⟨done.reverse, false, s⟩
  | room + 1, s =>
    match if done.isEmpty then some s else expect? ':' s with
    | none => ⟨done.reverse, false, s⟩
    | some t =>
      match (if 0 < room then fourBytes? t else none) with
      | some ([a, b, c, d], rest) =>
        ⟨done.reverse ++ [256 * a + b, 256 * c + d], true, rest⟩
      | _ =>
        match group? t with
        | some (g, rest) => groupsFrom (g :: done) room rest
        | none => ⟨done.reverse, false, s⟩

/-- Eight groups, of which one run of zeros may be left out, and what follows them. -/
def eightGroups? (s : List Char) : Option (List Nat × List Char) :=
  let head := groupsFrom [] 8 s
  if head.groups.length = 8 then some (head.groups, head.rest)
  else if head.endsInBytes then none
  else do
    let rest ← expect? ':' (← expect? ':' head.rest)
    let tail := groupsFrom [] (7 - head.groups.length) rest
    let zeros := List.replicate (8 - head.groups.length - tail.groups.length) 0
    some (head.groups ++ zeros ++ tail.groups, tail.rest)

/-- A colon and a port, with nothing behind them. -/
def port? (s : List Char) : Option Nat :=
  match expect? ':' s with
  | some s =>
    match decimal? 65536 true s with
    | some (n, []) => some n
    | _ => none
  | none => none

/-- The scope of an address, if there is one, and what follows it. -/
def scope? (s : List Char) : Nat × List Char :=
  match s with
  | '%' :: rest =>
    match decimal? (Nat.pow 2 32) true rest with
    | some found => found
    | none => (0, s)
  | _ => (0, s)

/-- The address that a text spells. -/
def Address.read? (s : List Char) : Option Address :=
  match s with
  | '[' :: rest => do
    let (groups, rest) ← eightGroups? rest
    let (scope, rest) := scope? rest
    let port ← port? (← expect? ']' rest)
    some ⟨.v6 groups, scope, port⟩
  | _ => do
    let (bytes, rest) ← fourBytes? s
    some ⟨.v4 bytes, 0, ← port? rest⟩

/-- Numbers in decimal with points between them. -/
def bytesText (bytes : List Nat) : String := ".".intercalate (bytes.map toString)

/-- Groups in hexadecimal with colons between them. -/
def groupsText (groups : List Nat) : String :=
  ":".intercalate (groups.map fun g => String.ofList (Nat.toDigits 16 g))

/-- How many zeros stand in front. -/
def zerosAhead (groups : List Nat) : Nat := (groups.takeWhile (· = 0)).length

/-- The place and length of the longest run of zeros, the first of them if there are several. -/
def longestZeros (groups : List Nat) : Nat × Nat :=
  (List.range groups.length).foldl
    (fun best i =>
      let n := zerosAhead (groups.drop i)
      if best.2 < n then (i, n) else best)
    (0, 0)

/-- Groups in hexadecimal, with the longest run of zeros left out. -/
def shortGroupsText (groups : List Nat) : String :=
  let (i, n) := longestZeros groups
  if 1 < n then groupsText (groups.take i) ++ "::" ++ groupsText (groups.drop (i + n))
  else groupsText groups

/-- The text of an IP address; one that stands for four bytes shows them. -/
def Ip.text : Ip → String
  | v4 bytes => bytesText bytes
  | v6 groups =>
    match groups with
    | [0, 0, 0, 0, 0, 0xffff, g, h] =>
      "::ffff:" ++ bytesText [g / 256, g % 256, h / 256, h % 256]
    | _ => shortGroupsText groups

/-- The text of an address. -/
def Address.text (a : Address) : String :=
  match a.ip with
  | .v4 _ => s!"{a.ip.text}:{a.port}"
  | .v6 _ =>
    if a.scope = 0 then s!"[{a.ip.text}]:{a.port}" else s!"[{a.ip.text}%{a.scope}]:{a.port}"

end Switchboard.Server
