/-
# Punycode

A label of any script in letters, digits and hyphens.  Its plain characters come first.  The others
follow in the order of their code points, each as the distance from the one before it, counted in
places where it could stand: a number in base 36 whose digits have thresholds that adapt to the
distances seen so far.
-/

namespace Switchboard.Text.Punycode

/-- The base of the numbers. -/
def base : Nat := 36

/-- The threshold of the digit at a position, which is counted in steps of the base. -/
def threshold (bias position : Nat) : Nat :=
  if position ≤ bias then 1 else if bias + 26 ≤ position then 26 else position - bias

theorem threshold_pos (bias position : Nat) : 0 < threshold bias position := by
  unfold threshold; split <;> (try split) <;> omega

/-- Scales a distance down; counts the steps. -/
def scaled (steps distance : Nat) : Nat × Nat :=
  if 455 < distance then scaled (steps + 1) (distance / 35) else (steps, distance)
  termination_by distance
  decreasing_by exact Nat.div_lt_self (by omega) (by omega)

/-- The bias after a distance in a text of some length. -/
def adapted (distance length : Nat) (isFirst : Bool) : Nat :=
  let distance := distance / (if isFirst then 700 else 2)
  let (steps, distance) := scaled 0 (distance + distance / length)
  base * steps + base * distance / (distance + 38)

/-! ## Reading -/

/-- The value of a digit. -/
def digitValue? (c : Char) : Option Nat :=
  if 'a' ≤ c && c ≤ 'z' then some (c.toNat - 'a'.toNat)
  else if 'A' ≤ c && c ≤ 'Z' then some (c.toNat - 'A'.toNat)
  else if '0' ≤ c && c ≤ '9' then some (c.toNat - '0'.toNat + 26)
  else none

/-- Numbers stay below this. -/
def bound : Nat := Nat.pow 2 32

/-- Adds the number at the front to `n`; also gives what follows it. -/
def number? (bias position weight n : Nat) : List Char → Option (Nat × List Char)
  | [] => none
  | c :: rest =>
    match digitValue? c with
    | none => none
    | some d =>
      let n := n + d * weight
      let t := threshold bias position
      if bound ≤ n then none
      else if d < t then some (n, rest)
      else if bound ≤ weight * (base - t) then none
      else number? bias (position + base) (weight * (base - t)) n rest

theorem length_of_number? {bias : Nat} {s : List Char} :
    ∀ {position weight n m : Nat} {rest : List Char},
      number? bias position weight n s = some (m, rest) → rest.length < s.length := by
  induction s with
  | nil => intro _ _ _ _ _ h; simp [number?] at h
  | cons c s ih =>
    intro position weight n m rest h
    unfold number? at h
    split at h
    · simp at h
    · simp only at h
      split at h
      · simp at h
      · split at h
        · simp only [Option.some.injEq, Prod.mk.injEq] at h
          simp [h.2]
        · split at h
          · simp at h
          · have := ih h
            simp only [List.length_cons]
            omega

/-- The character with a number, if there is one. -/
def scalar? (n : Nat) : Option Char := if n.isValidChar then some (Char.ofNat n) else none

/-- Puts in the characters that the rest of a text names.  `code` is the code point and `place` the
place from which the next distance counts. -/
def insertAll (code place bias : Nat) (out : List Char) (s : List Char) : Option (List Char) :=
  if s.isEmpty then some out
  else
    match _h : number? bias base 1 place s with
    | none => none
    | some (n, rest) =>
      let length := out.length + 1
      let code := code + n / length
      match scalar? code with
      | none => none
      | some c =>
        insertAll code (n % length + 1) (adapted (n - place) length (place = 0))
          (out.insertIdx (n % length) c) rest
  termination_by s.length
  decreasing_by exact length_of_number? _h

/-- The first code point beyond the plain characters. -/
def firstCode : Nat := 128

/-- The bias at the start. -/
def firstBias : Nat := 72

/-- The text that a written form stands for. -/
def decode? (s : List Char) : Option (List Char) :=
  let tail := (s.reverse.takeWhile (· ≠ '-')).reverse
  let plain := s.take (s.length - tail.length - 1)
  insertAll firstCode 0 firstBias plain (if plain.isEmpty then s else tail)

/-! ## Writing -/

/-- The digit with a value. -/
def digit (n : Nat) : Char :=
  if n < 26 then Char.ofNat ('a'.toNat + n) else Char.ofNat ('0'.toNat + (n - 26))

/-- The digits of a distance. -/
def digits (bias position n : Nat) : List Char :=
  let t := threshold bias position
  if n < t then [digit n]
  else
    digit (t + (n - t) % (base - t)) :: digits bias (position + base) ((n - t) / (base - t))
  termination_by n
  decreasing_by
    have := threshold_pos bias position
    have := Nat.div_le_self (n - threshold bias position) (base - threshold bias position)
    omega

/-- A written form under way: the digits so far, reversed; the distance since the last of them; the
bias; and how many characters are written. -/
structure Writing where
  out : List Char := []
  distance : Nat := 0
  bias : Nat := firstBias
  count : Nat

/-- Passes by a character while the characters with a code point are being written. -/
def Writing.pass (plain code : Nat) (w : Writing) (c : Char) : Writing :=
  if c.toNat < code then { w with distance := w.distance + 1 }
  else if c.toNat = code then
    { out := (digits w.bias base w.distance).reverse ++ w.out
      distance := 0
      bias := adapted w.distance (w.count + 1) (w.count = plain)
      count := w.count + 1 }
  else w

/-- Writes the characters of a text with these code points, which increase; `last` is the one before
them. -/
def writeAll (s : List Char) (plain last : Nat) (w : Writing) : List Nat → Writing
  | [] => w
  | code :: rest =>
    let w := { w with distance := w.distance + (code - last) * (w.count + 1) }
    let w := s.foldl (Writing.pass plain code) w
    writeAll s plain (code + 1) { w with distance := w.distance + 1 } rest

/-- Whether a character is written as it is. -/
def isPlain (c : Char) : Bool := c.toNat < firstCode

/-- Drops repetitions that stand side by side. -/
def distinct : List Nat → List Nat
  | a :: b :: rest => if a = b then distinct (b :: rest) else a :: distinct (b :: rest)
  | short => short

/-- The code points beyond the plain characters, in increasing order. -/
def codes (s : List Char) : List Nat :=
  distinct (((s.filter fun c => !isPlain c).map Char.toNat).mergeSort (· ≤ ·))

/-- The written form of a text. -/
def encode (s : List Char) : List Char :=
  let plain := s.filter isPlain
  let w := writeAll s plain.length firstCode { count := plain.length } (codes s)
  plain ++ (if plain.isEmpty then [] else ['-']) ++ w.out.reverse

end Switchboard.Text.Punycode
