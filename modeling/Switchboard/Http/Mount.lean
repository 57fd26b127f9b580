/-
# Mount points

The two endpoints of the connector stand below a mount point: the health probe at the mount point
itself and the webhook one step below it.  A mount point is a path, in which a colon and a name
stand for any one segment, or for the rest of one.  Slashes at its end do not count.
-/
import Switchboard.Text.Search

namespace Switchboard.Http

/-- What stands at a path. -/
inductive Endpoint where
  | health
  | webhook
  deriving DecidableEq, Repr

/-- A part of a mount point: text that must stand there, or the rest of a segment. -/
inductive Part where
  | literal (text : List Char)
  | wild
  deriving DecidableEq, Repr

/-- A mount point, as its parts. -/
structure Mount where
  parts : List Part
  deriving DecidableEq, Repr

namespace Mount

/-- The most segments of a mount point that may be wild. -/
def maxWild : Nat := 25

/-- Cuts a mount point into its parts; `text` is the literal so far, reversed.  A name must not be
empty and must not hold another mark. -/
def partsFrom? (text : List Char) (done : List Part) : List Char → Option (List Part)
  | [] => some (.literal text.reverse :: done).reverse
  | c :: rest =>
    if c = '*' then none
    else if c = ':' then
      let name := rest.takeWhile (· ≠ '/')
      if name.isEmpty || name.contains ':' || name.contains '*' then none
      else partsFrom? [] (.wild :: .literal text.reverse :: done) (rest.dropWhile (· ≠ '/'))
    else partsFrom? (c :: text) done rest
  termination_by s => s.length
  decreasing_by
    · have := (List.dropWhile_sublist (· ≠ '/') (l := rest)).length_le
      simp only [List.length_cons]; omega
    · simp

/-- Whether a part stands for any text. -/
def isWild : Part → Bool
  | .wild => true
  | .literal _ => false

/-- The mount point that a path names, if it can be one. -/
def ofPath? (path : String) : Option Mount :=
  match Text.dropRight '/' path.toList with
  | [] => some ⟨[]⟩
  | chars =>
    if chars.head? = some '/' then
      match partsFrom? [] [] chars with
      | some parts => if maxWild < parts.countP isWild then none else some ⟨parts⟩
      | none => none
    else none

/-- Whether parts stand for a path.  A wild part takes what is left of a segment, which is empty
only if another segment follows. -/
def fits : List Part → List Char → Bool
  | [], path => path.isEmpty
  | .literal text :: rest, path => text.isPrefixOf path && fits rest (path.drop text.length)
  | .wild :: rest, path => !path.isEmpty && fits rest (path.dropWhile (· ≠ '/'))

/-- What stands at a path below a mount point.  At the root the health probe has the path `/`. -/
def endpoint? (m : Mount) (path : List Char) : Option Endpoint :=
  if m.parts.isEmpty then
    if path = "/".toList then some .health
    else if path = "/webhook".toList then some .webhook
    else none
  else if fits m.parts path then some .health
  else if fits (m.parts ++ [.literal "/webhook".toList]) path then some .webhook
  else none

/-- The mount point at the root. -/
def root : Mount := ⟨[]⟩

end Mount
end Switchboard.Http
