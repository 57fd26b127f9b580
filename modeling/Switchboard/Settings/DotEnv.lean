/-
# Variable files

A file of lines `NAME=value` that adds variables to the environment; those that are there already
stay.  A value may be quoted, and then go over several lines; `$NAME` stands for the value of
another variable.  Reading stops at the first line that makes no sense, and what was added before
stays.  A variable cannot be given a value with a zero character.
-/
import Switchboard.Settings.Environment
import Switchboard.Text.Alphanumeric
import Switchboard.Text.Blank

namespace Switchboard.Settings.DotEnv

open Text (isBlank)

/-- Where a scan of a line stands: outside quotes, behind a blank, behind a backslash, or inside
quotes of either kind. -/
inductive Place where
  | plain
  | blank
  | escaped
  | double
  | doubleEscaped
  | single
  | singleEscaped
  deriving DecidableEq, Repr

/-- The place behind a character that opens something. -/
def opened (c : Char) : Place :=
  if c = '\\' then .escaped else if c = '"' then .double else if c = '\'' then .single else .plain

/-- The place behind one more character. -/
def Place.next (c : Char) : Place → Place
  | plain => if isBlank c && c ≠ '\n' && c ≠ '\r' then blank else opened c
  | blank => opened c
  | escaped => plain
  | double => if c = '\\' then doubleEscaped else if c = '"' then plain else double
  | doubleEscaped => double
  | single => if c = '\\' then singleEscaped else if c = '\'' then plain else single
  | singleEscaped => single

/-- Scans a line: the text in front of a comment, if one starts; else the place at the end. -/
def scan (place : Place) (before : List Char) : List Char → Sum (List Char) Place
  | [] => .inr place
  | c :: rest =>
    if place = .blank && c = '#' then .inl before.reverse
    else scan (place.next c) (c :: before) rest

/-- Cuts a text behind every line end. -/
def physicalLines (current : List Char) (done : List (List Char)) : List Char → List (List Char)
  | [] => (if current.isEmpty then done else current.reverse :: done).reverse
  | c :: rest =>
    if c = '\n' then physicalLines [] ((c :: current).reverse :: done) rest
    else physicalLines (c :: current) done rest

/-- A line without its end. -/
def chomp (s : List Char) : List Char :=
  match s.reverse with
  | '\n' :: '\r' :: rest => rest.reverse
  | '\n' :: rest => rest.reverse
  | _ => s

/-- Joins lines that belong together; `none` stands for quotes that are never closed. -/
def logicalLines (sofar : List Char) (place : Place) :
    List (List Char) → List (Option (List Char))
  | [] => if sofar.isEmpty then [] else [none]
  | line :: rest =>
    let whole := sofar ++ line
    if (Text.trimLeft whole).head? = some '#' then logicalLines [] .plain rest
    else
      match scan place [] line with
      | .inl kept => some (sofar ++ kept) :: logicalLines [] .plain rest
      | .inr .plain => some (chomp whole) :: logicalLines [] .plain rest
      | .inr place => logicalLines whole place rest

/-- How the name of a variable is being read inside a value. -/
inductive Naming where
  | none
  | bare
  | braced
  deriving DecidableEq, Repr

/-- A value under way; `out` and `name` are reversed. -/
structure Draft where
  out : List Char := []
  name : List Char := []
  naming : Naming := .none
  single : Bool := false
  double : Bool := false
  escaped : Bool := false
  ended : Bool := false

/-- Puts the value of the variable that was named into the text. -/
def Draft.substitute (env : Environment) (d : Draft) : Draft :=
  let value := (env.get? (String.ofList d.name.reverse)).getD ""
  { d with out := value.toList.reverse ++ d.out, name := [], naming := .none }

/-- One more character while a variable is being named. -/
def Draft.nameChar (env : Environment) (c : Char) (d : Draft) : Draft :=
  if Text.isAlphanumeric c then { d with name := c :: d.name }
  else if d.naming = .bare then
    if c = '\x7b' && d.name.isEmpty then { d with naming := .braced }
    else
      let d := d.substitute env
      if c = '$' then { d with naming := .bare } else { d with out := c :: d.out }
  else if c = '\x7d' then d.substitute env
  else { d with name := c :: d.name }

/-- One more character of a value; `none` if it may not stand there. -/
def Draft.next? (env : Environment) (d : Draft) (c : Char) : Option Draft :=
  if d.escaped then
    if c = '\\' || c = '\'' || c = '"' || c = '$' || c = ' ' then
      some { d with out := c :: d.out, escaped := false }
    else if c = 'n' then some { d with out := '\n' :: d.out, escaped := false }
    else none
  else if d.single then
    some (if c = '\'' then { d with single := false } else { d with out := c :: d.out })
  else if d.naming ≠ .none then some (d.nameChar env c)
  else if c = '$' then some { d with naming := .bare }
  else if d.double then
    some (if c = '"' then { d with double := false }
      else if c = '\\' then { d with escaped := true }
      else { d with out := c :: d.out })
  else if c = '\'' then some { d with single := true }
  else if c = '"' then some { d with double := true }
  else if c = '\\' then some { d with escaped := true }
  else if c = ' ' || c = '\t' then some { d with ended := true }
  else some { d with out := c :: d.out }

/-- Reads the rest of a value.  Behind a blank only blanks and a comment may follow. -/
def draft? (env : Environment) (d : Draft) : List Char → Option Draft
  | [] => some d
  | c :: rest =>
    if d.ended then
      if c = ' ' || c = '\t' then draft? env d rest
      else if c = '#' then some d
      else none
    else
      match d.next? env c with
      | some d => draft? env d rest
      | none => none

/-- The value that a text spells. -/
def value? (env : Environment) (s : List Char) : Option String :=
  match draft? env {} s with
  | some d =>
    if d.naming = .braced || d.single || d.double then none
    else some (String.ofList (d.substitute env).out.reverse)
  | none => none

/-- The name at the front, and what follows it. -/
def name? (s : List Char) : Option (List Char × List Char) :=
  match s with
  | c :: _ =>
    if c.isAlpha || c = '_' then
      let isName (c : Char) : Bool := c.isAlphanum || c = '_' || c = '.'
      some (s.takeWhile isName, Text.trimLeft (s.dropWhile isName))
    else none
  | [] => none

/-- What follows an equals sign and blanks. -/
def afterEquals? : List Char → Option (List Char)
  | '=' :: rest => some (Text.trimLeft rest)
  | _ => none

/-- The name and the value's text of a line; the word `export` may stand in front. -/
def binding? (s : List Char) : Option (List Char × List Char) := do
  let (name, rest) ← name? s
  match afterEquals? rest with
  | some value => some (name, value)
  | none =>
    if name = "export".toList then do
      let (name, rest) ← name? rest
      some (name, ← afterEquals? rest)
    else none

/-- The variable that a line sets and its value; a line may set none, and `none` stands for a line
that makes no sense.  Blanks at either end of the line do not count. -/
def setting? (env : Environment) (s : List Char) : Option (Option (String × String)) :=
  match Text.trim s with
  | [] => some none
  | '#' :: _ => some none
  | s =>
    match binding? s with
    | some (name, value) =>
      if value.isEmpty || value.head? = some '#' then some (some (String.ofList name, ""))
      else (value? env value).map fun v => some (String.ofList name, v)
    | none => none

/-- The environment with one more variable, unless it is there; `none` if the value is none that a
variable can have. -/
def add? (env : Environment) (name value : String) : Option Environment :=
  if (env.get? name).isSome then some env
  else if value.toList.contains '\x00' then none
  else some (env ++ [(name, value)])

/-- Takes lines up to the first that makes no sense; `none` if a variable cannot be added. -/
def takeLines? (env : Environment) : List (Option (List Char)) → Option Environment
  | some s :: rest =>
    match setting? env s with
    | some (some (name, value)) =>
      match add? env name value with
      | some env => takeLines? env rest
      | none => none
    | some none => takeLines? env rest
    | none => some env
  | _ => some env

/-- The environment with the variables of a file; `none` if one of them cannot be added. -/
def load? (env : Environment) (text : String) : Option Environment :=
  let s := match text.toList with
    | '\ufeff' :: rest => rest
    | s => s
  takeLines? env (logicalLines [] .plain (physicalLines [] [] s))

end Switchboard.Settings.DotEnv
