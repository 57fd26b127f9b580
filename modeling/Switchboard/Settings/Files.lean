/-
# Files

The files of a working directory, by their paths.  A file of settings is named with or without its
ending; a name that is a file as it stands counts first.
-/
import Switchboard.Settings.Format
import Switchboard.Text.Search

namespace Switchboard.Settings

/-- The files of a directory: path and text. -/
abbrev Files := List (String × String)

namespace Files

/-- The parts of a path, without those that stay where they are. -/
def parts (path : List Char) : List (List Char) :=
  (Text.split '/' path).filter fun p => !p.isEmpty && p ≠ ['.']

/-- The files with the parts of their paths. -/
def byParts (files : Files) : List (List (List Char) × String) :=
  files.map fun (path, text) => (parts path.toList, text)

/-- Whether there is a directory with these parts. -/
def isDirectory (files : Files) (dir : List (List Char)) : Bool :=
  files.byParts.any fun f => dir.isPrefixOf f.1 && dir.length < f.1.length

/-- Walks along a path; `here` is the way walked so far, reversed.  A step back leads out of a
directory only if it is there, and never out of the directory of the files. -/
def walk? (files : Files) (here : List (List Char)) : List (List Char) → Option (List (List Char))
  | [] => some here.reverse
  | step :: rest =>
    if step = ['.', '.'] then
      match here with
      | _ :: above => if files.isDirectory here.reverse then walk? files above rest else none
      | [] => none
    else walk? files (step :: here) rest

/-- The text of the file at a path. -/
def text? (files : Files) (path : List Char) : Option String :=
  if (Text.split '/' path).getLast?.any fun p => p.isEmpty || p = ['.'] then none
  else
    match files.walk? [] (parts path) with
    | some found => lookup found files.byParts
    | none => none

/-- A path without the parts at its end that stay where they are. -/
def trimEnd (path : List Char) : List Char :=
  let kept := (Text.split '/' path).reverse.dropWhile fun p => p.isEmpty || p = ['.']
  ['/'].intercalate kept.reverse

/-- The last part of a path. -/
def lastPart (path : List Char) : List Char := ((Text.split '/' path).getLast?).getD []

/-- The ending of a file's name: what stands behind its last point, if anything stands before it. -/
def ending (path : List Char) : List Char :=
  match (Text.split '.' (lastPart path)).reverse with
  | last :: before => if before.all List.isEmpty && before.length < 2 then [] else last
  | [] => []

/-- Whether a path ends in a name, and not in a step back. -/
def isNamed (path : List Char) : Bool := lastPart (trimEnd path) ≠ ['.', '.']

/-- The paths at which the settings of a name may stand. -/
def candidates (name : String) : List String :=
  name :: Format.endings.map fun e => String.ofList (trimEnd name.toList) ++ "." ++ e.1

/-- A file that was found: its format, and its text. -/
abbrev Found := Format × String

/-- The file with a path as its name and an ending behind it.  Nothing settles which one is found where
there are several; here it is the first in the order of the endings. -/
def withEnding? (files : Files) (path : List Char) : List (String × Format) → Option Found
  | [] => none
  | (e, format) :: rest =>
    match files.text? (trimEnd path ++ '.' :: e.toList) with
    | some text => some (format, text)
    | none => withEnding? files path rest

/-- Finds a file of settings by its path with or without its ending.  A file that is there as it
stands hides the others, and counts only if its ending is that of a format. -/
def find? (files : Files) (path : String) : Option Found :=
  let chars := path.toList
  match files.text? chars with
  | some text =>
    (lookup (String.ofList (ending chars)) Format.endings).map fun format => (format, text)
  | none => if isNamed chars then files.withEnding? chars Format.endings else none

end Files
end Switchboard.Settings
