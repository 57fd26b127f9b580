/-
# Mentions

A mention of a user is written `<@ID>`.  The engine does not want to see mentions of the bot
itself, so they are dropped from a message, each together with one blank beside it where there is
one.  A search for a very long name takes too much room and is left out.
-/
import Switchboard.Text.Blank
import Switchboard.Text.Search

namespace Switchboard.Inbound

open Text

/-- How a user is mentioned. -/
def mention (id : String) : List Char := '<' :: '@' :: id.toList ++ ['>']

/-- Finds a word. -/
def word (w : List Char) : Matcher := fun s => if w.isPrefixOf s then some w.length else none

/-- Finds a word with a blank after it. -/
def wordThenBlank (w : List Char) : Matcher := fun s =>
  if w.isPrefixOf s then
    match s.drop w.length with
    | c :: _ => if isBlank c then some (w.length + 1) else none
    | [] => none
  else none

/-- Finds a word with a blank before it. -/
def blankThenWord (w : List Char) : Matcher := fun s =>
  match s with
  | c :: rest => if isBlank c && w.isPrefixOf rest then some (w.length + 1) else none
  | [] => none

/-- A search for the mentions of a user: for those before a blank, those behind a blank, or all that
are left. -/
inductive Search where
  | beforeBlank
  | behindBlank
  | alone
  deriving DecidableEq, Repr

namespace Search

/-- The searches in the order in which they are made. -/
def all : List Search := [beforeBlank, behindBlank, alone]

/-- What a search finds. -/
def matcher (w : List Char) : Search → Matcher
  | beforeBlank => wordThenBlank w
  | behindBlank => blankThenWord w
  | alone => word w

/-- What takes the place of a hit. -/
def filler : Search → List Char
  | alone => [' ']
  | _ => []

/-- The room that a search takes besides the one for the mention. -/
def ownRoom : Search → Nat
  | alone => 208
  | _ => 824

/-- The room that a search takes for a byte of the mention. -/
def byteRoom : Nat := 32

/-- The room that a search may take. -/
def maxRoom : Nat := 10485760

/-- Whether a search for a user takes more room than it may, so that it is left out. -/
def isTooBig (id : String) (s : Search) : Bool :=
  maxRoom < byteRoom * (id.utf8ByteSize + "<@>".length) + s.ownRoom

/-- Makes a search, and puts its filler for what it finds. -/
def apply (id : String) (text : List Char) (s : Search) : List Char :=
  if s.isTooBig id then text else replaceHits (s.matcher (mention id)) s.filler text

/-- Why a search is left out. -/
def tooBigMessage : String := s!"Compiled regex exceeds size limit of {maxRoom} bytes."

end Search

/-- Drops the mentions of one user: first those before a blank, then those behind a blank, each with
that blank; what is left becomes a space. -/
def dropMentions (text : List Char) (id : String) : List Char :=
  Search.all.foldl (Search.apply id) text

/-- Drops the mentions of all the users in turn, and the blanks at both ends. -/
def sanitizeChars (text : List Char) (ids : List String) : List Char :=
  trim (ids.foldl dropMentions text)

/-- A message without the mentions of these users. -/
def sanitize (text : String) (ids : List String) : String :=
  String.ofList (sanitizeChars text.toList ids)

/-- How many searches for these users are left out. -/
def leftOut (ids : List String) : Nat :=
  ids.foldl (fun n id => n + Search.all.countP (Search.isTooBig id)) 0

end Switchboard.Inbound
