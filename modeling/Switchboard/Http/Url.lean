/-
# URLs

How the text of an absolute URL is read.  A scheme of the web needs a host, and takes a backslash
for a slash; the scheme of files may do without one, and knows the letters of drives.  With any
other scheme all that follows may be one opaque text.  What may not stand in a part is written by
its bytes, and steps back along a path are taken.
-/
import Switchboard.Http.Host

namespace Switchboard.Http

open Switchboard.Number (isDigit ofDigits)

/-- Who is asked: a host, a port unless it is the one that the scheme stands for, and the user who
asks. -/
structure Authority where
  user : String := ""
  password : Option String := none
  host : String
  port : Option Nat := none
  deriving DecidableEq, Repr

/-- A URL. -/
structure Url where
  scheme : String
  authority : Option Authority
  path : String
  query : Option String
  fragment : Option String
  deriving DecidableEq, Repr

namespace Url

/-- The kinds of schemes: those of the web, that of files, and all others. -/
inductive Kind where
  | web (port : Nat)
  | file
  | other
  deriving DecidableEq, Repr

/-- The schemes of the web, with the ports that they stand for. -/
def webSchemes : List (String × Nat) :=
  [("http", 80), ("https", 443), ("ws", 80), ("wss", 443), ("ftp", 21)]

/-- The kind of a scheme. -/
def kindOf (scheme : String) : Kind :=
  if scheme = "file" then .file
  else
    match webSchemes.find? fun s => s.1 = scheme with
    | some (_, port) => .web port
    | none => .other

/-- Takes off what does not count: controls and spaces at both ends, tabs and line ends anywhere. -/
def cleaned (s : List Char) : List Char :=
  let isEdge (c : Char) : Bool := c.toNat ≤ 0x20
  let s := ((s.dropWhile isEdge).reverse.dropWhile isEdge).reverse
  s.filter fun c => c ≠ '\t' && c ≠ '\n' && c ≠ '\r'

/-- The scheme in lower case, and what follows its colon. -/
def scheme? (s : List Char) : Option (String × List Char) :=
  let isPart (c : Char) : Bool := c.isAlphanum || c = '+' || c = '-' || c = '.'
  let name := s.takeWhile isPart
  match name, s.drop name.length with
  | c :: _, ':' :: rest =>
    if c.isAlpha then some (String.ofList (name.map Char.toLower), rest) else none
  | _, _ => none

/-! ## What has to be escaped -/

/-- Characters that a fragment may not hold as they are. -/
def isFragmentSpecial (c : Char) : Bool := " \"<>\x60".toList.contains c

/-- Characters that a path may not hold as they are. -/
def isPathSpecial (c : Char) : Bool := isFragmentSpecial c || "#?\x7b\x7d".toList.contains c

/-- Characters that the name or password of a user may not hold as they are. -/
def isUserSpecial (c : Char) : Bool := isPathSpecial c || "/:;=@[\\]^|".toList.contains c

/-- Characters that a query may not hold as they are; on the web the single quote is one of them. -/
def isQuerySpecial (kind : Kind) (c : Char) : Bool :=
  " \"#<>".toList.contains c || (kind ≠ .other && c = '\'')

/-! ## Authorities -/

/-- Splits the user from the host, at the last mark between them. -/
def splitUser (s : List Char) : Option (List Char) × List Char :=
  let host := (s.reverse.takeWhile (· ≠ '@')).reverse
  if host.length = s.length then (none, s) else (some (s.take (s.length - host.length - 1)), host)

/-- The name and the password of a user; an empty password is none. -/
def userOf (s : List Char) : String × Option String :=
  let text (part : List Char) : String := String.ofList (escaped isUserSpecial part)
  match Text.cut ':' s with
  | (name, some (c :: rest)) => (text name, some (text (c :: rest)))
  | (name, _) => (text name, none)

/-- Splits a host from its port; a colon inside brackets does not count. -/
def splitPort (s : List Char) : List Char × Option (List Char) :=
  let inBrackets := if s.head? = some '[' then s.takeWhile (· ≠ ']') else []
  let (front, port) := Text.cut ':' (s.drop inBrackets.length)
  (inBrackets ++ front, port)

/-- A port; nothing behind the colon is no port, and so is the one that the scheme stands for. -/
def port? (kind : Kind) (digits : List Char) : Option (Option Nat) :=
  let n := ofDigits digits
  if digits.isEmpty then some none
  else if digits.all isDigit && n < 65536 then some (if kind = .web n then none else some n)
  else none

/-- A host with its port.  Only other schemes may do without a host, and then without a port too. -/
def hostPort? (kind : Kind) (host : List Char) (port : Option (List Char)) :
    Option (String × Option Nat) := do
  let host ← if kind = .other then Host.other? host else Host.web? host
  if host.isEmpty && (port.isSome || kind ≠ .other) then none
  else some (host, ← port? kind (port.getD []))

/-- An authority, and what follows its port before the path.  A user needs a host, and so does the
mark of one. -/
def authority? (kind : Kind) (s : List Char) : Option (Authority × List Char) := do
  let (user, rest) := splitUser s
  let (host, port) := splitPort rest
  let digits := port.map fun p => p.takeWhile (· ≠ '\\')
  let (host, number) ← hostPort? kind host digits
  let (name, password) := userOf (user.getD [])
  if host.isEmpty && (user = some [] || !name.isEmpty || password.isSome) then none
  else some (⟨name, password, host, number⟩, (port.getD []).dropWhile (· ≠ '\\'))

/-! ## Paths -/

/-- Whether a segment starts with the letter of a drive. -/
def startsWithDrive : List Char → Bool
  | a :: b :: rest => a.isAlpha && (b = ':' || b = '|') && (rest.isEmpty || rest.head? = some '\\')
  | _ => false

/-- Whether a segment is the letter of a drive. -/
def isDrive (segment : List Char) : Bool := startsWithDrive segment && segment.length = 2

/-- What the first segment of a path of files becomes: the letter of a drive is followed by a
colon, and stands alone. -/
def fileSegments (segment : List Char) : List (List Char) :=
  match segment with
  | [a, b] => if isDrive [a, b] then [[a, ':']] else [segment]
  | a :: ':' :: c :: rest => if a.isAlpha then [[a, ':'], c :: rest] else [segment]
  | _ => [segment]

/-- Whether a segment stands for where the path is. -/
def isStay (segment : List Char) : Bool :=
  [".", "%2e"].any fun s => segment.map Char.toLower = s.toList

/-- Whether a segment is a step back. -/
def isBack (segment : List Char) : Bool :=
  ["..", ".%2e", "%2e.", "%2e%2e"].any fun s => segment.map Char.toLower = s.toList

/-- Takes a step back; the letter of a drive stays. -/
def back (done : List (List Char)) : List (List Char) :=
  if (done.head?).any startsWithDrive then done else done.drop 1

/-- A path under way: its segments, reversed, and whether it has come to start with the letter of a
drive. -/
structure Walk where
  done : List (List Char) := []
  drive : Bool := false

/-- Takes a segment.  Where the last one is no name of its own, an empty one stands in its place. -/
def Walk.take (kind : Kind) (isLast : Bool) (w : Walk) (segment : List Char) : Walk :=
  let close (done : List (List Char)) : Walk :=
    { w with done := if isLast then [] :: done else done }
  if isBack segment then close (back w.done)
  else if isStay segment then close w.done
  else if kind = .file && w.done.isEmpty then
    { done := (fileSegments segment).reverse, drive := w.drive || isDrive segment }
  else { w with done := segment :: w.done }

/-- Takes the steps of a path without the slash in front of it. -/
def walk (kind : Kind) (path : List Char) : Walk :=
  let segments := Text.split '/' (escaped isPathSpecial path)
  let w := segments.dropLast.foldl (Walk.take kind false) {}
  w.take kind true ((segments.getLast?).getD [])

/-- The segments of a path.  A path of files does not start with empty ones. -/
def Walk.segments (kind : Kind) (w : Walk) : List (List Char) :=
  let all := w.done.reverse
  if kind = .file then
    match all.dropWhile List.isEmpty with
    | [] => [[]]
    | kept => kept
  else all

/-- The text of a path. -/
def Walk.text (kind : Kind) (w : Walk) : String :=
  String.ofList ('/' :: ['/'].intercalate (w.segments kind))

/-- The walk along a path behind an authority; the slash in front of it may be missing. -/
def walkBehind (kind : Kind) (s : List Char) : Walk :=
  walk kind (if s.head? = some '/' then s.drop 1 else s)

/-! ## Reading -/

/-- The parts of a URL before the query. -/
abbrev Front := Option Authority × String

/-- What follows two slashes. -/
def afterSlashes? (kind : Kind) (s : List Char) : Option Front := do
  let text := s.takeWhile (· ≠ '/')
  let (authority, more) ← authority? kind text
  let path := more ++ s.drop text.length
  some (authority,
    if kind = .other && path.isEmpty then "" else (walkBehind kind path).text kind)

/-- A host of files and the path behind it; a path that starts with the letter of a drive has no
host. -/
def fileAfterSlashes? (s : List Char) : Option Front := do
  let text := s.takeWhile (· ≠ '/')
  let host ← if isDrive text then some "" else Host.ofFile? text
  if host.isEmpty then
    let path := if isDrive text then s else s.drop text.length
    some (some { host }, (walk .file path).text .file)
  else
    let w := walkBehind .file (s.drop text.length)
    some (some { host := if w.drive then "" else host }, w.text .file)

/-- What follows the scheme of files. -/
def ofFile? (s : List Char) : Option Front :=
  match s with
  | '/' :: '/' :: rest => fileAfterSlashes? rest
  | _ => some (some { host := "" }, (walkBehind .file s).text .file)

/-- What follows another scheme. -/
def ofOther? (s : List Char) : Option Front :=
  match s with
  | '/' :: '/' :: rest => afterSlashes? .other rest
  | '/' :: rest => some (none, (walk .other rest).text .other)
  | _ => some (none, String.ofList (escaped (fun _ => false) s))

/-- What follows a scheme, up to the query. -/
def front? (kind : Kind) (s : List Char) : Option Front :=
  match kind with
  | .other => ofOther? s
  | .file => ofFile? (s.map fun c => if c = '\\' then '/' else c)
  | .web _ =>
    afterSlashes? kind ((s.map fun c => if c = '\\' then '/' else c).dropWhile (· = '/'))

/-- Reads a URL. -/
def read? (text : String) : Option Url := do
  let (scheme, rest) ← scheme? (cleaned text.toList)
  let kind := kindOf scheme
  let (rest, fragment) := Text.cut '#' rest
  let (rest, query) := Text.cut '?' rest
  let (authority, path) ← front? kind rest
  some {
    scheme, authority, path
    query := query.map fun q => String.ofList (escaped (isQuerySpecial kind) q)
    fragment := fragment.map fun f => String.ofList (escaped isFragmentSpecial f) }

/-! ## Writing -/

/-- Something behind a mark, if it is there. -/
def marked (mark : String) : Option String → String
  | some s => mark ++ s
  | none => ""

/-- The text of an authority. -/
def authorityText (a : Authority) : String :=
  let user := a.user ++ marked ":" a.password
  (if user.isEmpty then "" else user ++ "@") ++ a.host ++ marked ":" (a.port.map toString)

/-- The text of the authority, or what tells that there is none where the path could be taken for
one. -/
def frontText (u : Url) : String :=
  match u.authority with
  | some a => "//" ++ authorityText a
  | none => if "//".toList.isPrefixOf u.path.toList then "/." else ""

/-- The text of a URL. -/
def text (u : Url) : String :=
  s!"{u.scheme}:" ++ u.frontText ++ u.path ++ marked "?" u.query ++ marked "#" u.fragment

/-- Whether a URL has a host. -/
def hasHost (u : Url) : Bool := u.authority.any fun a => !a.host.isEmpty

/-! ## Requests -/

/-- Whether the user can be told by other means than the URL: there is a name that can be read, or
without a name a password that can. -/
def hasReadableUser (a : Authority) : Bool :=
  match unescaped? a.user.toList with
  | some name => !name.isEmpty || (a.password.bind fun p => unescaped? p.toList).isSome
  | none => false

/-- A URL without the user, if the user can be told by other means. -/
def withoutUser (u : Url) : Url :=
  match u.authority with
  | some a =>
    if hasReadableUser a then { u with authority := some { a with user := "", password := none } }
    else u
  | none => u

/-- The longest URL that can be requested. -/
def maxRequest : Nat := 65534

/-- Whether a URL can be requested from a server: its scheme is the one for that, it is not too
long, and its host has no characters that a request cannot name. -/
def isRequestable (u : Url) : Bool :=
  (u.scheme = "http" || u.scheme = "https") && u.text.utf8ByteSize ≤ maxRequest &&
    u.authority.any fun a => a.host.toList.all Host.isRequestable

/-- What a server is asked for: the path with the query. -/
def requestTarget (u : Url) : String := u.path ++ marked "?" u.query

end Url
end Switchboard.Http
