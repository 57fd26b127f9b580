/-
# Requests and responses

The two messages of an HTTP exchange, as far as the connector looks at them or makes them.
-/
import Switchboard.Http.Header

namespace Switchboard.Http

/-- What a client asks. -/
structure Request where
  method : String
  target : String
  headers : Headers := []
  body : Bytes := []

/-- What follows the scheme of a target, if it names one. -/
def afterScheme? : List Char → Option (List Char)
  | ':' :: '/' :: '/' :: rest => some rest
  | c :: rest =>
    if c.isAlphanum || c = '+' || c = '-' || c = '.' then afterScheme? rest else none
  | [] => none

/-- Where the path of a target ends. -/
def isPathEnd (c : Char) : Bool := c = '?' || c = '#'

/-- A path up to its end; behind a host an empty one is the root. -/
def pathBehindHost (s : List Char) : List Char :=
  match s.takeWhile fun c => !isPathEnd c with
  | [] => ['/']
  | path => path

/-- The path of a target: all of it up to a query or fragment.  A target that names a scheme has a
host in front of its path, and one that is a host alone has no path. -/
def Request.path (r : Request) : List Char :=
  let target := r.target.toList
  match target with
  | '/' :: _ => target.takeWhile fun c => !isPathEnd c
  | _ =>
    match afterScheme? target with
    | some rest => pathBehindHost (rest.dropWhile fun c => c ≠ '/' && !isPathEnd c)
    | none => []

/-- What the client is told. -/
structure Response where
  status : Nat
  headers : List (String × String) := []
  body : String := ""
  deriving DecidableEq, Repr

namespace Response

/-- A status and nothing else. -/
def ofStatus (status : Nat) : Response := { status }

/-- A body that is a JSON document. -/
def ofJson (text : String) : Response :=
  { status := 200, headers := [("content-type", "application/json")], body := text }

/-- A body of plain text. -/
def ofText (status : Nat) (text : String) : Response :=
  { status, headers := [("content-type", "text/plain; charset=utf-8")], body := text }

/-- The response with the length of its body among its headers. -/
def withLength (r : Response) : Response :=
  { r with headers := r.headers ++ [("content-length", toString r.body.utf8ByteSize)] }

/-- The response without its body. -/
def withoutBody (r : Response) : Response := { r with body := "" }

end Response
end Switchboard.Http
