/-
# Signatures

A request is signed by the code of its time and body under the shared secret.  The time is signed
as it was written, and a request whose time is too far from the clock is refused, so that a captured
request cannot be used again later.
-/
import Switchboard.Connector.Basic
import Switchboard.Digest.Hmac
import Switchboard.Http.Header
import Switchboard.Log
import Switchboard.Message.Instant
import Switchboard.Number.Reading

namespace Switchboard.Connector

/-- Why a signature is refused. -/
inductive SignatureError where
  | missingHeader (name : String)
  | unreadableTime
  | clockBeforeEpoch
  | stale
  | mismatch
  deriving DecidableEq, Repr

/-- Why a signature is refused, as a failure. -/
def SignatureError.failure : SignatureError → Failure
  | missingHeader name => .signature s!"Missing {name} header"
  | unreadableTime => .signature "Invalid timestamp"
  | clockBeforeEpoch => .signature "System time error"
  | stale => .signature "Request timestamp is too old or in the future"
  | mismatch => .signature "Invalid request signature"

/-- The header with the time of a request. -/
def timeHeader : String := "x-slack-request-timestamp"

/-- The header with the signature of a request. -/
def signatureHeader : String := "x-slack-signature"

/-- How far the time of a request may be from the clock, in seconds. -/
def maxAge : Nat := 300

/-- What is signed: the time as written and the body, behind a version. -/
def signedBytes (time : String) (body : Bytes) : Bytes :=
  Text.encodeString "v0:" ++ Text.encodeString time ++ Text.encodeString ":" ++ body

/-- The signature of a time and body under a secret. -/
def signatureOf (secret time : String) (body : Bytes) : String :=
  String.ofList <| "v0=".toList ++
    Digest.hex (Digest.hmac (Text.encodeString secret) (signedBytes time body))

/-- Notes a time too far from the clock. -/
def staleEvent (time now : Nat) : Log.Event where
  level := .warning
  sentence := "Slack request timestamp too old (possible replay attack)"
  details := [("timestamp", toString time), ("now", toString now)]

/-- Notes a signature that does not match. -/
def mismatchEvent : Log.Event :=
  { level := .warning, sentence := "Slack signature verification failed" }

/-- Notes a signature that matches. -/
def verifiedEvent : Log.Event :=
  { level := .debug, sentence := "Slack signature verified successfully" }

/-- The distance of two numbers. -/
def distance (m n : Nat) : Nat := (m - n) + (n - m)

/-- Compares two rows of bytes of one length.  All differences are gathered before any is looked at, so
that the time it takes does not tell where the first one is. -/
def sameBytes (s t : Bytes) : Bool :=
  s.length == t.length && (s.zip t).foldl (fun seen p => seen ||| (p.1 ^^^ p.2)) 0 == 0

/-- Checks a signature under a secret at the moment `now`. -/
def checkSignature (secret : String) (now : Int) (time : String) (body : Bytes)
    (signature : String) : Except SignatureError Unit × List Log.Event :=
  match Number.word64? time.toList with
  | none => (.error .unreadableTime, [])
  | some t =>
    match Instant.ofClock? now with
    | none => (.error .clockBeforeEpoch, [])
    | some moment =>
      if maxAge < distance moment t then (.error .stale, [staleEvent t moment])
      else
        let expected := Text.encodeString (signatureOf secret time body)
        if sameBytes (Text.encodeString signature) expected then (.ok (), [verifiedEvent])
        else (.error .mismatch, [mismatchEvent])

/-- Checks a signature; without a secret every signature will do. -/
def verifySignature (c : Connector) (now : Int) (time : String) (body : Bytes)
    (signature : String) : Except SignatureError Unit × List Log.Event :=
  match c.secret with
  | none => (.ok (), [])
  | some secret => checkSignature secret now time body signature

/-- Checks the signature of a request. -/
def verifyRequest (c : Connector) (now : Int) (headers : Http.Headers) (body : Bytes) :
    Except SignatureError Unit × List Log.Event :=
  match c.secret with
  | none => (.ok (), [])
  | some secret =>
    match Http.text? headers timeHeader, Http.text? headers signatureHeader with
    | none, _ => (.error (.missingHeader timeHeader), [])
    | some _, none => (.error (.missingHeader signatureHeader), [])
    | some time, some signature => checkSignature secret now time body signature

end Switchboard.Connector
