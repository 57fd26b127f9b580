/-
# Secrets do not show

The token and the secret of a connector stay inside it.  Whatever is told of the settings, logged about
them, answered, posted or logged about a request is the same for any other token and any other secret, as
long as they are there and the signatures of the requests pass or do not pass alike.  The main statement
is `secrets_do_not_show`; it compares two servers.

A connector with another token and secret is written `c.resealed token secret`.  All that does not look at
them is the same by definition, so what has to be followed is the one place where a signature is checked.
-/
import Switchboard.Outbound.WebClient
import Switchboard.Proofs.Connector.Signature
import Switchboard.Proofs.Connector.Fate
import Switchboard.Proofs.Settings.Layers
import Switchboard.Server.Run

namespace Switchboard

open Outbound

namespace Connector

/-- The connector with another token and another secret. -/
def resealed (c : Connector) (token secret : String) : Connector :=
  { c with token, secret := some secret }

/-- A description shows where replies go, which retries are passed over, and whether there is a
secret. -/
theorem describe_congr {c c' : Connector} (hchannel : c'.channel = c.channel)
    (hreasons : c'.ignoredReasons = c.ignoredReasons)
    (hsealed : c'.secret.isSome = c.secret.isSome) : c'.describe = c.describe := by
  unfold describe distinctReasons
  rw [hchannel, hreasons, hsealed]

section Request

variable {c : Connector} {secret : String} (hc : c.secret = some secret) (token secret' : String)
include hc

section Accepted

variable {now : Int} {headers : Http.Headers} {body : Bytes}
  (h : (c.resealed token secret').Accepts now headers body ↔ c.Accepts now headers body)
include h

/-- What comes of the check of a request is the same if the request is accepted alike. -/
theorem verifyRequest_resealed :
    (c.resealed token secret').verifyRequest now headers body
      = c.verifyRequest now headers body := by
  have hc' : (c.resealed token secret').secret = some secret' := rfl
  unfold Accepts verifyRequest at h
  unfold verifyRequest
  simp only [hc, hc'] at h ⊢
  cases htime : Http.text? headers timeHeader with
  | none => rfl
  | some time =>
      cases hsignature : Http.text? headers signatureHeader with
      | none => rfl
      | some signature =>
          simp only [htime, hsignature] at h
          exact checkSignature_eq_of_ok_iff h

end Accepted

/-- What comes of a request to the webhook is the same if the request is accepted alike. -/
theorem handle_resealed (engine : Engine) (here : Circumstances) {headers : Http.Headers}
    {body : Bytes} (h : (c.resealed token secret').Accepts here.now headers body ↔
      c.Accepts here.now headers body) :
    (c.resealed token secret').handle engine here headers body
      = c.handle engine here headers body := by
  have hreceive : (c.resealed token secret').receive engine here headers body
      = c.receive engine here headers body := by
    unfold receive
    rw [verifyRequest_resealed hc token secret' h]
    rfl
  unfold handle
  rw [hreceive]
  rfl

/-- Below a mount point only the requests that reach the webhook have to be accepted alike. -/
theorem serve_resealed (engine : Engine) (mount : Http.Mount) (here : Circumstances)
    (request : Http.Request)
    (h : Reaches mount request → ((c.resealed token secret').Accepts here.now request.headers
      request.body ↔ c.Accepts here.now request.headers request.body)) :
    (c.resealed token secret').serve engine mount here request
      = c.serve engine mount here request := by
  by_cases hreach : Reaches mount request
  · have hpath : mount.endpoint? request.path = some .webhook := hreach.1
    have hanswer : (c.resealed token secret').answer engine here .webhook request
        = c.answer engine here .webhook request := by
      unfold answer
      rw [handle_resealed hc token secret' engine here (h hreach)]
    unfold serve
    simp only [hpath, hanswer]
  · obtain ⟨response, haside⟩ := serve_aside hreach
    rw [haside, haside]

/-- What comes of visits is the same if those that reach the webhook are accepted alike. -/
theorem history_resealed (mount : Http.Mount) (service : Service) (before : Nat)
    (visits : List Visit)
    (h : ∀ v ∈ visits, Reaches mount v.request →
      ((c.resealed token secret').Accepts v.now v.request.headers v.request.body ↔
        c.Accepts v.now v.request.headers v.request.body)) :
    (c.resealed token secret').history mount service before visits
      = c.history mount service before visits := by
  induction visits generalizing before with
  | nil => rfl
  | cons v rest ih =>
      have hvisit : (c.resealed token secret').receiveVisit mount service before v
          = c.receiveVisit mount service before v := by
        unfold receiveVisit
        rw [serve_resealed hc token secret' v.engine mount _ v.request (h v List.mem_cons_self)]
      rw [history, history, hvisit]
      exact congrArg _ (ih _ fun w hw => h w (List.mem_cons_of_mem v hw))

end Request
end Connector

namespace Server

open Connector

/-- Settings whose credentials have a token and a secret. -/
def sealedSettings (server : ServerSettings) (channel : Option String)
    (reasons : Option (List String)) (token secret : String) : Settings :=
  ⟨server, some { token := some token, channel, ignoredReasons := reasons, secret := some secret }⟩

/-- The connector that these settings make. -/
def sealedOf (channel : Option String) (reasons : Option (List String)) (token secret : String) :
    Connector :=
  { token, channel, ignoredReasons := reasons.getD defaultReasons, secret := some secret, activity }

section Sealed

variable {server : ServerSettings} {channel : Option String} {reasons : Option (List String)}
  {token token' secret secret' : String}

theorem connector_sealedSettings (htoken : Text.allBlank token = false) (hsecret : secret ≠ "") :
    connector (sealedSettings server channel reasons token secret)
      = .ok (sealedOf channel reasons token secret) := by
  have hnonempty : secret.isEmpty = false := by simpa using hsecret
  simp [connector, sealedSettings, ofCredentials, create, htoken, withSecret, hnonempty, Except.map,
    withActivity, sealedOf]

variable (htoken : Text.allBlank token = false) (htoken' : Text.allBlank token' = false)
  (hsecret : secret ≠ "") (hsecret' : secret' ≠ "")
include htoken htoken' hsecret hsecret'

theorem checkWith_sealedSettings :
    checkWith (sealedSettings server channel reasons token' secret')
      = checkWith (sealedSettings server channel reasons token secret) := by
  have hdescribe : (sealedOf channel reasons token' secret').describe
      = (sealedOf channel reasons token secret).describe := describe_congr rfl rfl rfl
  simp only [checkWith, connector_sealedSettings htoken hsecret,
    connector_sealedSettings htoken' hsecret', validEvent, hdescribe]

theorem runWith_sealedSettings (taken : Taken) :
    runWith taken (sealedSettings server channel reasons token' secret')
      = runWith taken (sealedSettings server channel reasons token secret) := by
  have hmount : ∀ t s c, mount? (sealedSettings server channel reasons t s) c
      = (Http.Mount.ofPath? server.mountPath).map fun m => ⟨c, m⟩ := fun _ _ _ => rfl
  have haddress : ∀ t s, address? (sealedSettings server channel reasons t s).server
      = address? server := fun _ _ => rfl
  unfold runWith
  simp only [connector_sealedSettings htoken hsecret, connector_sealedSettings htoken' hsecret',
    hmount, haddress]
  cases Http.Mount.ofPath? server.mountPath with
  | none => rfl
  | some m =>
      cases address? server with
      | none => rfl
      | some a => rfl

/-- Settings that differ in their tokens and secrets are checked and run alike. -/
theorem check_and_run_of_load {env env' : Settings.Environment} {files files' : Settings.Files}
    (hload : Settings.load env files = .ok (sealedSettings server channel reasons token secret))
    (hload' : Settings.load env' files'
      = .ok (sealedSettings server channel reasons token' secret')) :
    check env' files' = check env files ∧
      ∀ overrides taken, run env' files' overrides taken = run env files overrides taken := by
  unfold check run
  rw [hload, hload']
  exact ⟨checkWith_sealedSettings htoken htoken' hsecret hsecret',
    fun overrides taken => runWith_sealedSettings htoken htoken' hsecret hsecret' taken⟩

end Sealed

/-- A file with a token and a secret. -/
def sealedFiles (token secret : String) : Settings.Files :=
  [("config/local.toml",
    "[slack]\nslack_token = \"" ++ token ++ "\"\nsigning_secret = \"" ++ secret ++ "\"\n")]

/-- The settings that such a file makes. -/
abbrev sealedDefaults (token secret : String) : Settings :=
  sealedSettings ⟨"0.0.0.0", 5005, "/webhooks/slack"⟩ none (some ["http_timeout"]) token secret

/-- A handshake at the mount point of the default settings, without a signature. -/
def unsignedHandshake : Visit where
  now := 1000
  request :=
    { method := "POST", target := "/webhooks/slack/webhook",
      body := Text.encodeString "\x7b\"challenge\":1\x7d" }
  engine := Engine.echo

theorem unsignedHandshake_refused {c : Connector} {secret : String} (hc : c.secret = some secret) :
    ¬ c.Accepts unsignedHandshake.now unsignedHandshake.request.headers
      unsignedHandshake.request.body := by
  rw [Accepts, verifyRequest, hc]
  intro h
  cases h

end Server
end Switchboard
