/-
# The fate of a request

A request to the webhook has one of five fates, and the fate is settled by the connector, the clock,
the headers and the body alone: the engine and the posting service have no part in it.  `handle_follows`
says that what comes of a request is what its fate says, and `serve_follows` and `serve_aside` say
the same of a request below a mount point.  What is proved elsewhere about requests starts from these.

Where a message is delivered, the engine comes in: it posts what it likes, and the response is sent
only if its ending stays inside the connector (`Exchange.Contained`).
-/
import Switchboard.Connector.History

namespace Switchboard

open Inbound Outbound

/-- What can become of a request to the webhook. -/
inductive Fate where
  | passedOver (count reason : String)
  | refused (why : Connector.SignatureError)
  | challenged (value : Json)
  | delivered (sender text : String)
  | ignored

/-- The fate of a request that is let in. -/
def Inbound.Payload.fate : Payload → Fate
  | .challenge value => .challenged value
  | .buttonClick sender text => .delivered sender text
  | .userMessage sender text ownIds => .delivered sender (sanitize text ownIds)
  | .unrecognized => .ignored

/-- The message that the engine is handed. -/
def Fate.message? (c : Connector) (now : Int) : Fate → Option UserMessage
  | delivered sender text => (Instant.dated? now).map (c.userMessage sender text)
  | _ => none

/-- The endings that stay inside the connector: the engine finishes, or it fails with an error that can
be told and let go, or it breaks down where it is waited for and leaves a text, or a thing that can be let
go. -/
inductive Engine.Ending.Contained : Engine.Ending → Prop where
  | finished : Contained .finished
  | failed (account : String) : Contained (.failed (.told account false))
  | text (reason : String) : Contained (.brokeDown (.text reason))
  | thing : Contained (.brokeDown (.thing false))

namespace Connector

theorem contains_iff {ending : Engine.Ending} : contains ending = true ↔ ending.Contained := by
  constructor
  · intro h
    rcases ending with _ | (⟨account, _ | _⟩ | _) | (reason | (_ | _)) | _
    · exact .finished
    · exact .failed account
    · cases h
    · cases h
    · exact .text reason
    · exact .thing
    · cases h
    · cases h
  · rintro (_ | _ | _ | _) <;> rfl

/-- The fate of a request to the webhook. -/
def fate (c : Connector) (now : Int) (headers : Http.Headers) (body : Bytes) : Fate :=
  match c.suppressed? headers with
  | some (count, reason) => .passedOver count reason
  | none =>
    match (c.verifyRequest now headers body).1 with
    | .error e => .refused e
    | .ok () => (classify headers body).1.fate

/-- Whether the headers are those of a retry that is to be passed over. -/
def PassesOver (c : Connector) (headers : Http.Headers) : Prop :=
  ∃ count reason, Http.text? headers "x-slack-retry-num" = some count ∧ count ≠ "" ∧
    Http.text? headers "x-slack-retry-reason" = some reason ∧ reason ∈ c.ignoredReasons

/-- Whether the signature of a request is accepted, or none is asked for. -/
def Accepts (c : Connector) (now : Int) (headers : Http.Headers) (body : Bytes) : Prop :=
  (c.verifyRequest now headers body).1 = .ok ()

/-- What the engine posts about a message, if there is one, and how many posts have been attempted
in the end. -/
def Circumstances.sent (here : Circumstances) (c : Connector) (engine : Engine) :
    Option UserMessage → List SlackPost × Nat
  | some m =>
    let o := ((engine m).run here.service c.output m.sender { attempts := here.attempts }).1
    (o.posted.reverse, o.attempts)
  | none => ([], here.attempts)

/-- How an engine ends that is handed a message. -/
def Circumstances.ending (here : Circumstances) (c : Connector) (engine : Engine)
    (m : UserMessage) : Engine.Ending :=
  ((engine m).run here.service c.output m.sender { attempts := here.attempts }).2

/-- The response to a message that an engine is handed. -/
def Circumstances.acknowledgement? (here : Circumstances) (c : Connector) (engine : Engine)
    (m : UserMessage) : Option Http.Response :=
  if contains (here.ending c engine m) then some (.ofStatus 200) else none

end Connector

/-- The response to a request.  There is none where a message cannot be dated, or where the ending of
the engine is not contained. -/
def Fate.response? (c : Connector) (engine : Engine) (here : Connector.Circumstances) :
    Fate → Option Http.Response
  | passedOver _ _ => some Connector.retryResponse
  | refused _ => some (.ofStatus 401)
  | challenged value => some (.ofJson value.print)
  | delivered sender text =>
    ((delivered sender text).message? c here.now).bind (here.acknowledgement? c engine)
  | ignored => some (.ofStatus 200)

namespace Connector

/-- An outcome that is what a fate says. -/
structure Outcome.Follows (o : Outcome) (c : Connector) (engine : Engine) (here : Circumstances)
    (f : Fate) : Prop where
  response : o.response = f.response? c engine here
  delivered : o.delivered = (f.message? c here.now).toList
  sent : (o.posts, o.attempts) = here.sent c engine (f.message? c here.now)

/-! ## Which fate it is -/

theorem suppressed?_isSome_iff {c : Connector} {headers : Http.Headers} :
    (c.suppressed? headers).isSome ↔ c.PassesOver headers := by
  unfold suppressed? PassesOver retryCountHeader retryReasonHeader
  cases hn : Http.text? headers "x-slack-retry-num" with
  | none => simp
  | some count =>
      cases hr : Http.text? headers "x-slack-retry-reason" with
      | none => simp
      | some reason => simp [ignores]

instance (c : Connector) (headers : Http.Headers) : Decidable (c.PassesOver headers) :=
  decidable_of_iff _ suppressed?_isSome_iff

instance (c : Connector) (now : Int) (headers : Http.Headers) (body : Bytes) :
    Decidable (c.Accepts now headers body) :=
  match h : (c.verifyRequest now headers body).1 with
  | .ok () => isTrue h
  | .error _ => isFalse fun h' => nomatch h.symm.trans h'

section Fate

variable {c : Connector} {now : Int} {headers : Http.Headers} {body : Bytes}

theorem fate_of_passesOver (h : c.PassesOver headers) :
    ∃ count reason, c.fate now headers body = .passedOver count reason := by
  obtain ⟨⟨count, reason⟩, hs⟩ := Option.isSome_iff_exists.mp (suppressed?_isSome_iff.mpr h)
  exact ⟨count, reason, by simp only [fate, hs]⟩

theorem suppressed?_of_not_passesOver (h : ¬ c.PassesOver headers) :
    c.suppressed? headers = none :=
  Option.not_isSome_iff_eq_none.mp fun hs => h (suppressed?_isSome_iff.mp hs)

theorem fate_of_not_accepts (hp : ¬ c.PassesOver headers) (ha : ¬ c.Accepts now headers body) :
    ∃ e, c.fate now headers body = .refused e := by
  cases hv : (c.verifyRequest now headers body).1 with
  | error e => exact ⟨e, by simp only [fate, suppressed?_of_not_passesOver hp, hv]⟩
  | ok _ => exact absurd hv ha

theorem fate_of_accepts (hp : ¬ c.PassesOver headers) (ha : c.Accepts now headers body) :
    c.fate now headers body = (classify headers body).1.fate := by
  have hv : (c.verifyRequest now headers body).1 = .ok () := ha
  simp only [fate, suppressed?_of_not_passesOver hp, hv]

end Fate

variable (c : Connector) (engine : Engine) (here : Circumstances)

/-! ## Requests to the webhook -/

/-- Noting more events changes nothing else. -/
theorem Outcome.Follows.withLog {c : Connector} {engine : Engine} {here : Circumstances}
    {o : Outcome} {f : Fate} (h : o.Follows c engine here f) (log : List Log.Event) :
    { o with log }.Follows c engine here f :=
  ⟨h.response, h.delivered, h.sent⟩

theorem answered_follows {f : Fate} {response : Http.Response} (log : List Log.Event)
    (hr : f.response? c engine here = some response) (hm : f.message? c here.now = none) :
    (here.answered response log).Follows c engine here f where
  response := hr.symm
  delivered := by rw [hm]; rfl
  sent := by rw [hm]; rfl

theorem deliver_follows (sender text : String) :
    (c.deliver engine here sender text).Follows c engine here (.delivered sender text) where
  response := by
    rw [deliver, Fate.response?, Fate.message?]
    cases Instant.dated? here.now <;> rfl
  delivered := by
    rw [deliver, Fate.message?]
    cases Instant.dated? here.now <;> rfl
  sent := by
    rw [deliver, Fate.message?]
    cases Instant.dated? here.now <;> rfl

theorem actOn_follows (p : Payload) : (c.actOn engine here p).Follows c engine here p.fate := by
  cases p with
  | challenge value => exact answered_follows c engine here _ rfl rfl
  | buttonClick sender text => exact deliver_follows c engine here sender text
  | userMessage sender text ownIds =>
      exact (deliver_follows c engine here sender (sanitize text ownIds)).withLog _
  | unrecognized => exact answered_follows c engine here _ rfl rfl

/-- A request to the webhook meets its fate. -/
theorem handle_follows (headers : Http.Headers) (body : Bytes) :
    (c.handle engine here headers body).Follows c engine here
      (c.fate here.now headers body) := by
  refine Outcome.Follows.withLog ?_ _
  unfold fate
  cases hs : c.suppressed? headers with
  | some retry => exact answered_follows c engine here _ rfl rfl
  | none =>
      simp only [receive]
      rcases hv : c.verifyRequest here.now headers body with ⟨_ | _, log⟩
      · exact answered_follows c engine here _ rfl rfl
      · exact (actOn_follows c engine here (classify headers body).1).withLog _

/-! ## Requests below a mount point -/

/-- Whether a request is one that the webhook looks into: a `POST` whose body is short enough. -/
def Reaches (mount : Http.Mount) (request : Http.Request) : Prop :=
  mount.endpoint? request.path = some .webhook ∧ request.method = "POST" ∧
    request.body.length ≤ maxBody

instance (mount : Http.Mount) (request : Http.Request) : Decidable (Reaches mount request) :=
  inferInstanceAs (Decidable (_ ∧ _ ∧ _))

/-- At the root the webhook stands at `/webhook`. -/
theorem endpoint?_root {path : List Char} :
    Http.Mount.root.endpoint? path = some .webhook ↔ path = "/webhook".toList := by
  show (if path = "/".toList then some Http.Endpoint.health
    else if path = "/webhook".toList then some .webhook else none) = some .webhook ↔ _
  by_cases hhealth : path = "/".toList
  · rw [if_pos hhealth, hhealth]
    exact iff_of_false (by decide) (by decide)
  · rw [if_neg hhealth]
    by_cases hwebhook : path = "/webhook".toList
    · exact iff_of_true (if_pos hwebhook) hwebhook
    · rw [if_neg hwebhook]
      exact iff_of_false (by decide) hwebhook

theorem reaches_root_iff {request : Http.Request} :
    Reaches .root request ↔
      request.path = "/webhook".toList ∧ request.method = "POST" ∧
        request.body.length ≤ 2097152 :=
  and_congr endpoint?_root Iff.rfl

/-- A request that reaches the webhook meets its fate, and its response tells its length. -/
theorem serve_follows {mount : Http.Mount} {request : Http.Request}
    (h : Reaches mount request) :
    ∃ o : Outcome, o.Follows c engine here (c.fate here.now request.headers request.body) ∧
      c.serve engine mount here request =
        { o with response := o.response.map Http.Response.withLength } := by
  obtain ⟨hpath, hmethod, hbody⟩ := h
  have hfinished : finished request = Http.Response.withLength := by
    funext r
    rw [finished, if_neg (by rw [hmethod]; decide)]
  refine ⟨_, handle_follows c engine here request.headers request.body, ?_⟩
  simp [serve, hpath, answer, hmethod, Nat.not_lt.mpr hbody, hfinished]

/-- What an endpoint tells about a request that does not reach the webhook. -/
theorem answer_aside {mount : Http.Mount} {request : Http.Request} (h : ¬ Reaches mount request)
    {endpoint : Http.Endpoint} (he : mount.endpoint? request.path = some endpoint) :
    ∃ response, ∀ (c : Connector) engine here, c.answer engine here endpoint request
      = here.answered response [] := by
  by_cases hget : (request.method = "GET" || request.method = "HEAD") = true
  · cases endpoint with
    | health => exact ⟨healthResponse, fun _ _ _ => by rw [answer, if_pos hget]⟩
    | webhook => exact ⟨.ofStatus 200, fun _ _ _ => by rw [answer, if_pos hget]⟩
  · cases endpoint with
    | health => exact ⟨wrongMethod "GET,HEAD", fun _ _ _ => by rw [answer, if_neg hget]⟩
    | webhook =>
        by_cases hpost : request.method = "POST"
        · have hlong : maxBody < request.body.length :=
            Nat.lt_of_not_le fun hb => h ⟨he, hpost, hb⟩
          exact ⟨tooLongResponse, fun _ _ _ => by
            rw [answer, if_neg hget, if_pos hpost, if_pos hlong]⟩
        · exact ⟨wrongMethod "GET,HEAD,POST", fun _ _ _ => by
            rw [answer, if_neg hget, if_neg hpost]⟩

/-- A request that does not reach the webhook is answered in one way, whatever the connector and the
circumstances, and nothing is done about it. -/
theorem serve_aside {mount : Http.Mount} {request : Http.Request} (h : ¬ Reaches mount request) :
    ∃ response, ∀ (c : Connector) engine here, c.serve engine mount here request
      = here.answered response [] := by
  cases he : mount.endpoint? request.path with
  | none => exact ⟨finished request (.ofStatus 404), fun _ _ _ => by simp only [serve, he]; rfl⟩
  | some endpoint =>
      obtain ⟨response, hr⟩ := answer_aside h he
      exact ⟨finished request response, fun c engine here => by
        simp only [serve, he, hr c engine here]; rfl⟩

end Connector

/-! ## Visits -/

/-- A response that is a status and nothing else, as it is sent. -/
theorem Http.withLength_ofStatus (status : Nat) :
    (Http.Response.ofStatus status).withLength
      = { status, headers := [("content-length", "0")] } := by
  have hlength : toString "".utf8ByteSize = "0" := rfl
  rw [Http.Response.withLength, Http.Response.ofStatus, hlength]
  rfl

/-- The response to a retry that is passed over, as it is sent. -/
def passedOver : Http.Response :=
  { status := 201, headers := [("x-slack-no-retry", "1"), ("content-length", "0")] }

/-- The response to a request that is turned away: the status and nothing else. -/
def turnedAway : Http.Response := { status := 401, headers := [("content-length", "0")] }

/-- The response that all is well. -/
def acknowledged : Http.Response := { status := 200, headers := [("content-length", "0")] }

/-- The fate of a visit that reaches the webhook. -/
def Visit.fate (v : Visit) (c : Connector) : Fate :=
  c.fate v.now v.request.headers v.request.body

/-- An exchange in which a visit met a fate. -/
structure Exchange.Meets (e : Exchange) (c : Connector) (service : Service) (f : Fate) :
    Prop where
  response : e.outcome.response =
    (f.response? c e.visit.engine ⟨e.visit.now, service, e.before⟩).map Http.Response.withLength
  delivered : e.outcome.delivered = (f.message? c e.visit.now).toList
  sent : (e.outcome.posts, e.outcome.attempts) =
    Connector.Circumstances.sent ⟨e.visit.now, service, e.before⟩ c e.visit.engine
      (f.message? c e.visit.now)

/-- An exchange in which nothing was delivered and no post was attempted. -/
structure Exchange.Idle (e : Exchange) : Prop where
  delivered : e.outcome.delivered = []
  posts : e.outcome.posts = []
  attempts : e.outcome.attempts = e.before

/-- Whether an engine that is called ends in a way that stays inside the connector. -/
def Exchange.Contained (e : Exchange) (c : Connector) (service : Service) : Prop :=
  ∀ m ∈ e.outcome.delivered,
    (Connector.Circumstances.ending ⟨e.visit.now, service, e.before⟩ c e.visit.engine m).Contained

theorem Exchange.Idle.contained {e : Exchange} {c : Connector} {service : Service} (h : e.Idle) :
    e.Contained c service := by
  intro m hm
  rw [h.delivered] at hm
  cases hm

theorem Exchange.Meets.idle {e : Exchange} {c : Connector} {service : Service} {f : Fate}
    (h : e.Meets c service f) (hf : f.message? c e.visit.now = none) : e.Idle := by
  have hsent := h.sent
  simp only [hf, Connector.Circumstances.sent, Prod.mk.injEq] at hsent
  exact ⟨by rw [h.delivered, hf]; rfl, hsent.1, hsent.2⟩

section Message

variable {e : Exchange} {c : Connector} {service : Service} {f : Fate} {m : UserMessage}

/-- A message that is delivered is acknowledged if the ending of the engine is contained, and else the
request is dropped. -/
theorem Exchange.Meets.response_of_message (h : e.Meets c service f)
    (hm : f.message? c e.visit.now = some m) :
    (e.Contained c service → e.outcome.response = some acknowledged) ∧
      (¬ e.Contained c service → e.outcome.response = none) := by
  have hdelivered : e.outcome.delivered = [m] := by
    rw [h.delivered, hm]
    rfl
  have hresponse : e.outcome.response =
      (Connector.Circumstances.acknowledgement? ⟨e.visit.now, service, e.before⟩ c
        e.visit.engine m).map Http.Response.withLength := by
    cases f with
    | delivered sender text => rw [h.response, Fate.response?, hm, Option.bind_some]
    | _ => cases hm
  rw [hresponse, Connector.Circumstances.acknowledgement?, Exchange.Contained, hdelivered,
    List.forall_mem_singleton, ← Connector.contains_iff]
  constructor
  · intro hcontained
    rw [if_pos hcontained]
    exact congrArg some (Http.withLength_ofStatus 200)
  · intro hcontained
    rw [if_neg hcontained]
    rfl

theorem Exchange.Meets.exists_message (h : e.Meets c service f) (hd : e.outcome.delivered ≠ []) :
    ∃ m, f.message? c e.visit.now = some m := by
  cases hm : f.message? c e.visit.now with
  | none => exact absurd (h.idle hm).delivered hd
  | some m => exact ⟨m, rfl⟩

/-- What is delivered is acknowledged where the ending of the engine is contained. -/
theorem Exchange.Meets.acknowledged_of_contained (h : e.Meets c service f)
    (hd : e.outcome.delivered ≠ [])
    (hcontained : e.Contained c service) : e.outcome.response = some acknowledged := by
  obtain ⟨m, hm⟩ := h.exists_message hd
  exact (h.response_of_message hm).1 hcontained

/-- Where an ending is not contained, an engine was called. -/
theorem delivered_ne_nil_of_not_contained (hescapes : ¬ e.Contained c service) :
    e.outcome.delivered ≠ [] := by
  intro hnone
  refine hescapes fun m hm => ?_
  rw [hnone] at hm
  cases hm

/-- A request whose engine ends in a way that is not contained is dropped. -/
theorem Exchange.Meets.unanswered (h : e.Meets c service f)
    (hescapes : ¬ e.Contained c service) : e.outcome.response = none := by
  obtain ⟨m, hm⟩ := h.exists_message (delivered_ne_nil_of_not_contained hescapes)
  exact (h.response_of_message hm).2 hescapes

/-- Where something is to be delivered, the only response is the acknowledgement. -/
theorem Exchange.Meets.response_of_delivered {sender text : String}
    (h : e.Meets c service (.delivered sender text)) {r : Http.Response}
    (hr : e.outcome.response = some r) : r = acknowledged := by
  cases hm : (Fate.delivered sender text).message? c e.visit.now with
  | none =>
      rw [h.response, Fate.response?, hm] at hr
      cases hr
  | some m =>
      by_cases hcontained : e.Contained c service
      · exact Option.some.inj (hr.symm.trans ((h.response_of_message hm).1 hcontained))
      · rw [h.unanswered hcontained] at hr
        cases hr

end Message

section Visit

variable {c : Connector} {mount : Http.Mount} {v : Visit}

/-- A visit that reaches the webhook meets its fate. -/
theorem receiveVisit_meets (service : Service) (before : Nat)
    (h : Connector.Reaches mount v.request) :
    (c.receiveVisit mount service before v).Meets c service (v.fate c) := by
  obtain ⟨o, ho, hserve⟩ := Connector.serve_follows c v.engine ⟨v.now, service, before⟩ h
  have hout : (c.receiveVisit mount service before v).outcome
      = { o with response := o.response.map Http.Response.withLength } := hserve
  refine ⟨?_, ?_, ?_⟩
  · rw [hout]
    exact congrArg (Option.map Http.Response.withLength) ho.response
  · rw [hout]
    exact ho.delivered
  · rw [hout]
    exact ho.sent

/-- A visit that does not reach the webhook is answered in one way, whatever engine it meets, and
nothing is done about it. -/
theorem receiveVisit_aside (h : ¬ Connector.Reaches mount v.request) :
    ∃ response, ∀ service before engine,
      (c.receiveVisit mount service before { v with engine }).Idle ∧
      (c.receiveVisit mount service before { v with engine }).outcome.response
        = some response := by
  obtain ⟨response, hserve⟩ := Connector.serve_aside h
  refine ⟨response, fun service before engine => ?_⟩
  have hout : (c.receiveVisit mount service before { v with engine }).outcome
      = Connector.Circumstances.answered ⟨v.now, service, before⟩ response [] :=
    hserve c engine ⟨v.now, service, before⟩
  exact ⟨⟨by rw [hout]; rfl, by rw [hout]; rfl, by rw [hout]; rfl⟩, by rw [hout]; rfl⟩

end Visit

section History

variable {c : Connector} {mount : Http.Mount} {service : Service} {before : Nat}
  {visits : List Visit} {e : Exchange}

/-- In every history, a visit that reaches the webhook meets its fate. -/
theorem meets_fate_of_mem (he : e ∈ c.history mount service before visits)
    (h : Connector.Reaches mount e.visit.request) : e.Meets c service (e.visit.fate c) := by
  rw [Connector.eq_receiveVisit_of_mem he]
  exact receiveVisit_meets service e.before h

/-- In every history, nothing is done about a visit that does not reach the webhook. -/
theorem idle_of_mem (he : e ∈ c.history mount service before visits)
    (h : ¬ Connector.Reaches mount e.visit.request) : e.Idle := by
  obtain ⟨_, hidle⟩ := receiveVisit_aside (c := c) h
  rw [Connector.eq_receiveVisit_of_mem he]
  exact (hidle service e.before e.visit.engine).1

end History
end Switchboard
