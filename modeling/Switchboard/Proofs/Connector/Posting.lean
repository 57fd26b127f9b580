/-
# Posting through the client

Histories run over a service that says of each attempt to post whether it gets through.  A connector
posts through a client under its own token, and what the client makes of a server's answers is such a
service (`WebClient.service`): whether a post gets through is settled by the client and the answer, and
not by what is posted.  So what is proved about every service holds where a client posts.

`attempts_fare_as_with_the_client` says that in every history over this service each attempt fares as it
does with the client.  A server may look at what it is asked; in each run it gives some row of answers, and
the rows are arbitrary here.  What the client notes by itself (`postedEvent`) is not in the log of a
history.  The failures that the client has by itself come in as well: under a token that
cannot stand in a header nothing is posted (`nothing_posted_under_unfit_token`).
-/
import Switchboard.Outbound.WebClient
import Switchboard.Proofs.Connector.Recipient

namespace Switchboard

open Outbound Connector

/-! ## Addresses of the web -/

namespace Http.Url

section Host

variable {kind : Kind} {host : String}

/-- Only other schemes do without a host. -/
theorem isEmpty_of_hostPort? (hkind : kind ≠ .other) {s : List Char} {port : Option (List Char)}
    {number : Option Nat} (h : hostPort? kind s port = some (host, number)) :
    host.isEmpty = false := by
  simp only [hostPort?, if_neg hkind, Option.bind_eq_bind, Option.bind_eq_some_iff] at h
  obtain ⟨found, -, h⟩ := h
  by_cases hempty : found.isEmpty = true
  · rw [if_pos (by simp [hempty, hkind])] at h
    cases h
  · rw [if_neg (by simp [hempty]), Option.bind_eq_some_iff] at h
    obtain ⟨_, -, h⟩ := h
    cases h
    exact Bool.not_eq_true _ ▸ hempty

theorem isEmpty_of_authority? (hkind : kind ≠ .other) {s more : List Char} {a : Authority}
    (h : authority? kind s = some (a, more)) : a.host.isEmpty = false := by
  simp only [authority?, Option.bind_eq_bind, Option.bind_eq_some_iff] at h
  obtain ⟨⟨host, number⟩, hhost, h⟩ := h
  have hnonempty : host.isEmpty = false := isEmpty_of_hostPort? hkind hhost
  rw [if_neg (by simp [hnonempty])] at h
  cases h
  exact hnonempty

end Host

/-- A URL of the web has a host. -/
theorem hasHost_of_web {text scheme : String} {rest : List Char} {port : Nat} {u : Url}
    (hscheme : scheme? (cleaned text.toList) = some (scheme, rest)) (hkind : kindOf scheme = .web port)
    (h : read? text = some u) : u.hasHost = true := by
  simp only [read?, hscheme, hkind, front?, afterSlashes?, Option.bind_eq_bind, Option.bind_some,
    Option.bind_eq_some_iff] at h
  obtain ⟨front, ⟨⟨a, more⟩, ha, hfront⟩, h⟩ := h
  cases hfront
  cases h
  have hkind' : Kind.web port ≠ .other := by
    intro hother
    cases hother
  have hnonempty : a.host.isEmpty = false := isEmpty_of_authority? hkind' ha
  show (!a.host.isEmpty) = true
  rw [hnonempty]
  rfl

/-- A URL has a host with its user and without. -/
theorem hasHost_withoutUser (u : Url) : u.withoutUser.hasHost = u.hasHost := by
  unfold withoutUser
  cases ha : u.authority with
  | none => rfl
  | some a =>
      show hasHost (if hasReadableUser a then _ else u) = _
      split
      · rw [hasHost, hasHost, ha]
        rfl
      · rfl

end Http.Url

/-! ## The client as a service -/

namespace Outbound.WebClient

/-- The failure of a post, if it failed. -/
def Report.failure? (r : Report) : Option Failure :=
  match r.outcome with
  | .ok () => none
  | .error failure => some failure

/-- The service of a client whose `n`-th attempt meets the `n`-th answer, if the server can be reached.
Since all posts fare alike, an empty one stands for them. -/
def service (client : WebClient) (answers : Nat → Option ApiAnswer) : Service := fun n =>
  (client.post (fun _ => answers n) { channel := "" }).failure?

variable (client : WebClient)

/-- Two posts make no request, and fail alike, or they make requests to one address. -/
theorem request_alike (p q : SlackPost) :
    (∃ failure, client.request p = .error failure ∧ client.request q = .error failure) ∨
      ∃ r r', client.request p = .ok r ∧ client.request q = .ok r' ∧ r.url = r'.url := by
  unfold request
  cases Http.Url.read? (client.base ++ "/chat.postMessage") with
  | none => exact .inl ⟨_, rfl, rfl⟩
  | some url =>
      simp only
      by_cases hhost : (!url.withoutUser.hasHost) = true
      · rw [if_pos hhost, if_pos hhost]
        exact .inl ⟨_, rfl, rfl⟩
      · rw [if_neg hhost, if_neg hhost]
        by_cases htoken : (!isHeaderText client.token) = true
        · rw [if_pos htoken, if_pos htoken]
          exact .inl ⟨_, rfl, rfl⟩
        · rw [if_neg htoken, if_neg htoken]
          by_cases hurl : (!url.withoutUser.isRequestable) = true
          · rw [if_pos hurl, if_pos hurl]
            exact .inl ⟨_, rfl, rfl⟩
          · rw [if_neg hurl, if_neg hurl]
            exact .inr ⟨_, _, rfl, rfl, rfl⟩

/-- Where the answer is the same, all posts fare alike. -/
theorem failure?_post_congr (answer? : Option ApiAnswer) (p q : SlackPost) :
    (client.post (fun _ => answer?) p).failure? = (client.post (fun _ => answer?) q).failure? := by
  unfold post
  rcases client.request_alike p q with ⟨failure, hp, hq⟩ | ⟨r, r', hp, hq, hurl⟩
  · rw [hp, hq]
  · rw [hp, hq]
    cases answer? with
    | none =>
        show some _ = some _
        rw [hurl]
    | some answer =>
        show Report.failure? (match verdict answer with | .ok () => _ | .error e => _)
          = Report.failure? (match verdict answer with | .ok () => _ | .error e => _)
        cases verdict answer <;> rfl

theorem service_eq (answers : Nat → Option ApiAnswer) (n : Nat) (p : SlackPost) :
    client.service answers n = (client.post (fun _ => answers n) p).failure? :=
  client.failure?_post_congr (answers n) _ p

end Outbound.WebClient

/-! ## Histories -/

/-- The client of a connector. -/
def Connector.client (c : Connector) : WebClient := { token := c.token }

/-- In every history over the service of the connector's client, each attempt fares as it does with the
client, and what is posted are the posts that got through. -/
theorem attempts_fare_as_with_the_client (c : Connector) (mount : Http.Mount)
    (answers : Nat → Option ApiAnswer) (before : Nat) (visits : List Visit) :
    let service := c.client.service answers
    ∀ e ∈ c.history mount service before visits,
      e.outcome.posts = accepted (e.attempted c service) ∧
      ∀ k a, (e.attempted c service)[k]? = some a →
        a.failure = (c.client.post (fun _ => answers (e.before + 1 + k)) a.item).failure? := by
  intro service e he
  have htried := tried_of_mem he
  refine ⟨htried.posts, fun k a ha => ?_⟩
  have hk : k < (e.attempted c service).length := (List.getElem?_eq_some_iff.mp ha).1
  have hfailure := congrArg (fun row => row[k]?) htried.answers
  simp only [List.getElem?_map, ha, List.getElem?_range' hk, Option.map_some, Option.some.injEq,
    Nat.one_mul] at hfailure
  rw [hfailure]
  exact c.client.service_eq answers _ a.item

/-- Under a token that cannot stand in a header no request can be made. -/
theorem request_of_unfit_token {c : Connector} (h : WebClient.isHeaderText c.token = false)
    (p : SlackPost) : c.client.request p = .error (WebClient.unsent "builder error") := by
  have htoken : WebClient.isHeaderText c.client.token = false := h
  have haddress : c.client.base ++ "/chat.postMessage" = "https://slack.com/api/chat.postMessage" := by
    rfl
  rw [WebClient.request, haddress]
  -- An address that cannot be read makes the same failure, so only the host has to be known.
  cases hread : Http.Url.read? "https://slack.com/api/chat.postMessage" with
  | none => rfl
  | some url =>
      have hhost : url.withoutUser.hasHost = true := by
        rw [Http.Url.hasHost_withoutUser]
        have hscheme : Http.Url.scheme? (Http.Url.cleaned
            "https://slack.com/api/chat.postMessage".toList)
              = some ("https", "//slack.com/api/chat.postMessage".toList) := by
          decide +kernel
        exact Http.Url.hasHost_of_web hscheme rfl hread
      simp only [hhost, htoken, Bool.not_true, Bool.not_false, Bool.false_eq_true, if_true, if_false]

theorem post_of_unfit_token {c : Connector} (h : WebClient.isHeaderText c.token = false)
    (transport : Transport) (p : SlackPost) :
    c.client.post transport p = { outcome := .error (WebClient.unsent "builder error") } := by
  rw [WebClient.post, request_of_unfit_token h]

/-- Where the token of a connector cannot stand in a header, every attempt to post fails, whatever a
server would answer, and nothing is posted. -/
theorem nothing_posted_under_unfit_token {c : Connector}
    (htoken : WebClient.isHeaderText c.token = false) (mount : Http.Mount)
    (answers : Nat → Option ApiAnswer) (before : Nat) (visits : List Visit) :
    let service := c.client.service answers
    ∀ e ∈ c.history mount service before visits,
      e.outcome.posts = [] ∧
      ∀ a ∈ e.attempted c service,
        a.failure = some (.network "Failed to send message: builder error") := by
  intro service e he
  obtain ⟨hposts, hfares⟩ := attempts_fare_as_with_the_client c mount answers before visits e he
  have hfails : ∀ a ∈ e.attempted c service,
      a.failure = some (.network "Failed to send message: builder error") := by
    intro a ha
    obtain ⟨k, hk⟩ := List.getElem?_of_mem ha
    rw [hfares k a hk, post_of_unfit_token htoken]
    rfl
  refine ⟨?_, hfails⟩
  rw [hposts, accepted, List.map_eq_nil_iff, List.filter_eq_nil_iff]
  intro a ha
  rw [hfails a ha]
  exact Bool.false_ne_true

/-- A connector takes a token with a line break, which cannot stand in a header. -/
example : ∃ c, Connector.ofCredentials (some { token := some "t\n" }) = .ok c ∧
    WebClient.isHeaderText c.token = false :=
  ⟨_, rfl, by decide⟩

end Switchboard
