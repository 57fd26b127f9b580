/-
# The conversation

What the server says in a run of requests in which no post fails.  A message that reaches the engine
is answered with one post, and a request that says nothing leads to none.  A message that is said back
comes with two quick replies, and a click on either of them is a message in its turn, answered without
quick replies, unless it comes while the clock shows a moment without a date: then it is dropped, and the
conversation breaks off.  All this is `one_post_for_each_message`.

That there is one post is the matter of `sent_echo`.  Buttons keep a text from being cut into
paragraphs, and the answers that go out without buttons have one paragraph each.
-/
import Switchboard.Proofs.Connector.Recipient
import Switchboard.Proofs.Inbound.Click
import Switchboard.Server.App

namespace Switchboard

open Inbound Outbound Connector

/-! ## Answers -/

/-- A post that carries a text and nothing besides. -/
structure Outbound.SlackPost.Plain (p : SlackPost) : Prop where
  text : ∃ s, p.text = some s ∧ s ≠ ""
  attachments : p.attachments = none

/-- A post with one attachment, which shows two actions, and both of them are buttons. -/
def Outbound.SlackPost.Offers (p : SlackPost) (first second : Json) : Prop :=
  ∃ shown, p.attachments = some (.array [shown]) ∧
    shown.get? "actions" = some (.array [first, second]) ∧
    first.get? "type" = some (.text "button") ∧ second.get? "type" = some (.text "button")

/-- The post that says a text back. -/
def saidBack (channel text : String) : SlackPost where
  channel
  text := some ("You said: " ++ text)
  attachments := some (.array [buttonAttachment ("You said: " ++ text) Engine.echoButtons])

/-- The post that answers a message. -/
def echoPost (c : Connector) (m : UserMessage) : SlackPost :=
  if m.text = "/affirm" then { channel := c.channel.getD m.sender, text := some "Great!" }
  else if m.text = "/deny" then
    { channel := c.channel.getD m.sender, text := some "Maybe next time." }
  else saidBack (c.channel.getD m.sender) m.text

theorem channel_echoPost (c : Connector) (m : UserMessage) :
    (echoPost c m).channel = c.channel.getD m.sender := by
  unfold echoPost
  split
  · rfl
  · split <;> rfl

theorem plain_echoPost (c : Connector) {m : UserMessage} (h : m.text = "/affirm" ∨ m.text = "/deny") :
    (echoPost c m).Plain := by
  rcases h with h | h <;> rw [echoPost, h]
  · exact ⟨⟨_, rfl, by decide⟩, rfl⟩
  · exact ⟨⟨_, rfl, by decide⟩, rfl⟩

theorem offers_saidBack (channel text : String) :
    (saidBack channel text).Offers (action ⟨"Yes", "/affirm"⟩) (action ⟨"No", "/deny"⟩) :=
  ⟨_, rfl, rfl, rfl, rfl⟩

/-- A text of one paragraph goes out as one post. -/
theorem slackText_of_paragraph {message : String} (h : paragraphs message = [message])
    (channel : String) :
    slackText channel message = .single { channel, text := some message } >> .done := by
  rw [slackText, h]
  rfl

/-- Where no post fails, the reply to a message is a single post. -/
theorem run_respond_echo (c : Connector) (m : UserMessage) (o : Outbox SlackPost) :
    (c.output.respond m.sender (Engine.echoResponse m.text)).run .faultless o
      = (o.attempt (echoPost c m) none, none) := by
  have hplain : ∀ message, paragraphs message = [message] →
      (c.output.respond m.sender (.ofText message)).run .faultless o
        = (o.attempt { channel := c.channel.getD m.sender, text := some message } none,
          none) := by
    intro message h
    show ((slackText _ message) >> _).run _ _ = _
    rw [slackText_of_paragraph h]
    rfl
  unfold Engine.echoResponse echoPost
  split
  · exact hplain "Great!" (by decide)
  · split
    · exact hplain "Maybe next time." (by decide)
    · rfl

/-- Where no post fails, a message is answered with one. -/
theorem sent_echo (c : Connector) (now : Int) (before : Nat) (m : UserMessage) :
    Circumstances.sent ⟨now, .faultless, before⟩ c Engine.echo (some m)
      = ([echoPost c m], before + 1) := by
  simp only [Circumstances.sent, Engine.echo, Engine.Script.run, Engine.Script.replies,
    run_respond_echo]
  rfl

/-! ## Exchanges -/

/-- An exchange in which one message is delivered, and one post is made about it: to the channel of
the credentials, or else to the sender. -/
structure Exchange.Answers (e : Exchange) (channel : Option String) (m : UserMessage)
    (p : SlackPost) : Prop where
  delivered : e.outcome.delivered = [m]
  posts : e.outcome.posts = [p]
  attempts : e.outcome.attempts = e.before + 1
  channel : p.channel = channel.getD m.sender

/-- A visit that reports as a form that a user has clicked on an action. -/
structure Visit.Clicks (v : Visit) (mount : Http.Mount) (action : Json) (user : String) :
    Prop where
  reaches : Reaches mount v.request
  form : announcesForm v.request.headers = true
  report : ∃ members before after, Reports action user members ∧
    (∀ field ∈ after, field.1 ≠ "payload") ∧
    FormOf (before ++ ("payload", (Json.object members).print) :: after) v.request.body

/-- The clicks on an action that stands for a button say the payload of the button. -/
theorem Visit.Clicks.payload_eq {v : Visit} {mount : Http.Mount} {b : Button} {user : String}
    (h : v.Clicks mount (action b) user) : v.payload = .buttonClick user b.payload := by
  obtain ⟨members, before, after, hreport, hafter, hbody⟩ := h.report
  exact classify_of_reports hreport hafter hbody h.form

section Exchange

variable {c : Connector} {mount : Http.Mount} {before : Nat} {visits : List Visit} {e : Exchange}

/-- Where the echo engine is met and no post fails, a delivery is answered. -/
theorem Exchange.Meets.answers {f : Fate} (h : e.Meets c .faultless f)
    (hengine : e.visit.engine = Engine.echo) {m : UserMessage}
    (hm : f.message? c e.visit.now = some m) : e.Answers c.channel m (echoPost c m) := by
  have hsent := h.sent
  rw [hm, hengine, sent_echo, Prod.mk.injEq] at hsent
  refine ⟨?_, hsent.1, hsent.2, channel_echoPost c m⟩
  rw [h.delivered, hm]
  rfl

/-- In a history with the echo engine, an exchange is idle or its message is answered. -/
theorem idle_or_answers (he : e ∈ c.history mount .faultless before visits)
    (hengine : e.visit.engine = Engine.echo) :
    e.Idle ∨ ∃ m, e.Answers c.channel m (echoPost c m) := by
  by_cases hreach : Reaches mount e.visit.request
  · have hmeets := meets_fate_of_mem he hreach
    cases hm : (e.visit.fate c).message? c e.visit.now with
    | none => exact .inl (hmeets.idle hm)
    | some m => exact .inr ⟨m, hmeets.answers hengine hm⟩
  · exact .inl (idle_of_mem he hreach)

/-- A click that is let in is to be delivered. -/
theorem earns_click {v : Visit} {b : Button} {user : String}
    (hclick : v.Clicks mount (action b) user) (hadmitted : v.Admitted c) : v.Earns c .delivered := by
  refine ⟨hadmitted, user, b.payload, ?_⟩
  rw [hclick.payload_eq]
  rfl

/-- In a history with the echo engine, a click that is let in at a moment with a date is answered. -/
theorem answers_click {b : Button} {user : String}
    (he : e ∈ c.history mount .faultless before visits)
    (hengine : e.visit.engine = Engine.echo) (hclick : e.visit.Clicks mount (action b) user)
    (hadmitted : e.visit.Admitted c) (hdate : e.visit.Datable c) :
    ∃ m : UserMessage, m.sender = user ∧ m.text = b.payload ∧
      e.Answers c.channel m (echoPost c m) := by
  have hmeets := meets_fate_of_mem he hclick.reaches
  have hfate : e.visit.fate c = .delivered user b.payload := by
    rw [Visit.fate_of_admitted hadmitted, hclick.payload_eq]
    rfl
  obtain ⟨moment, -, hmessage⟩ := e.visit.exists_message_of_datable hfate hdate
  exact ⟨c.userMessage user b.payload moment, rfl, rfl, hmeets.answers hengine hmessage⟩

/-- A click that is let in at a moment without a date is dropped. -/
theorem dropped_click {b : Button} {user : String} {service : Service}
    (he : e ∈ c.history mount service before visits) (hclick : e.visit.Clicks mount (action b) user)
    (hadmitted : e.visit.Admitted c)
    (hclock : ¬ (0 ≤ e.visit.now ∧ e.visit.now ≤ Instant.lastMoment)) :
    e.outcome.response = none ∧ e.Idle := by
  refine (meets_fate_of_mem he hclick.reaches).dropped fun hdate => ?_
  exact hclock (hdate (earns_click hclick hadmitted))

/-- In a history with the echo engine, a click on a quick reply that is let in is answered with a text if
the clock shows a moment with a date, and else it is dropped. -/
theorem quick_reply_answered_or_dropped {b : Button} {user : String}
    (hquick : b.payload = "/affirm" ∨ b.payload = "/deny")
    (he : e ∈ c.history mount .faultless before visits)
    (hengine : e.visit.engine = Engine.echo) (hclick : e.visit.Clicks mount (action b) user)
    (hadmitted : e.visit.Admitted c) :
    (0 ≤ e.visit.now ∧ e.visit.now ≤ Instant.lastMoment →
      ∃ m p, m.sender = user ∧ e.Answers c.channel m p ∧ p.Plain) ∧
    (¬ (0 ≤ e.visit.now ∧ e.visit.now ≤ Instant.lastMoment) →
      e.outcome.response = none ∧ e.Idle) := by
  refine ⟨fun hclock => ?_, fun hclock => dropped_click he hclick hadmitted hclock⟩
  obtain ⟨m, hsender, htext, hanswers⟩ :=
    answers_click he hengine hclick hadmitted fun _ => hclock
  rw [← htext] at hquick
  exact ⟨m, _, hsender, hanswers, plain_echoPost c hquick⟩

end Exchange

/-! ## Runs of the application -/

/-- What comes of requests at the application, each with the moment at which it comes, where no post
fails. -/
def Server.App.history (app : App) (before : Nat) (requests : List (Int × Http.Request)) :
    List Exchange :=
  app.connector.history app.mount .faultless before
    (requests.map fun r => ⟨r.1, r.2, Engine.echo⟩)

theorem Server.App.engine_of_mem {app : App} {before : Nat}
    {requests : List (Int × Http.Request)} {e : Exchange} (he : e ∈ app.history before requests) :
    e.visit.engine = Engine.echo := by
  have hvisit := List.mem_map_of_mem (f := Exchange.visit) he
  rw [Server.App.history, history_visits] at hvisit
  obtain ⟨r, -, hr⟩ := List.mem_map.mp hvisit
  rw [← hr]

/-- The channel of a connector is the one of the credentials. -/
theorem channel_of_connector {s : Settings} {c : Connector} (h : Server.connector s = .ok c) :
    c.channel = s.credentials.bind Credentials.channel := by
  unfold Server.connector at h
  cases hs : s.credentials with
  | none =>
      rw [hs] at h
      cases h
  | some credentials =>
      rw [hs] at h
      cases hc : ofCredentials (some credentials) with
      | error e =>
          rw [hc] at h
          cases h
      | ok c' =>
          rw [hc] at h
          cases h
          exact (ofCredentials_eq_ok hc).1

theorem connector_of_mount {s : Settings} {c : Connector} {app : Server.App}
    (h : Server.mount? s c = some app) : app.connector = c := by
  obtain ⟨m, -, rfl⟩ := Option.map_eq_some_iff.mp h
  rfl

/-- In every run of an application that settings make, in which no post fails, a message that is
delivered is answered with one post, to the channel of the credentials or else to its sender, and
there are no other posts.  The answer to one of the two quick replies is a text.  Any other message is
said back in one piece, with two quick replies.  Each later click on one of these that is let in is
delivered and answered with a text if the clock shows a moment with a date; and else it is dropped, with
no response and no post. -/
theorem one_post_for_each_message {s : Settings} {c : Connector} {app : Server.App}
    (hconnector : Server.connector s = .ok c) (happ : Server.mount? s c = some app) (before : Nat)
    (requests : List (Int × Http.Request)) {earlier later : List Exchange} {e : Exchange}
    (hrun : app.history before requests = earlier ++ e :: later) :
    let channel := s.credentials.bind Credentials.channel
    let yes := action ⟨"Yes", "/affirm"⟩
    let no := action ⟨"No", "/deny"⟩
    (e.outcome.delivered = [] → e.Idle) ∧
    ∀ m ∈ e.outcome.delivered, ∃ p, e.Answers channel m p ∧
      (m.text = "/affirm" ∨ m.text = "/deny" → p.Plain) ∧
      (m.text ≠ "/affirm" → m.text ≠ "/deny" →
        p.text = some ("You said: " ++ m.text) ∧ p.Offers yes no ∧
        ∀ clicked ∈ [yes, no], ∀ e' ∈ later, ∀ user,
          e'.visit.Clicks app.mount clicked user → e'.visit.Admitted c →
          (0 ≤ e'.visit.now ∧ e'.visit.now ≤ Instant.lastMoment →
            ∃ m' p', m'.sender = user ∧ e'.Answers channel m' p' ∧ p'.Plain) ∧
          (¬ (0 ≤ e'.visit.now ∧ e'.visit.now ≤ Instant.lastMoment) →
            e'.outcome.response = none ∧ e'.Idle)) := by
  intro channel yes no
  obtain rfl := connector_of_mount happ
  have hchannel : app.connector.channel = channel := channel_of_connector hconnector
  have hmem : e ∈ app.history before requests := by
    rw [hrun]
    exact List.mem_append_right _ List.mem_cons_self
  rcases idle_or_answers hmem (Server.App.engine_of_mem hmem) with hidle | ⟨m, hanswers⟩
  · refine ⟨fun _ => hidle, fun m hm => ?_⟩
    rw [hidle.delivered] at hm
    cases hm
  · rw [hchannel] at hanswers
    refine ⟨fun hnone => ?_, fun m' hm => ?_⟩
    · rw [hanswers.delivered] at hnone
      cases hnone
    · rw [hanswers.delivered] at hm
      obtain rfl := List.mem_singleton.mp hm
      refine ⟨_, hanswers, plain_echoPost app.connector, fun haffirm hdeny => ?_⟩
      rw [echoPost, if_neg haffirm, if_neg hdeny]
      refine ⟨rfl, offers_saidBack _ _, ?_⟩
      intro clicked hclicked e' he' user hclick hadmitted
      have hmem' : e' ∈ app.history before requests := by
        rw [hrun]
        exact List.mem_append_right _ (List.mem_cons_of_mem _ he')
      obtain ⟨b, hquick, rfl⟩ : ∃ b : Button, (b.payload = "/affirm" ∨ b.payload = "/deny") ∧
          action b = clicked := by
        simp only [List.mem_cons, List.not_mem_nil, or_false] at hclicked
        rcases hclicked with rfl | rfl
        · exact ⟨_, .inl rfl, rfl⟩
        · exact ⟨_, .inr rfl, rfl⟩
      rw [← hchannel]
      exact quick_reply_answered_or_dropped hquick hmem' (Server.App.engine_of_mem hmem') hclick
        hadmitted

/-- Settings with a token and little else. -/
def spareSettings : Settings := ⟨⟨"0.0.0.0", 5005, ""⟩, some { token := some "t" }⟩

/-- The application that these settings make. -/
def spareApp : Server.App :=
  ⟨{ token := "t", ignoredReasons := defaultReasons, activity := Server.activity }, .root⟩

/-- A request that reports a click of the user `U` on a button. -/
def press (b : Button) : Http.Request :=
  { clickRequest with
    body := formBody [("payload", (Json.object (clickReport (action b) "U")).print)] }

/-- A button whose payload has two paragraphs. -/
def greetingButton : Button := ⟨"Hello", "Hi.\n\nAnyone there?"⟩

theorem press_clicks {v : Visit} {b : Button} (hv : v.request = press b)
    (hlength : (press b).body.length ≤ maxBody) : v.Clicks .root (action b) "U" where
  reaches := by
    rw [hv]
    have hpath : ∀ r : Http.Request, r.target = "/webhook" → r.path = "/webhook".toList := by
      intro r hr
      rw [Http.Request.path, hr]
      decide
    exact reaches_root_iff.mpr ⟨hpath _ rfl, rfl, hlength⟩
  form := by
    rw [hv]
    show announcesForm clickRequest.headers = true
    decide +kernel
  report := by
    rw [hv]
    exact ⟨_, [], [], reports_clickReport _ _ (.refl _), by simp, formOf_formBody _⟩

theorem admitted_press (now : Int) (b : Button) :
    (⟨now, press b, Engine.echo⟩ : Visit).Admitted spareApp.connector := by
  refine ⟨?_, rfl⟩
  rintro ⟨count, -, hcount, -⟩
  cases hcount

/-- A request that presses the first quick reply is a click on it. -/
theorem clicks_yes {v : Visit} (hv : v.request = press ⟨"Yes", "/affirm"⟩) :
    v.Clicks .root (action ⟨"Yes", "/affirm"⟩) "U" :=
  press_clicks hv (by decide +kernel)

/-- A click that says two paragraphs, and then a click on the first quick reply. -/
def greetingAndReply (now now' : Int) : List (Int × Http.Request) :=
  [(now, press greetingButton), (now', press ⟨"Yes", "/affirm"⟩)]

theorem exists_greetingAndReply (now now' : Int) :
    ∃ e e' : Exchange, spareApp.history 0 (greetingAndReply now now') = [e, e'] ∧
      e.visit = ⟨now, press greetingButton, Engine.echo⟩ ∧
      e'.visit = ⟨now', press ⟨"Yes", "/affirm"⟩, Engine.echo⟩ := by
  obtain ⟨e, e', hrun⟩ : ∃ e e', spareApp.history 0 (greetingAndReply now now') = [e, e'] :=
    ⟨_, _, rfl⟩
  refine ⟨e, e', hrun, ?_⟩
  have hvisits := congrArg (List.map Exchange.visit) hrun
  rw [Server.App.history, history_visits] at hvisits
  obtain ⟨hfirst, hsecond⟩ : ⟨now, press greetingButton, Engine.echo⟩ = e.visit ∧
      ⟨now', press ⟨"Yes", "/affirm"⟩, Engine.echo⟩ = e'.visit := by
    simpa [greetingAndReply] using hvisits
  exact ⟨hfirst.symm, hsecond.symm⟩

/-- A click on the button with two paragraphs at the moment 1000 is answered. -/
theorem greeting_answered {e : Exchange} {requests : List (Int × Http.Request)}
    (he : e ∈ spareApp.history 0 requests)
    (hvisit : e.visit = ⟨1000, press greetingButton, Engine.echo⟩) :
    ∃ m : UserMessage, m.text = greetingButton.payload ∧
      e.Answers none m (echoPost spareApp.connector m) := by
  obtain ⟨m, -, htext, hanswers⟩ := answers_click he (Server.App.engine_of_mem he)
    (press_clicks (by rw [hvisit]) (by decide +kernel)) (hvisit ▸ admitted_press _ _)
    (hvisit ▸ fun _ => by decide)
  exact ⟨m, htext, hanswers⟩

/-- A click that says two paragraphs, and a click on the first quick reply to it, are answered with one
post each. -/
theorem greeting_and_reply_answered :
    ∃ e e' : Exchange, spareApp.history 0 (greetingAndReply 1000 1001) = [e, e'] ∧
      (∃ m p, e.Answers none m p ∧ p.text = some "You said: Hi.\n\nAnyone there?") ∧
      ∃ m p, e'.Answers none m p ∧ p.Plain := by
  obtain ⟨e, e', hrun, hfirst, hsecond⟩ := exists_greetingAndReply 1000 1001
  have hmem : e ∈ spareApp.history 0 (greetingAndReply 1000 1001) := by
    simp [hrun]
  obtain ⟨m, htext, hgreeting⟩ := greeting_answered hmem hfirst
  have hlaw := (one_post_for_each_message (s := spareSettings) (c := spareApp.connector) rfl rfl 0 _
    (show _ = [] ++ e :: [e'] from hrun)).2
  obtain ⟨p, hanswers, -, hsaidBack⟩ := hlaw m (by simp [hgreeting.delivered])
  obtain ⟨hback, -, hclicks⟩ := hsaidBack (by rw [htext]; decide) (by rw [htext]; decide)
  obtain ⟨m', p', -, hanswers', hplain⟩ := (hclicks _ List.mem_cons_self e' List.mem_cons_self "U"
    (clicks_yes (by rw [hsecond])) (hsecond ▸ admitted_press _ _)).1
    (hsecond ▸ by decide)
  refine ⟨e, e', hrun, ⟨m, p, hanswers, ?_⟩, m', p', hanswers', hplain⟩
  rw [hback, htext]
  rfl

/-- A click that says two paragraphs is answered with two quick replies.  A click on the first of them is
let in, but it comes one second before 1970, and is dropped: no post, and no response. -/
theorem reply_before_1970_unanswered :
    Server.connector spareSettings = .ok spareApp.connector ∧
    Server.mount? spareSettings spareApp.connector = some spareApp ∧
    ∃ e e' : Exchange, spareApp.history 0 (greetingAndReply 1000 (-1)) = [e, e'] ∧
      (∃ m p, e.Answers none m p ∧ p.Offers (action ⟨"Yes", "/affirm"⟩) (action ⟨"No", "/deny"⟩)) ∧
      e'.visit.Clicks spareApp.mount (action ⟨"Yes", "/affirm"⟩) "U" ∧
      e'.visit.Admitted spareApp.connector ∧ e'.outcome.response = none ∧ e'.Idle := by
  obtain ⟨e, e', hrun, hfirst, hsecond⟩ := exists_greetingAndReply 1000 (-1)
  have hmem : e ∈ spareApp.history 0 (greetingAndReply 1000 (-1)) := by
    simp [hrun]
  have hmem' : e' ∈ spareApp.history 0 (greetingAndReply 1000 (-1)) := by
    simp [hrun]
  obtain ⟨m, htext, hgreeting⟩ := greeting_answered hmem hfirst
  have hoffers : (echoPost spareApp.connector m).Offers (action ⟨"Yes", "/affirm"⟩)
      (action ⟨"No", "/deny"⟩) := by
    rw [echoPost, if_neg (by rw [htext]; decide), if_neg (by rw [htext]; decide)]
    exact offers_saidBack _ _
  have hclick : e'.visit.Clicks spareApp.mount (action ⟨"Yes", "/affirm"⟩) "U" :=
    clicks_yes (by rw [hsecond])
  have hadmitted : e'.visit.Admitted spareApp.connector := hsecond ▸ admitted_press _ _
  have hclock : ¬ (0 ≤ e'.visit.now ∧ e'.visit.now ≤ Instant.lastMoment) := by
    rw [hsecond]
    decide
  exact ⟨rfl, rfl, e, e', hrun, ⟨m, _, hgreeting, hoffers⟩, hclick, hadmitted,
    dropped_click hmem' hclick hadmitted hclock⟩

end Switchboard
