/-
# Calls of the web interface

What a client asks of Slack, and what it makes of the answer.  The answer is judged by its content
alone (`Judged`), which is told by what the document says last under two keys; the procedure decides
this (`verdict_iff`).  The main statement, `call_is_made_once_and_judged_by_content`, goes from a post
to the outcome of its call.
-/
import Switchboard.Outbound.WebClient
import Switchboard.Proofs.Json.Member
import Switchboard.Proofs.Message.Response
import Switchboard.Proofs.Text.Lossy
import Switchboard.Proofs.Text.Search

namespace Switchboard.Outbound

open Inbound

/-! ## Answers -/

/-- Bytes of a document that means a value. -/
def IsDocument (body : Bytes) (v : Json) : Prop :=
  ∃ document, body = Text.encode document ∧ Json.read? document = some v

/-- Bytes of a document whose last member with a key has a value. -/
def SaysLast (body : Bytes) (key : String) (v : Json) : Prop :=
  ∃ document, body = Text.encode document ∧ Json.LastMember document key v

/-- What the content of an answer says about a post. -/
inductive Judged (body : Bytes) : Except Failure Unit → Prop where
  | made (h : SaysLast body "ok" (.bool true)) : Judged body (.ok ())
  | refused {reason : String} (hok : ¬ SaysLast body "ok" (.bool true))
      (h : SaysLast body "error" (.text reason)) :
      Judged body (.error (.slack ("Failed to post message: " ++ reason)))
  | unexplained {v : Json} (hv : IsDocument body v) (hok : ¬ SaysLast body "ok" (.bool true))
      (h : ∀ reason, ¬ SaysLast body "error" (.text reason)) :
      Judged body (.error (.slack "Failed to post message: Unknown error"))
  | unreadable (h : ∀ v, ¬ IsDocument body v) :
      Judged body
        (.error (.parsing "Failed to parse chat.postMessage response: error decoding response body"))

theorem isDocument_iff {body : Bytes} {v : Json} :
    IsDocument body v ↔ Payload.bodyJson? body = some v := by
  simp only [IsDocument, Payload.bodyJson?, Option.bind_eq_some_iff, Text.decode?_eq_some_iff]

theorem saysLast_iff {body : Bytes} {key : String} {v : Json} :
    SaysLast body key v ↔ ∃ object, Payload.bodyJson? body = some object ∧
      object.get? key = some v := by
  simp only [SaysLast, Json.lastMember_iff, ← isDocument_iff, IsDocument]
  constructor
  · rintro ⟨document, hbody, object, hread, hget⟩
    exact ⟨object, ⟨document, hbody, hread⟩, hget⟩
  · rintro ⟨object, ⟨document, hbody, hread⟩, hget⟩
    exact ⟨document, hbody, object, hread, hget⟩

theorem bind_bool?_eq_some_iff {o : Option Json} {b : Bool} :
    o.bind Json.bool? = some b ↔ o = some (.bool b) := by
  rcases o with _ | v
  · simp
  · cases v <;> simp [Json.bool?]

theorem bind_text?_eq_some_iff {o : Option Json} {s : String} :
    o.bind Json.text? = some s ↔ o = some (.text s) := by
  rcases o with _ | v
  · simp
  · cases v <;> simp [Json.text?]

/-- What a document says last, it says in the object that is read. -/
theorem saysLast_iff_of_bodyJson? {body : Bytes} {object : Json}
    (h : Payload.bodyJson? body = some object) {key : String} {v : Json} :
    SaysLast body key v ↔ object.get? key = some v := by
  simp only [saysLast_iff, h, Option.some.injEq, exists_eq_left']

namespace WebClient

section Verdict

variable {answer : ApiAnswer}

theorem verdict_of_unreadable (h : Payload.bodyJson? answer.content = none) :
    verdict answer = .error unreadable := by
  rw [verdict, h]

theorem verdict_of_ok {v : Json} (h : Payload.bodyJson? answer.content = some v)
    (hok : v.get? "ok" = some (.bool true)) : verdict answer = .ok () := by
  rw [verdict, h]
  exact if_pos (bind_bool?_eq_some_iff.mpr hok)

theorem verdict_of_not_ok {v : Json} (h : Payload.bodyJson? answer.content = some v)
    (hok : v.get? "ok" ≠ some (.bool true)) :
    verdict answer = .error (refused (((v.get? "error").bind Json.text?).getD "Unknown error")) := by
  rw [verdict, h]
  exact if_neg (mt bind_bool?_eq_some_iff.mp hok)

theorem judged_verdict (answer : ApiAnswer) : Judged answer.content (verdict answer) := by
  cases hbody : Payload.bodyJson? answer.content with
  | none =>
      rw [verdict_of_unreadable hbody]
      refine .unreadable fun v hv => ?_
      rw [isDocument_iff, hbody] at hv
      cases hv
  | some v =>
      have hlast : ∀ {key : String} {w : Json}, SaysLast answer.content key w ↔ v.get? key = some w :=
        saysLast_iff_of_bodyJson? hbody
      by_cases hok : v.get? "ok" = some (.bool true)
      · rw [verdict_of_ok hbody hok]
        exact .made (hlast.mpr hok)
      · rw [verdict_of_not_ok hbody hok]
        cases hreason : (v.get? "error").bind Json.text? with
        | none =>
            refine .unexplained (isDocument_iff.mpr hbody) (mt hlast.mp hok) fun reason h => ?_
            rw [bind_text?_eq_some_iff.mpr (hlast.mp h)] at hreason
            cases hreason
        | some reason =>
            exact .refused (mt hlast.mp hok) (hlast.mpr (bind_text?_eq_some_iff.mp hreason))

/-- The verdict on an answer is what its content says. -/
theorem verdict_iff {outcome : Except Failure Unit} :
    verdict answer = outcome ↔ Judged answer.content outcome := by
  constructor
  · rintro rfl
    exact judged_verdict answer
  · intro h
    cases h with
    | made h =>
        obtain ⟨v, hbody, hok⟩ := saysLast_iff.mp h
        exact verdict_of_ok hbody hok
    | refused hok h =>
        obtain ⟨v, hbody, hreason⟩ := saysLast_iff.mp h
        rw [saysLast_iff_of_bodyJson? hbody] at hok
        rw [verdict_of_not_ok hbody hok, bind_text?_eq_some_iff.mpr hreason]
        rfl
    | @unexplained v hv hok h =>
        have hbody := isDocument_iff.mp hv
        have hreason : (v.get? "error").bind Json.text? = none :=
          Option.eq_none_iff_forall_ne_some.mpr fun reason hreason =>
            h reason ((saysLast_iff_of_bodyJson? hbody).mpr (bind_text?_eq_some_iff.mp hreason))
        rw [saysLast_iff_of_bodyJson? hbody] at hok
        rw [verdict_of_not_ok hbody hok, hreason]
        rfl
    | unreadable h =>
        refine verdict_of_unreadable (Option.eq_none_iff_forall_ne_some.mpr fun v hv => ?_)
        exact h v (isDocument_iff.mpr hv)

end Verdict

end WebClient

/-! ## Requests -/

/-- Whether an address is the one of the call below a base, without the slashes at its end. -/
def IsCallAddress (base address : String) : Prop :=
  ∃ front n, base.toList = front ++ List.replicate n '/' ∧ ¬ ['/'] <:+ front ∧
    address.toList = front ++ "/chat.postMessage".toList

/-- Whether a token and an address make a request to a URL: the address is read as the URL, up to the
user, who gives way to the token; the URL can be requested; and the token may stand in a header. -/
structure FormsRequest (token address : String) (url : Http.Url) : Prop where
  reads : ∃ u, Http.Url.read? address = some u ∧ u.withoutUser = url
  hasHost : url.hasHost = true
  isRequestable : url.isRequestable = true
  isHeaderText : WebClient.isHeaderText token = true

/-- Whether an answer with this status has content. -/
structure CarriesBody (status : Nat) : Prop where
  final : 200 ≤ status
  ne_noContent : status ≠ 204
  ne_notModified : status ≠ 304

theorem ApiAnswer.content_of_carriesBody {answer : ApiAnswer} (h : CarriesBody answer.status) :
    answer.content = answer.body := by
  rw [content, if_neg]
  simp [h.ne_noContent, h.ne_notModified]

/-- The members of the object that asks for a post. -/
def SlackPost.members (p : SlackPost) (asUser : Bool) : List (String × Json) :=
  [("channel", .text p.channel), ("as_user", .bool asUser)] ++
    Response.member "text" (p.text.map .text) ++ Response.member "attachments" p.attachments

theorem SlackPost.nodup_keys (p : SlackPost) (asUser : Bool) :
    ((p.members asUser).map Prod.fst).Nodup := by
  obtain ⟨channel, text, attachments⟩ := p
  cases text <;> cases attachments <;> simp [members, Response.member]

theorem SlackPost.settled_of_mem {p : SlackPost} {asUser : Bool} {room : Nat}
    (h : ∀ v ∈ p.attachments, Json.Settled room v) :
    ∀ m ∈ p.members asUser, Json.Settled room m.2 := by
  intro m hm
  simp only [members, List.mem_append, List.mem_cons, List.not_mem_nil, or_false] at hm
  rcases hm with ((rfl | rfl) | htext) | hattachments
  · exact .text p.channel
  · exact .bool asUser
  · exact Response.forall_mem_member (Response.forall_mem_text .text p.text) m htext
  · exact Response.forall_mem_member h m hattachments

namespace WebClient

theorem withBase_address {base address : String} (h : IsCallAddress base address) (c : WebClient) :
    (c.withBase base).base ++ "/chat.postMessage" = address := by
  obtain ⟨front, n, hbase, hfront, haddress⟩ := h
  refine String.toList_injective ?_
  rw [withBase, String.toList_append, hbase, Text.dropRight_append_replicate hfront,
    String.toList_ofList, haddress]

/-- The request for a post to a URL. -/
def call (token : String) (url : Http.Url) (p : SlackPost) (asUser : Bool) : ApiRequest where
  method := "POST"
  url
  authorization := "Bearer " ++ token
  contentType := "application/json"
  body := (p.toJson asUser).print

theorem request_of_forms {c : WebClient} {address : String} {url : Http.Url}
    (haddress : c.base ++ "/chat.postMessage" = address) (h : FormsRequest c.token address url)
    (p : SlackPost) (asUser : Bool) :
    c.request p asUser = .ok (call c.token url p asUser) := by
  obtain ⟨u, hread, rfl⟩ := h.reads
  simp [request, haddress, hread, h.hasHost, h.isHeaderText, h.isRequestable, call]

/-- Where a server answers, one request was sent, and the outcome is the verdict on the answer. -/
theorem post_of_answer {c : WebClient} {p : SlackPost} {asUser : Bool} {r : ApiRequest}
    (hrequest : c.request p asUser = .ok r) {transport : Transport} {answer : ApiAnswer}
    (hanswer : transport r = some answer) :
    (c.post transport p asUser).sent = [r] ∧
      (c.post transport p asUser).outcome = verdict answer := by
  simp only [post, hrequest, hanswer]
  cases verdict answer <;> exact ⟨rfl, rfl⟩

/-- A client makes one request for a post: to the call below its base, under the token, with a document
that says the channel, whether the post is the bot's own, and the text and the attachments if there are
any, and nothing else.  Whatever the status of the answer, the post is made if the last word of its
content on `ok` is true, and else it is refused with the reason that the content gives last; and content
that is no document cannot be understood. -/
theorem call_is_made_once_and_judged_by_content {base address token : String} {url : Http.Url}
    (haddress : IsCallAddress base address) (hforms : FormsRequest token address url)
    (p : SlackPost) (asUser : Bool)
    (hattachments : ∀ v ∈ p.attachments, Json.Settled (Json.maxNesting - 1) v) :
    ∃ r : ApiRequest, r.method = "POST" ∧ r.url = url ∧ r.authorization = "Bearer " ++ token ∧
      r.contentType = "application/json" ∧
      (∃ members, Json.read? r.body.toList = some (.object members) ∧
        members.Perm ([("channel", .text p.channel), ("as_user", .bool asUser)] ++
          Response.member "text" (p.text.map .text) ++
          Response.member "attachments" p.attachments)) ∧
      ∀ (transport : Transport) (answer : ApiAnswer), transport r = some answer →
        CarriesBody answer.status →
        let report := (withBase { token } base).post transport p asUser
        report.sent = [r] ∧ ∀ outcome, report.outcome = outcome ↔ Judged answer.body outcome := by
  have hrequest := request_of_forms (withBase_address haddress { token }) hforms p asUser
  refine ⟨call token url p asUser, rfl, rfl, rfl, rfl, ?_, fun transport answer hanswer hcarries => ?_⟩
  · exact Json.exists_read?_print (p.nodup_keys asUser) (p.settled_of_mem hattachments)
  · obtain ⟨hsent, houtcome⟩ := post_of_answer hrequest hanswer
    refine ⟨hsent, fun outcome => ?_⟩
    rw [houtcome, verdict_iff, answer.content_of_carriesBody hcarries]

/-- The URL of the call on the own machine. -/
def ownUrl : Http.Url := ⟨"http", some ⟨"", none, "[::1]", none⟩, "/chat.postMessage", none, none⟩

theorem formsRequest_ownUrl : FormsRequest "t" "http://[::1]/chat.postMessage" ownUrl where
  reads := ⟨ownUrl, by decide +kernel, by decide +kernel⟩
  hasHost := rfl
  isRequestable := by decide +kernel
  isHeaderText := rfl

/-- What comes of a post with an attachment of null, where every request is answered like this. -/
def answeredWith (status : Nat) (body : String) : Except Failure Unit :=
  ((withBase { token := "t" } "http://[::1]//").post (fun _ => some ⟨status, Text.encodeString body⟩)
    ⟨"C1", some "hi", some .null⟩).outcome

/-- The last `ok` counts, under any status, and a page is no document, although its status is good. -/
theorem content_counts_and_status_does_not :
    answeredWith 500 (Json.object ([("ok", .bool false)] ++ [("ok", .bool true)])).print = .ok () ∧
      answeredWith 200 "<html>" = .error (.parsing
        "Failed to parse chat.postMessage response: error decoding response body") := by
  have haddress : IsCallAddress "http://[::1]//" "http://[::1]/chat.postMessage" :=
    ⟨"http://[::1]".toList, 2, rfl, by decide, rfl⟩
  obtain ⟨r, -, -, -, -, -, hcall⟩ := call_is_made_once_and_judged_by_content haddress
    formsRequest_ownUrl ⟨"C1", some "hi", some .null⟩ true (fun v hv => by cases hv; exact .null)
  have hjudged : ∀ status body, CarriesBody status → ∀ outcome,
      answeredWith status body = outcome ↔ Judged (Text.encodeString body) outcome :=
    fun status body hcarries =>
      (hcall (fun _ => some ⟨status, Text.encodeString body⟩) _ rfl hcarries).2
  refine ⟨(hjudged 500 _ ⟨by decide, by decide, by decide⟩ _).mpr (.made ⟨_, rfl, ?_⟩),
    (hjudged 200 _ ⟨by decide, by decide, by decide⟩ _).mpr (.unreadable fun v hv => ?_)⟩
  · have hsettled : ∀ m ∈ [("ok", Json.bool false)] ++ ("ok", Json.bool true) :: [],
        Json.Settled (Json.maxNesting - 1) m.2 := by
      intro m hm
      simp only [List.mem_append, List.mem_singleton] at hm
      rcases hm with rfl | rfl <;> exact .bool _
    exact Json.lastMember_print (fun m hm => absurd hm List.not_mem_nil) hsettled
  · obtain ⟨document, hbody, hread⟩ := hv
    obtain rfl : "<html>".toList = document := Text.encode_injective hbody
    have hterm : Json.Term.read? "<html>".toList = none := by decide +kernel
    rw [Json.read?, hterm] at hread
    cases hread

end WebClient

end Switchboard.Outbound
