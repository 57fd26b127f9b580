/-
# Clicks come back

A button goes out as an action of an attachment, and a click on it comes back as a form whose payload
field is a printed report with this action in it.  Through both layers of escapes the payload of the
button comes back as it was, whatever other fields stand around the report.
-/
import Switchboard.Connector.Webhook
import Switchboard.Proofs.Http.Header
import Switchboard.Proofs.Inbound.Form
import Switchboard.Proofs.Record.Printed

namespace Switchboard.Inbound

/-! ## The report of a click -/

/-- The members of the report of a click on an action. -/
def clickReport (action : Json) (user : String) : List (String × Json) :=
  [("type", .text "interactive_message"), ("actions", .array [action]),
    ("user", .object [("id", .text user)])]

/-- Members that report a click on an action by a user.  They may say more of the user and of the
click, as long as they say nothing twice. -/
structure Reports (action : Json) (user : String) (members : List (String × Json)) : Prop where
  exact : ∀ m ∈ members, Json.Exact m.2
  kind : Record.Once members "type" (.text "interactive_message")
  actions : Record.Once members "actions" (.array [action])
  user : ∃ about, Record.Once members "user" (.object about) ∧ Record.Once about "id" (.text user)

theorem exact_clickReport (b : Button) (user : String) :
    ∀ m ∈ clickReport (Outbound.action b) user, Json.Exact m.2 := by
  have haction : Json.Exact (Outbound.action b) := by
    refine .object fun m hm => ?_
    simp only [List.mem_cons, List.not_mem_nil, or_false] at hm
    rcases hm with rfl | rfl | rfl | rfl <;> exact .text _
  intro m hm
  simp only [clickReport, List.mem_cons, List.not_mem_nil, or_false] at hm
  rcases hm with rfl | rfl | rfl
  · exact .text _
  · exact .array fun v hv => List.mem_singleton.mp hv ▸ haction
  · refine .object fun m hm => ?_
    rw [List.mem_singleton.mp hm]
    exact .text user

theorem reports_clickReport (b : Button) (user : String) {members : List (String × Json)}
    (hmembers : members.Perm (clickReport (Outbound.action b) user)) :
    Reports (Outbound.action b) user members where
  exact m hm := exact_clickReport b user m (hmembers.mem_iff.mp hm)
  kind := .of_perm hmembers rfl
  actions := .of_perm hmembers rfl
  user := ⟨[("id", .text user)], .of_perm hmembers rfl, rfl⟩

theorem ClickedAction.ofTerm?_action (b : Button) :
    ofTerm? (Outbound.action b).term = some ⟨some "button", some b.payload⟩ := by
  have hslots : Record.slots? [["type"], ["name"]] (Outbound.action b).term
      = some [.given (Json.text "button").term, .given (Json.text b.payload).term] := by
    rw [Outbound.action, Record.slots?_term]
    rfl
  have htext : ∀ s : String, (Record.Slot.given (Json.text s).term).optional Json.Term.text?
      = some (some s) := by
    intro s
    show (Json.join? (Json.pieces s)).map some = _
    rw [Json.join?_pieces]
    rfl
  rw [ofTerm?, hslots]
  simp only [htext]
  rfl

theorem userId?_term {about : List (String × Json)} {user : String}
    (h : Record.Once about "id" (.text user)) : userId? (Json.object about).term = some user := by
  have hslots : Record.slots? [["id"]] (Json.object about).term
      = some [.given (Json.text user).term] := by
    rw [Record.slots?_term]
    simp only [List.mapM_cons, List.mapM_nil, h.namedSlot?]
    rfl
  rw [userId?, hslots]
  exact Json.join?_pieces user

theorem Interaction.ofTerm?_of_reports {b : Button} {user : String}
    {members : List (String × Json)} (h : Reports (Outbound.action b) user members) :
    ofTerm? (Json.object members).term
      = some ⟨"interactive_message", [⟨some "button", some b.payload⟩], some user⟩ := by
  obtain ⟨about, habout, hid⟩ := h.user
  have hslots : Record.slots? [["type"], ["actions"], ["user"]] (Json.object members).term
      = some [.given (Json.text "interactive_message").term,
          .given (Json.array [Outbound.action b]).term, .given (Json.object about).term] := by
    rw [Record.slots?_term]
    simp only [List.mapM_cons, List.mapM_nil, h.kind.namedSlot?, h.actions.namedSlot?,
      habout.namedSlot?]
    rfl
  have hkind : (Record.Slot.given (Json.text "interactive_message").term).required
      Json.Term.text? = some "interactive_message" := by
    show Json.join? (Json.pieces "interactive_message") = _
    rw [Json.join?_pieces]
  have hactions : (Record.Slot.given (Json.array [Outbound.action b]).term).orDefault []
      (Record.listOf? ClickedAction.ofTerm?) = some [⟨some "button", some b.payload⟩] := by
    show [(Outbound.action b).term].mapM ClickedAction.ofTerm? = _
    rw [List.mapM_cons, ClickedAction.ofTerm?_action]
    rfl
  have huser : (Record.Slot.given (Json.object about).term).optional userId?
      = some (some user) := by
    show (userId? _).map some = _
    rw [userId?_term hid]
    rfl
  rw [ofTerm?, hslots]
  simp only [hkind, hactions, huser]
  rfl

/-- The report of a click on a button is a click, whatever else it says. -/
theorem ofClickText_of_reports {b : Button} {user : String} {members : List (String × Json)}
    (h : Reports (Outbound.action b) user members) :
    Payload.ofClickText (Json.object members).print = (.buttonClick user b.payload, []) := by
  have hread : Json.Term.read? (Json.object members).print.toList
      = some (Json.object members).term := by
    rw [Json.print, String.toList_ofList]
    exact Json.read?_chars (.object h.exact)
  rw [Payload.ofClickText, hread, Option.bind_some, Interaction.ofTerm?_of_reports h]
  rfl

/-! ## The form around the report -/

/-- Of the fields with a key the last one counts. -/
theorem lastValue?_append {key value : String} {before after : List (String × String)}
    (hafter : ∀ field ∈ after, field.1 ≠ key) :
    lastValue? key (before ++ (key, value) :: after) = some value := by
  have hnone : (after.reverse.find? fun p => p.1 == key) = none := by
    refine List.find?_eq_none.mpr fun field hfield => ?_
    simpa using hafter field (List.mem_reverse.mp hfield)
  rw [lastValue?, List.reverse_append, List.reverse_cons, List.append_assoc, List.find?_append,
    hnone]
  simp

/-- The fields of a form decide on its meaning, if there are any. -/
theorem Payload.ofBody_of_form {body : Bytes} {fields : List (String × String)}
    (hfields : formPairs body = fields) (hne : fields ≠ []) :
    Payload.ofBody true body = Payload.ofForm fields := by
  subst hfields
  rw [ofBody, if_pos rfl]
  split
  · rename_i hnil
    exact absurd hnil hne
  · rfl

/-- A form in which a click on a button is reported means the click, whatever fields stand around the
report. -/
theorem classify_of_reports {b : Button} {user : String} {members : List (String × Json)}
    (hreport : Reports (Outbound.action b) user members) {before after : List (String × String)}
    (hafter : ∀ field ∈ after, field.1 ≠ "payload") {body : Bytes}
    (hbody : FormOf (before ++ ("payload", (Json.object members).print) :: after) body)
    {headers : Http.Headers} (hform : Connector.announcesForm headers = true) :
    (Connector.classify headers body).1 = .buttonClick user b.payload := by
  have hmeaning : Payload.ofBody true body = (.buttonClick user b.payload, []) := by
    rw [Payload.ofBody_of_form (formPairs_of_formOf hbody) (by simp), Payload.ofForm,
      lastValue?_append hafter]
    exact ofClickText_of_reports hreport
  rw [Connector.classify, hform, hmeaning]

/-- If a client takes the action that stands for a button, reports a click on it by a user, with the
members of the report in any order, and sends the printed report in the payload field of a form, in
any of the ways of writing forms and with any other fields around it, then the body means that the
user has clicked on the button, and the text is the payload of the button. -/
theorem click_comes_back (bs : List Button) (i : Nat) (action : Json)
    (haction : (Outbound.actions bs)[i]? = some action) (user : String)
    (members : List (String × Json)) (hmembers : members.Perm (clickReport action user))
    (before after : List (String × String)) (hafter : ∀ field ∈ after, field.1 ≠ "payload")
    (body : Bytes)
    (hbody : FormOf (before ++ ("payload", (Json.object members).print) :: after) body)
    (headers : Http.Headers)
    (hheaders : Http.first? headers "content-type"
      = some (Text.encodeString "application/x-www-form-urlencoded")) :
    ∃ b, bs[i]? = some b ∧
      (Connector.classify headers body).1 = .buttonClick user b.payload := by
  rw [Outbound.actions, List.getElem?_map, Option.map_eq_some_iff] at haction
  obtain ⟨b, hb, rfl⟩ := haction
  have hform : Connector.announcesForm headers = true := by
    have hplain : ∀ c ∈ "application/x-www-form-urlencoded".toList, Http.IsPlain c :=
      Http.isPlain_of_all (by decide)
    rw [Connector.announcesForm, Http.text?_eq_some_of_plain hplain hheaders]
    decide
  exact ⟨b, hb, classify_of_reports (reports_clickReport b user hmembers) hafter hbody hform⟩

/-- A button whose payload holds what both layers of writing escape. -/
def markedButton : Button := ⟨"Maybe", "\"50%\" + \\ & =\n😀"⟩

/-- A click on the second of two buttons comes back through a form whose fields around the report have
marks in their keys or bear the same key. -/
theorem marked_payload_comes_back :
    (Connector.classify [("Content-Type", Text.encodeString "application/x-www-form-urlencoded")]
        (formBody [("payload", "mine"), ("a&b=", "1"),
          ("payload", (Json.object (clickReport (Outbound.action markedButton) "Ü1").reverse).print),
          ("Payload", "")])).1
      = .buttonClick "Ü1" "\"50%\" + \\ & =\n😀" := by
  obtain ⟨b, hb, hclick⟩ := click_comes_back [⟨"Yes", "yes"⟩, markedButton] 1 _ rfl "Ü1"
    (clickReport (Outbound.action markedButton) "Ü1").reverse (List.reverse_perm _)
    [("payload", "mine"), ("a&b=", "1")] [("Payload", "")] (by simp) _ (formOf_formBody _)
    [("Content-Type", Text.encodeString "application/x-www-form-urlencoded")] (by decide)
  cases hb
  exact hclick

end Switchboard.Inbound
