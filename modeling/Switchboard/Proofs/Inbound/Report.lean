/-
# What a form body means

The grammar of click reports as they are written (`IsReport`), as objects and as lists, and the main
statement, `form_means_a_click_or_nothing`: a body that is announced as a form means a click exactly if
the last piece with the payload key says a report of one, and else nothing.  Other pieces do not change
this, and neither do well-formed actions behind the first (`AlikeInFirstAction`).
-/
import Switchboard.Connector.Webhook
import Switchboard.Proofs.Http.Header
import Switchboard.Proofs.Inbound.Pairs
import Switchboard.Proofs.Json.RoundTrip
import Switchboard.Proofs.Record.Grammar

namespace Switchboard.Inbound

open Record

/-! ## The grammar -/

/-- Members as written and with their keys joined. -/
def Keyed (written : List (List Json.Piece × Json.Term)) (members : List (String × Json.Term)) :
    Prop :=
  List.Forall₂ (fun w m => Json.join? w.1 = some m.1 ∧ w.2 = m.2) written members

/-- An action that names its fields, or lists both of them. -/
inductive IsAction : Json.Term → ClickedAction → Prop where
  | named {written : List (List Json.Piece × Json.Term)} {members : List (String × Json.Term)}
      {kind name : Option String} (hkeys : Keyed written members)
      (hkind : Field (NullOr IsText) none members "type" kind)
      (hname : Field (NullOr IsText) none members "name" name) :
      IsAction (.object written) ⟨kind, name⟩
  | listed {k n : Json.Term} {kind name : Option String} (hkind : NullOr IsText k kind)
      (hname : NullOr IsText n name) : IsAction (.array [k, n]) ⟨kind, name⟩

/-- A user by the id. -/
inductive IsUser : Json.Term → String → Prop where
  | named {written : List (List Json.Piece × Json.Term)} {members : List (String × Json.Term)}
      {i : Json.Term} {id : String} (hkeys : Keyed written members)
      (hi : Says members "id" (some i)) (hid : IsText i id) : IsUser (.object written) id
  | listed {i : Json.Term} {id : String} (hid : IsText i id) : IsUser (.array [i]) id

/-- A report that names its fields, or lists all of them. -/
inductive IsReport : Json.Term → Interaction → Prop where
  | named {written : List (List Json.Piece × Json.Term)} {members : List (String × Json.Term)}
      {k : Json.Term} {kind : String} {actions : List ClickedAction} {user : Option String}
      (hkeys : Keyed written members) (hk : Says members "type" (some k)) (hkind : IsText k kind)
      (hactions : Field (ListOf IsAction) [] members "actions" actions)
      (huser : Field (NullOr IsUser) none members "user" user) :
      IsReport (.object written) ⟨kind, actions, user⟩
  | listed {k a u : Json.Term} {kind : String} {actions : List ClickedAction} {user : Option String}
      (hkind : IsText k kind) (hactions : ListOf IsAction a actions) (huser : NullOr IsUser u user) :
      IsReport (.array [k, a, u]) ⟨kind, actions, user⟩

/-! ## The readers accept the grammar -/

theorem termText?_iff (t : Json.Term) (s : String) : Json.Term.text? t = some s ↔ IsText t s :=
  Iff.rfl

theorem shape?_object_iff {written : List (List Json.Piece × Json.Term)}
    {shape : Shape Json.Term} :
    Source.shape? (Json.Term.object written) = some shape ↔
      ∃ members, Keyed written members ∧ shape = .named members := by
  have hkey : ∀ w m, joinKey? w = some m ↔ Json.join? w.1 = some m.1 ∧ w.2 = m.2 := by
    rintro ⟨key, t⟩ ⟨k, t'⟩
    simp [joinKey?]
  show (written.mapM joinKey?).map Shape.named = some shape ↔ _
  simp only [Option.map_eq_some_iff, mapM_eq_some_iff hkey]
  exact ⟨fun ⟨m, h, e⟩ => ⟨m, h, e.symm⟩, fun ⟨m, h, e⟩ => ⟨m, h, e.symm⟩⟩

theorem slots?_keyed {written : List (List Json.Piece × Json.Term)}
    {members : List (String × Json.Term)} (h : Keyed written members) (fields : List Names) :
    slots? fields (Json.Term.object written) = fields.mapM (namedSlot? members) :=
  slots?_named (shape?_object_iff.mpr ⟨members, h, rfl⟩)

/-- A value whose keys cannot be joined is no record. -/
theorem keyed_or_slots?_eq_none (written : List (List Json.Piece × Json.Term)) :
    (∃ members, Keyed written members) ∨
      ∀ fields, slots? fields (Json.Term.object written) = none := by
  cases hshape : Source.shape? (Json.Term.object written) with
  | none =>
      right
      intro fields
      rw [slots?, hshape]
  | some shape =>
      obtain ⟨members, hkeys, -⟩ := shape?_object_iff.mp hshape
      exact .inl ⟨members, hkeys⟩

theorem ClickedAction.ofTerm?_object {written : List (List Json.Piece × Json.Term)}
    {members : List (String × Json.Term)} (h : Keyed written members) :
    ClickedAction.ofTerm? (.object written) = (do
      some ⟨← (namedSlot? members ["type"]).bind (Slot.optional Json.Term.text?),
        ← (namedSlot? members ["name"]).bind (Slot.optional Json.Term.text?)⟩) := by
  rw [ofTerm?, slots?_keyed h]
  simp only [List.mapM_cons, List.mapM_nil, Option.pure_def, Option.bind_eq_bind]
  cases namedSlot? members ["type"] <;> cases namedSlot? members ["name"] <;>
    simp only [Option.bind_some, Option.bind_none, Option.bind_fun_none]

theorem ClickedAction.ofTerm?_listed (k n : Json.Term) :
    ClickedAction.ofTerm? (.array [k, n])
      = (do some ⟨← Slot.nullable Json.Term.text? k, ← Slot.nullable Json.Term.text? n⟩) := rfl

/-- An action is made of two fields. -/
theorem ClickedAction.fields_iff {kind name : Option (Option String)} {a : ClickedAction} :
    (do some (ClickedAction.mk (← kind) (← name))) = some a ↔
      kind = some a.kind ∧ name = some a.name := by
  cases kind <;> cases name <;> cases a <;> simp

theorem ClickedAction.ofTerm?_iff {t : Json.Term} {a : ClickedAction} :
    ClickedAction.ofTerm? t = some a ↔ IsAction t a := by
  constructor
  · intro h
    cases t with
    | object written =>
        rcases keyed_or_slots?_eq_none written with ⟨members, hkeys⟩ | hnone
        · simp only [ofTerm?_object hkeys, fields_iff, optional_iff termText?_iff] at h
          exact .named hkeys h.1 h.2
        · rw [ofTerm?, hnone] at h
          cases h
    | array items =>
        rcases items with _ | ⟨k, _ | ⟨n, _ | ⟨x, rest⟩⟩⟩
        case cons.cons.nil =>
          simp only [ofTerm?_listed, fields_iff, nullable_iff termText?_iff] at h
          exact .listed h.1 h.2
        all_goals
          simp [ofTerm?, slots?, Source.shape?, Source.allowsExtraItems, listedSlots,
            Slot.optional] at h
    | _ => cases h
  · intro h
    cases h with
    | named hkeys hkind hname =>
        simp only [ofTerm?_object hkeys, fields_iff, optional_iff termText?_iff]
        exact ⟨hkind, hname⟩
    | listed hkind hname =>
        simp only [ofTerm?_listed, fields_iff, nullable_iff termText?_iff]
        exact ⟨hkind, hname⟩

theorem userId?_object {written : List (List Json.Piece × Json.Term)}
    {members : List (String × Json.Term)} (h : Keyed written members) :
    userId? (.object written)
      = (namedSlot? members ["id"]).bind (Slot.required Json.Term.text?) := by
  rw [userId?, slots?_keyed h]
  simp only [List.mapM_cons, List.mapM_nil, Option.pure_def, Option.bind_eq_bind]
  cases namedSlot? members ["id"] <;> rfl

theorem userId?_listed (i : Json.Term) : userId? (.array [i]) = Json.Term.text? i := rfl

theorem userId?_iff {t : Json.Term} {id : String} : userId? t = some id ↔ IsUser t id := by
  constructor
  · intro h
    cases t with
    | object written =>
        rcases keyed_or_slots?_eq_none written with ⟨members, hkeys⟩ | hnone
        · rw [userId?_object hkeys, required_iff termText?_iff] at h
          obtain ⟨i, hi, hid⟩ := h
          exact .named hkeys hi hid
        · rw [userId?, hnone] at h
          cases h
    | array items =>
        rcases items with _ | ⟨i, _ | ⟨x, rest⟩⟩
        case cons.nil =>
          rw [userId?_listed] at h
          exact .listed h
        all_goals
          simp [userId?, slots?, Source.shape?, Source.allowsExtraItems, listedSlots,
            Slot.required] at h
    | _ => cases h
  · intro h
    cases h with
    | named hkeys hi hid =>
        rw [userId?_object hkeys, required_iff termText?_iff]
        exact ⟨_, hi, hid⟩
    | listed hid =>
        rw [userId?_listed]
        exact hid

theorem Interaction.ofTerm?_object {written : List (List Json.Piece × Json.Term)}
    {members : List (String × Json.Term)} (h : Keyed written members) :
    Interaction.ofTerm? (.object written) = (do
      some ⟨← (namedSlot? members ["type"]).bind (Slot.required Json.Term.text?),
        ← (namedSlot? members ["actions"]).bind
          (Slot.orDefault [] (listOf? ClickedAction.ofTerm?)),
        ← (namedSlot? members ["user"]).bind (Slot.optional userId?)⟩) := by
  rw [ofTerm?, slots?_keyed h]
  simp only [List.mapM_cons, List.mapM_nil, Option.pure_def, Option.bind_eq_bind]
  cases namedSlot? members ["type"] <;> cases namedSlot? members ["actions"] <;>
    cases namedSlot? members ["user"] <;>
    simp only [Option.bind_some, Option.bind_none, Option.bind_fun_none]

theorem Interaction.ofTerm?_listed (k a u : Json.Term) :
    Interaction.ofTerm? (.array [k, a, u]) = (do
      some ⟨← Json.Term.text? k, ← listOf? ClickedAction.ofTerm? a,
        ← Slot.nullable userId? u⟩) := rfl

/-- A report is made of three fields. -/
theorem Interaction.fields_iff {kind : Option String} {actions : Option (List ClickedAction)}
    {user : Option (Option String)} {i : Interaction} :
    (do some (Interaction.mk (← kind) (← actions) (← user))) = some i ↔
      kind = some i.kind ∧ actions = some i.actions ∧ user = some i.user := by
  cases kind <;> cases actions <;> cases user <;> cases i <;> simp

theorem Interaction.ofTerm?_iff {t : Json.Term} {i : Interaction} :
    Interaction.ofTerm? t = some i ↔ IsReport t i := by
  have haction : ∀ t a, ClickedAction.ofTerm? t = some a ↔ IsAction t a :=
    fun _ _ => ClickedAction.ofTerm?_iff
  have hactions : ∀ t l, listOf? ClickedAction.ofTerm? t = some l ↔ ListOf IsAction t l :=
    fun _ _ => listOf?_iff haction
  have huser : ∀ t id, userId? t = some id ↔ IsUser t id := fun _ _ => userId?_iff
  constructor
  · intro h
    cases t with
    | object written =>
        rcases keyed_or_slots?_eq_none written with ⟨members, hkeys⟩ | hnone
        · simp only [ofTerm?_object hkeys, fields_iff, required_iff termText?_iff,
            orDefault_iff hactions, optional_iff huser] at h
          obtain ⟨⟨k, hk, hkind⟩, ha, hu⟩ := h
          exact .named hkeys hk hkind ha hu
        · rw [ofTerm?, hnone] at h
          cases h
    | array items =>
        rcases items with _ | ⟨k, _ | ⟨a, _ | ⟨u, _ | ⟨x, rest⟩⟩⟩⟩
        case cons.cons.cons.nil =>
          simp only [ofTerm?_listed, fields_iff, hactions, nullable_iff huser] at h
          exact .listed h.1 h.2.1 h.2.2
        all_goals
          simp [ofTerm?, slots?, Source.shape?, Source.allowsExtraItems, listedSlots,
            Slot.optional, Slot.required] at h
    | _ => cases h
  · intro h
    cases h with
    | named hkeys hk hkind ha hu =>
        simp only [ofTerm?_object hkeys, fields_iff, required_iff termText?_iff,
          orDefault_iff hactions, optional_iff huser]
        exact ⟨⟨_, hk, hkind⟩, ha, hu⟩
    | listed hkind ha hu =>
        simp only [ofTerm?_listed, fields_iff, hactions, nullable_iff huser]
        exact ⟨hkind, ha, hu⟩

/-! ## Clicks -/

/-- Whether a document reports that a user has clicked on a button with this payload.  Further actions
do not matter. -/
def Clicks (t : Json.Term) (sender text : String) : Prop :=
  ∃ later, IsReport t ⟨"interactive_message", ⟨some "button", some text⟩ :: later, some sender⟩

/-- Whether the last piece of a body with the payload key says the report of a click. -/
def Clicked (body : Bytes) (sender text : String) : Prop :=
  ∃ document t, LastValue body "payload" document ∧
    Json.Term.read? document.toList = some t ∧ Clicks t sender text

theorem Interaction.click?_eq_some_iff {i : Interaction} {sender text : String} :
    i.click? = some (sender, text) ↔
      ∃ later, i = ⟨"interactive_message", ⟨some "button", some text⟩ :: later, some sender⟩ := by
  obtain ⟨kind, actions, user⟩ := i
  unfold click?
  constructor
  · intro h
    split at h
    · rename_i hkind
      split at h
      · rename_i name later hactions
        obtain ⟨id, huser, hid⟩ := Option.map_eq_some_iff.mp h
        cases hid
        have hkind : kind = "interactive_message" := hkind
        have hactions : actions = ⟨some "button", some text⟩ :: later := hactions
        have huser : user = some sender := huser
        exact ⟨later, by rw [hkind, hactions, huser]⟩
      · cases h
    · cases h
  · rintro ⟨later, h⟩
    cases h
    rfl

namespace Payload

theorem ofClickText_cases (s : String) :
    (∃ sender text, (ofClickText s).1 = .buttonClick sender text) ∨
      (ofClickText s).1 = .unrecognized := by
  unfold ofClickText
  split
  · exact .inr rfl
  · split
    · exact .inl ⟨_, _, rfl⟩
    · exact .inr rfl

theorem ofClickText_iff {s sender text : String} :
    (ofClickText s).1 = .buttonClick sender text ↔
      ∃ t, Json.Term.read? s.toList = some t ∧ Clicks t sender text := by
  have hclick : (ofClickText s).1 = .buttonClick sender text ↔
      ∃ report, (Json.Term.read? s.toList).bind Interaction.ofTerm? = some report ∧
        report.click? = some (sender, text) := by
    unfold ofClickText
    split
    · rename_i hnone
      simp [hnone]
    · rename_i report hreport
      simp only [hreport, Option.some.injEq, exists_eq_left']
      split
      · rename_i hclick
        simp [hclick]
      · rename_i hclick
        simp [hclick]
  simp only [hclick, Interaction.click?_eq_some_iff, Option.bind_eq_some_iff,
    Interaction.ofTerm?_iff]
  constructor
  · rintro ⟨report, ⟨t, ht, hreport⟩, later, rfl⟩
    exact ⟨t, ht, later, hreport⟩
  · rintro ⟨t, ht, later, hreport⟩
    exact ⟨_, ⟨t, ht, hreport⟩, later, rfl⟩

theorem ofForm_cases (pairs : List (String × String)) :
    (∃ sender text, (ofForm pairs).1 = .buttonClick sender text) ∨
      (ofForm pairs).1 = .unrecognized := by
  unfold ofForm
  split
  · exact ofClickText_cases _
  · exact .inr rfl

theorem ofForm_iff {body : Bytes} {sender text : String} :
    (ofForm (formPairs body)).1 = .buttonClick sender text ↔ Clicked body sender text := by
  have hvalue : ∀ document, lastValue? "payload" (formPairs body) = some document ↔
      LastValue body "payload" document := fun _ => lastValue?_iff (by decide)
  unfold ofForm Clicked
  constructor
  · intro h
    split at h
    · rename_i document hdocument
      obtain ⟨t, ht, hclick⟩ := ofClickText_iff.mp h
      exact ⟨document, t, (hvalue document).mp hdocument, ht, hclick⟩
    · cases h
  · rintro ⟨document, t, hdocument, ht, hclick⟩
    rw [(hvalue document).mpr hdocument]
    exact ofClickText_iff.mpr ⟨t, ht, hclick⟩

theorem ofForm_congr {body body' : Bytes}
    (h : ∀ sender text, Clicked body sender text ↔ Clicked body' sender text) :
    (ofForm (formPairs body)).1 = (ofForm (formPairs body')).1 := by
  rcases ofForm_cases (formPairs body) with ⟨sender, text, hbody⟩ | hbody
  · rw [hbody, ofForm_iff.mpr ((h sender text).mp (ofForm_iff.mp hbody))]
  · rcases ofForm_cases (formPairs body') with ⟨sender, text, hbody'⟩ | hbody'
    · rw [hbody', ofForm_iff.mpr ((h sender text).mpr (ofForm_iff.mp hbody'))]
    · rw [hbody, hbody']

end Payload

/-- Only one document counts. -/
theorem clicked_iff {body : Bytes} {document sender text : String} {t : Json.Term}
    (hdocument : LastValue body "payload" document)
    (ht : Json.Term.read? document.toList = some t) :
    Clicked body sender text ↔ Clicks t sender text := by
  constructor
  · rintro ⟨document', t', hdocument', ht', hclick⟩
    rw [← lastValue?_iff (by decide)] at hdocument hdocument'
    cases hdocument.symm.trans hdocument'
    cases ht.symm.trans ht'
    exact hclick
  · exact fun hclick => ⟨document, t, hdocument, ht, hclick⟩

/-! ## Later actions -/

/-- Two documents that differ only in well-formed actions behind the first. -/
inductive AlikeInFirstAction : Json.Term → Json.Term → Prop where
  | named {before after : List (List Json.Piece × Json.Term)} {key : List Json.Piece}
      {first : Json.Term} {later later' : List Json.Term} (hkey : Json.join? key = some "actions")
      (hlater : ∀ t ∈ later, ∃ a, IsAction t a) (hlater' : ∀ t ∈ later', ∃ a, IsAction t a) :
      AlikeInFirstAction (.object (before ++ (key, .array (first :: later)) :: after))
        (.object (before ++ (key, .array (first :: later')) :: after))
  | listed {k u first : Json.Term} {later later' : List Json.Term}
      (hlater : ∀ t ∈ later, ∃ a, IsAction t a) (hlater' : ∀ t ∈ later', ∃ a, IsAction t a) :
      AlikeInFirstAction (.array [k, .array (first :: later), u])
        (.array [k, .array (first :: later'), u])

theorem AlikeInFirstAction.symm {t t' : Json.Term} (h : AlikeInFirstAction t t') :
    AlikeInFirstAction t' t := by
  cases h with
  | named hkey hlater hlater' => exact .named hkey hlater' hlater
  | listed hlater hlater' => exact .listed hlater' hlater

/-- Members with another value in one of them. -/
theorem Keyed.replace {before after : List (List Json.Piece × Json.Term)} {key : List Json.Piece}
    {v : Json.Term} {members : List (String × Json.Term)} {k : String}
    (h : Keyed (before ++ (key, v) :: after) members) (hkey : Json.join? key = some k) :
    ∃ front back, members = front ++ (k, v) :: back ∧
      ∀ v', Keyed (before ++ (key, v') :: after) (front ++ (k, v') :: back) := by
  obtain ⟨front, ⟨name, t⟩, back, rfl, hfront, ⟨hname, ht⟩, hback⟩ :=
    List.Forall₂.append_cons_left h
  obtain rfl : k = name := Option.some.inj (hkey.symm.trans hname)
  obtain rfl : v = t := ht
  exact ⟨front, back, rfl, fun v' => List.rel_append hfront (.cons ⟨hkey, rfl⟩ hback)⟩

theorem exists_listOf_of_cons {first : Json.Term} {later later' : List Json.Term}
    {a : ClickedAction} {as : List ClickedAction}
    (h : ListOf IsAction (Json.Term.array (first :: later)) (a :: as))
    (hlater' : ∀ t ∈ later', ∃ a, IsAction t a) :
    ∃ as', ListOf IsAction (Json.Term.array (first :: later')) (a :: as') := by
  obtain ⟨hitems, hall⟩ := h
  cases hitems
  cases hall with
  | cons hfirst _ =>
      obtain ⟨as', has⟩ := List.Forall₂.exists_of_forall hlater'
      exact ⟨as', .mk rfl (.cons hfirst has)⟩

theorem Clicks.of_alike {t t' : Json.Term} {sender text : String} (h : AlikeInFirstAction t t')
    (hclick : Clicks t sender text) : Clicks t' sender text := by
  obtain ⟨later, hreport⟩ := hclick
  cases h with
  | @named _ _ _ first behind _ hkey _ hlater' =>
      cases hreport with
      | named hkeys hk hkind hactions huser =>
          obtain ⟨front, back, rfl, hreplace⟩ := hkeys.replace hkey
          have hmem : ("actions", Json.Term.array (first :: behind))
              ∈ front ++ ("actions", Json.Term.array (first :: behind)) :: back :=
            List.mem_append_right front List.mem_cons_self
          obtain ⟨as, has⟩ := exists_listOf_of_cons (hactions.of_mem hmem) hlater'
          exact ⟨as, .named (hreplace _) (hk.of_ne (by decide)) hkind (hactions.replace has)
            (huser.of_ne (by decide))⟩
  | listed _ hlater' =>
      cases hreport with
      | listed hkind hactions huser =>
          obtain ⟨as, has⟩ := exists_listOf_of_cons hactions hlater'
          exact ⟨as, .listed hkind has huser⟩

/-! ## All bodies -/

/-- A form is announced by the first content type, if it can be read. -/
theorem announcesForm_iff {headers : Http.Headers} :
    Connector.announcesForm headers = true ↔
      ∃ type, Http.Shows headers "content-type" type ∧
        Connector.formType.toList <+: type.toList := by
  simp only [Connector.announcesForm, Option.any_eq_true, Http.text?_eq_some_iff,
    List.isPrefixOf_iff_prefix]

theorem classify_form {headers : Http.Headers} {type : String}
    (htype : Http.Shows headers "content-type" type)
    (hform : Connector.formType.toList <+: type.toList) (body : Bytes) :
    Connector.classify headers body = Payload.ofForm (formPairs body) := by
  rw [Connector.classify, announcesForm_iff.mpr ⟨type, htype, hform⟩, Payload.ofBody_form]

/-- A body that is announced as a form means a click or nothing that concerns the connector, also if it
is a JSON document or has no fields.  It means a click exactly if the last piece with the payload key
says the report of one.  So pieces with other keys may be put in anywhere, and reports of clicks may go
on with further actions. -/
theorem form_means_a_click_or_nothing {headers : Http.Headers} {type : String}
    (htype : Http.Shows headers "content-type" type)
    (hform : Connector.formType.toList <+: type.toList) :
    (∀ body, (∃ sender text, (Connector.classify headers body).1 = .buttonClick sender text) ∨
      (Connector.classify headers body).1 = .unrecognized) ∧
    (∀ body sender text, (Connector.classify headers body).1 = .buttonClick sender text ↔
      Clicked body sender text) ∧
    (∀ pieces more, Interspersed "payload" pieces more → (∀ p ∈ more, 0x26 ∉ p) →
      Connector.classify headers ([0x26].intercalate pieces)
        = Connector.classify headers ([0x26].intercalate more)) ∧
    (∀ body body' document document' t t', LastValue body "payload" document →
      LastValue body' "payload" document' → Json.Term.read? document.toList = some t →
      Json.Term.read? document'.toList = some t' → AlikeInFirstAction t t' →
      (Connector.classify headers body).1 = (Connector.classify headers body').1) := by
  simp only [classify_form htype hform]
  refine ⟨fun body => Payload.ofForm_cases _, fun body sender text => Payload.ofForm_iff,
    fun pieces more hmore hpieces => ?_, fun body body' document document' t t' hdocument
      hdocument' ht ht' halike => ?_⟩
  · rw [Payload.ofForm, Payload.ofForm, lastValue?_interspersed (by decide) hmore hpieces]
  · refine Payload.ofForm_congr fun sender text => ?_
    rw [clicked_iff hdocument ht, clicked_iff hdocument' ht']
    exact ⟨Clicks.of_alike halike, Clicks.of_alike halike.symm⟩

/-- A report that lists its fields, with a second action that says nothing. -/
def listedReport : Json :=
  .array [.text "interactive_message", .array [.array [.text "button", .text "yes"], .object []],
    .array [.text "U1"]]

theorem exact_listedReport : Json.Exact listedReport := by
  have hbutton : Json.Exact (.array [.text "button", .text "yes"]) := by
    refine .array fun v hv => ?_
    simp only [List.mem_cons, List.not_mem_nil, or_false] at hv
    rcases hv with rfl | rfl <;> exact .text _
  refine .array fun v hv => ?_
  simp only [List.mem_cons, List.not_mem_nil, or_false] at hv
  rcases hv with rfl | rfl | rfl
  · exact .text _
  · refine .array fun v hv => ?_
    simp only [List.mem_cons, List.not_mem_nil, or_false] at hv
    rcases hv with rfl | rfl
    · exact hbutton
    · exact .object fun m hm => absurd hm List.not_mem_nil
  · exact .array fun v hv => List.mem_singleton.mp hv ▸ .text _

theorem clicks_listedReport : Clicks listedReport.term "U1" "yes" := by
  have htext : ∀ s : String, IsText (Json.text s).term s := Json.join?_pieces
  have hsecond : IsAction (Json.object []).term ⟨none, none⟩ :=
    .named .nil (.absent (.never fun _ h => absurd h List.not_mem_nil))
      (.absent (.never fun _ h => absurd h List.not_mem_nil))
  have hfirst : IsAction (Json.array [.text "button", .text "yes"]).term
      ⟨some "button", some "yes"⟩ := .listed (.value rfl (htext _)) (.value rfl (htext _))
  exact ⟨[⟨none, none⟩], .listed (htext _) (.mk rfl (.cons hfirst (.cons hsecond .nil)))
    (.value rfl (.listed (htext _)))⟩

/-- The last payload counts, and a handshake that is announced as a form is none. -/
theorem listed_report_is_a_click_and_handshake_is_none :
    (Connector.classify
        [("Content-Type", Text.encodeString "application/x-www-form-urlencoded; charset=utf-8")]
        (formBody [("payload", "mine"), ("payload", listedReport.print), ("Payload", "")])).1
      = .buttonClick "U1" "yes" ∧
    ∀ value, (Connector.classify
        [("Content-Type", Text.encodeString "application/x-www-form-urlencoded; charset=utf-8")]
        (Text.encodeString "\x7b\"challenge\":1\x7d")).1 ≠ .challenge value := by
  have htype : Http.Shows
      [("Content-Type", Text.encodeString "application/x-www-form-urlencoded; charset=utf-8")]
      "content-type" "application/x-www-form-urlencoded; charset=utf-8" :=
    Http.text?_eq_some_iff.mp (Http.text?_eq_some_of_plain (Http.isPlain_of_all (by decide)) rfl)
  have hform : Connector.formType.toList
      <+: "application/x-www-form-urlencoded; charset=utf-8".toList := by decide
  constructor
  · refine ((form_means_a_click_or_nothing htype hform).2.1 _ _ _).mpr
      ⟨listedReport.print, listedReport.term, (lastValue?_iff (by decide)).mp ?_, ?_,
        clicks_listedReport⟩
    · rw [formPairs_of_formOf (formOf_formBody _)]
      rfl
    · rw [Json.print, String.toList_ofList]
      exact Json.read?_chars exact_listedReport
  · intro value hvalue
    rcases (form_means_a_click_or_nothing htype hform).1 (Text.encodeString "\x7b\"challenge\":1\x7d")
      with ⟨sender, text, h⟩ | h
    · cases h.symm.trans hvalue
    · cases h.symm.trans hvalue

end Switchboard.Inbound
