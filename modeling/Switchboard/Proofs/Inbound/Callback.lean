/-
# What a JSON body means

The grammar of event callbacks (`IsCallback`), as objects and as lists, and the main statement,
`body_means_what_it_holds`: a body is a handshake if it has a challenge, whatever else it holds; it is
a message if it is no handshake and a callback of an event that a user has written; and it is nothing
else.  One value of a wrong kind in a place that the grammar knows (`Misfit`) spoils the whole body.
-/
import Switchboard.Inbound.Payload
import Switchboard.Proofs.Record.Grammar

namespace Switchboard.Inbound

open Record

/-! ## The grammar -/

/-- An event that names its fields, or lists all of them. -/
inductive IsEvent : Json → Event → Prop where
  | named {members : List (String × Json)} {kind text user botId : Option String}
      (hkind : Field (NullOr IsText) none members "type" kind)
      (htext : Field (NullOr IsText) none members "text" text)
      (huser : Field (NullOr IsText) none members "user" user)
      (hbotId : Field (NullOr IsText) none members "bot_id" botId) :
      IsEvent (.object members) ⟨kind, text, user, botId⟩
  | listed {k t u b : Json} {kind text user botId : Option String} (hkind : NullOr IsText k kind)
      (htext : NullOr IsText t text) (huser : NullOr IsText u user)
      (hbotId : NullOr IsText b botId) : IsEvent (.array [k, t, u, b]) ⟨kind, text, user, botId⟩

/-- An authorization and the user whom it names. -/
inductive IsAuthorization : Json → Option String → Prop where
  | named {members : List (String × Json)} {user : Option String}
      (huser : Field (NullOr IsText) none members "user_id" user) :
      IsAuthorization (.object members) user
  | listed {u : Json} {user : Option String} (huser : NullOr IsText u user) :
      IsAuthorization (.array [u]) user

/-- A callback that names its fields, or lists them; at the end of the list users and authorizations
may be missing. -/
inductive IsCallback : Json → Callback → Prop where
  | named {members : List (String × Json)} {event : Option Event} {users : List String}
      {authorized : List (Option String)}
      (hevent : Field (NullOr IsEvent) none members "event" event)
      (husers : Field (ListOf IsText) [] members "authed_users" users)
      (hauthorized : Field (ListOf IsAuthorization) [] members "authorizations" authorized) :
      IsCallback (.object members) ⟨event, users, authorized⟩
  | event {e : Json} {event : Option Event} (hevent : NullOr IsEvent e event) :
      IsCallback (.array [e]) ⟨event, [], []⟩
  | users {e u : Json} {event : Option Event} {users : List String} (hevent : NullOr IsEvent e event)
      (husers : ListOf IsText u users) : IsCallback (.array [e, u]) ⟨event, users, []⟩
  | listed {e u a : Json} {event : Option Event} {users : List String}
      {authorized : List (Option String)} (hevent : NullOr IsEvent e event)
      (husers : ListOf IsText u users) (hauthorized : ListOf IsAuthorization a authorized) :
      IsCallback (.array [e, u, a]) ⟨event, users, authorized⟩

/-! ## The readers accept the grammar -/

theorem text?_iff (v : Json) (s : String) : Json.text? v = some s ↔ IsText v s := Iff.rfl

theorem Event.ofJson?_object (members : List (String × Json)) :
    Event.ofJson? (.object members) = (do
      some ⟨← (namedSlot? members ["type"]).bind (Slot.optional Json.text?),
        ← (namedSlot? members ["text"]).bind (Slot.optional Json.text?),
        ← (namedSlot? members ["user"]).bind (Slot.optional Json.text?),
        ← (namedSlot? members ["bot_id"]).bind (Slot.optional Json.text?)⟩) := by
  rw [ofJson?, slots?_named rfl]
  simp only [List.mapM_cons, List.mapM_nil, Option.pure_def, Option.bind_eq_bind]
  cases namedSlot? members ["type"] <;> cases namedSlot? members ["text"] <;>
    cases namedSlot? members ["user"] <;> cases namedSlot? members ["bot_id"] <;>
    simp only [Option.bind_some, Option.bind_none, Option.bind_fun_none]

theorem Event.ofJson?_listed (k t u b : Json) :
    Event.ofJson? (.array [k, t, u, b]) = (do
      some ⟨← Slot.nullable Json.text? k, ← Slot.nullable Json.text? t,
        ← Slot.nullable Json.text? u, ← Slot.nullable Json.text? b⟩) := rfl

theorem Event.exists_of_ofJson?_array {items : List Json} {e : Event}
    (h : Event.ofJson? (.array items) = some e) : ∃ k t u b, items = [k, t, u, b] := by
  rcases items with _ | ⟨k, _ | ⟨t, _ | ⟨u, _ | ⟨b, _ | ⟨x, rest⟩⟩⟩⟩⟩
  case cons.cons.cons.cons.nil => exact ⟨k, t, u, b, rfl⟩
  all_goals
    simp [ofJson?, slots?, Source.shape?, Source.allowsExtraItems, listedSlots, Slot.optional] at h

/-- An event is made of four fields. -/
theorem Event.fields_iff {kind text user botId : Option (Option String)} {e : Event} :
    (do some (Event.mk (← kind) (← text) (← user) (← botId))) = some e ↔
      kind = some e.kind ∧ text = some e.text ∧ user = some e.user ∧ botId = some e.botId := by
  cases kind <;> cases text <;> cases user <;> cases botId <;> cases e <;> simp

theorem Event.ofJson?_iff {v : Json} {e : Event} : Event.ofJson? v = some e ↔ IsEvent v e := by
  constructor
  · intro h
    cases v with
    | object members =>
        simp only [ofJson?_object, fields_iff, optional_iff text?_iff] at h
        exact .named h.1 h.2.1 h.2.2.1 h.2.2.2
    | array items =>
        obtain ⟨k, t, u, b, rfl⟩ := exists_of_ofJson?_array h
        simp only [ofJson?_listed, fields_iff, nullable_iff text?_iff] at h
        exact .listed h.1 h.2.1 h.2.2.1 h.2.2.2
    | _ => cases h
  · intro h
    cases h with
    | named hkind htext huser hbotId =>
        simp only [ofJson?_object, fields_iff, optional_iff text?_iff]
        exact ⟨hkind, htext, huser, hbotId⟩
    | listed hkind htext huser hbotId =>
        simp only [ofJson?_listed, fields_iff, nullable_iff text?_iff]
        exact ⟨hkind, htext, huser, hbotId⟩

theorem authorizedUser?_object (members : List (String × Json)) :
    authorizedUser? (.object members)
      = (namedSlot? members ["user_id"]).bind (Slot.optional Json.text?) := by
  rw [authorizedUser?, slots?_named rfl]
  simp only [List.mapM_cons, List.mapM_nil, Option.pure_def, Option.bind_eq_bind]
  cases namedSlot? members ["user_id"] <;> rfl

theorem authorizedUser?_listed (u : Json) :
    authorizedUser? (.array [u]) = Slot.nullable Json.text? u := rfl

theorem authorizedUser?_iff {v : Json} {user : Option String} :
    authorizedUser? v = some user ↔ IsAuthorization v user := by
  constructor
  · intro h
    cases v with
    | object members =>
        rw [authorizedUser?_object, optional_iff text?_iff] at h
        exact .named h
    | array items =>
        rcases items with _ | ⟨u, _ | ⟨x, rest⟩⟩
        case cons.nil =>
          rw [authorizedUser?_listed, nullable_iff text?_iff] at h
          exact .listed h
        all_goals
          simp [authorizedUser?, slots?, Source.shape?, Source.allowsExtraItems, listedSlots,
            Slot.optional] at h
    | _ => cases h
  · intro h
    cases h with
    | named huser => rwa [authorizedUser?_object, optional_iff text?_iff]
    | listed huser => rwa [authorizedUser?_listed, nullable_iff text?_iff]

theorem Callback.ofJson?_object (members : List (String × Json)) :
    Callback.ofJson? (.object members) = (do
      some ⟨← (namedSlot? members ["event"]).bind (Slot.optional Event.ofJson?),
        ← (namedSlot? members ["authed_users"]).bind (Slot.orDefault [] (listOf? Json.text?)),
        ← (namedSlot? members ["authorizations"]).bind
          (Slot.orDefault [] (listOf? authorizedUser?))⟩) := by
  rw [ofJson?, slots?_named rfl]
  simp only [List.mapM_cons, List.mapM_nil, Option.pure_def, Option.bind_eq_bind]
  cases namedSlot? members ["event"] <;> cases namedSlot? members ["authed_users"] <;>
    cases namedSlot? members ["authorizations"] <;>
    simp only [Option.bind_some, Option.bind_none, Option.bind_fun_none]

/-- A callback is made of three fields. -/
theorem Callback.fields_iff {event : Option (Option Event)} {users : Option (List String)}
    {authorized : Option (List (Option String))} {c : Callback} :
    (do some (Callback.mk (← event) (← users) (← authorized))) = some c ↔
      event = some c.event ∧ users = some c.authedUsers ∧ authorized = some c.authorized := by
  cases event <;> cases users <;> cases authorized <;> cases c <;> simp

theorem Callback.cases_of_ofJson?_array {items : List Json} {c : Callback}
    (h : Callback.ofJson? (.array items) = some c) :
    (∃ e, items = [e]) ∨ (∃ e u, items = [e, u]) ∨ ∃ e u a, items = [e, u, a] := by
  rcases items with _ | ⟨e, _ | ⟨u, _ | ⟨a, _ | ⟨x, rest⟩⟩⟩⟩
  case cons.nil => exact .inl ⟨e, rfl⟩
  case cons.cons.nil => exact .inr (.inl ⟨e, u, rfl⟩)
  case cons.cons.cons.nil => exact .inr (.inr ⟨e, u, a, rfl⟩)
  all_goals
    simp [ofJson?, slots?, Source.shape?, Source.allowsExtraItems, listedSlots, Slot.optional] at h

theorem Callback.ofJson?_event (e : Json) :
    Callback.ofJson? (.array [e])
      = (do some ⟨← Slot.nullable Event.ofJson? e, ← some [], ← some []⟩) := rfl

theorem Callback.ofJson?_users (e u : Json) :
    Callback.ofJson? (.array [e, u]) = (do
      some ⟨← Slot.nullable Event.ofJson? e, ← listOf? Json.text? u, ← some []⟩) := rfl

theorem Callback.ofJson?_listed (e u a : Json) :
    Callback.ofJson? (.array [e, u, a]) = (do
      some ⟨← Slot.nullable Event.ofJson? e, ← listOf? Json.text? u,
        ← listOf? authorizedUser? a⟩) := rfl

theorem Callback.ofJson?_iff {v : Json} {c : Callback} :
    Callback.ofJson? v = some c ↔ IsCallback v c := by
  have hevent : ∀ v e, Event.ofJson? v = some e ↔ IsEvent v e := fun _ _ => Event.ofJson?_iff
  have hauthorized : ∀ v user, authorizedUser? v = some user ↔ IsAuthorization v user :=
    fun _ _ => authorizedUser?_iff
  have husers : ∀ v l, listOf? Json.text? v = some l ↔ ListOf IsText v l :=
    fun _ _ => listOf?_iff text?_iff
  constructor
  · intro h
    cases v with
    | object members =>
        simp only [ofJson?_object, fields_iff, optional_iff hevent, orDefault_iff husers,
          orDefault_iff fun _ _ => listOf?_iff hauthorized] at h
        exact .named h.1 h.2.1 h.2.2
    | array items =>
        obtain ⟨event, users, authorized⟩ := c
        rcases cases_of_ofJson?_array h with ⟨e, rfl⟩ | ⟨e, u, rfl⟩ | ⟨e, u, a, rfl⟩
        · simp only [ofJson?_event, fields_iff, nullable_iff hevent, Option.some.injEq] at h
          obtain ⟨he, rfl, rfl⟩ := h
          exact .event he
        · simp only [ofJson?_users, fields_iff, nullable_iff hevent, husers,
            Option.some.injEq] at h
          obtain ⟨he, hu, rfl⟩ := h
          exact .users he hu
        · simp only [ofJson?_listed, fields_iff, nullable_iff hevent, husers,
            listOf?_iff hauthorized] at h
          exact .listed h.1 h.2.1 h.2.2
    | _ => cases h
  · intro h
    cases h with
    | named he hu ha =>
        simp only [ofJson?_object, fields_iff, optional_iff hevent, orDefault_iff husers,
          orDefault_iff fun _ _ => listOf?_iff hauthorized]
        exact ⟨he, hu, ha⟩
    | event he =>
        rw [ofJson?_event, fields_iff, nullable_iff hevent]
        exact ⟨he, rfl, rfl⟩
    | users he hu =>
        rw [ofJson?_users, fields_iff, nullable_iff hevent, husers]
        exact ⟨he, hu, rfl⟩
    | listed he hu ha =>
        simp only [ofJson?_listed, fields_iff, nullable_iff hevent, husers,
          listOf?_iff hauthorized]
        exact ⟨he, hu, ha⟩

/-! ## Handshakes and messages -/

/-- Whether a value is an object with a challenge.  A document is read into an object that has each key
once; of several members the first would count. -/
def Challenges (v x : Json) : Prop :=
  ∃ before after, v = .object (before ++ ("challenge", x) :: after) ∧
    ∀ m ∈ before, m.1 ≠ "challenge"

theorem get?_challenge_iff {v x : Json} : v.get? "challenge" = some x ↔ Challenges v x := by
  constructor
  · intro h
    cases v with
    | object members =>
        obtain ⟨⟨key, y⟩, hm, rfl⟩ := Option.map_eq_some_iff.mp h
        obtain ⟨hkey, before, after, rfl, hbefore⟩ := List.find?_eq_some_iff_append.mp hm
        obtain rfl : key = "challenge" := beq_iff_eq.mp hkey
        exact ⟨before, after, rfl, fun m hm => by simpa using hbefore m hm⟩
    | _ => cases h
  · rintro ⟨before, after, rfl, hbefore⟩
    have hfind : (before ++ ("challenge", x) :: after).find? (fun m => m.1 == "challenge")
        = some ("challenge", x) :=
      List.find?_eq_some_iff_append.mpr
        ⟨beq_self_eq_true _, before, after, rfl, fun m hm => by simpa using hbefore m hm⟩
    rw [Json.get?, hfind]
    rfl

/-- Whether a callback reports that a user has written a text. -/
structure Callback.Reports (c : Callback) (e : Event) (sender text : String) : Prop where
  event_eq : c.event = some e
  kind_eq : e.kind = some "message" ∨ e.kind = some "app_mention"
  text_eq : e.text = some text
  ne_empty : text ≠ ""
  noBot : e.botId = none ∨ e.botId = some ""
  sender_eq : e.user.getD "" = sender

theorem Event.isUserMessage_iff {e : Event} :
    e.isUserMessage = true ↔ (e.kind = some "message" ∨ e.kind = some "app_mention") ∧
      (∃ text, e.text = some text ∧ text ≠ "") ∧ (e.botId = none ∨ e.botId = some "") := by
  obtain ⟨kind, text, user, botId⟩ := e
  cases kind <;> cases text <;> cases botId <;> simp [isUserMessage, messageKinds, and_assoc]

theorem Payload.ofCallback_iff {c : Callback} {sender text : String} {ownIds : List String} :
    ofCallback c = .userMessage sender text ownIds ↔
      (∃ e, c.Reports e sender text) ∧ c.ownIds = ownIds := by
  unfold ofCallback
  constructor
  · intro h
    split at h
    · rename_i e he
      split at h
      · rename_i hmessage
        obtain ⟨hkind, ⟨written, hwritten, hne⟩, hbot⟩ := Event.isUserMessage_iff.mp hmessage
        rw [hwritten, Option.getD_some] at h
        obtain ⟨hsender, rfl, hids⟩ := Payload.userMessage.inj h
        exact ⟨⟨e, he, hkind, hwritten, hne, hbot, hsender⟩, hids⟩
      · cases h
    · cases h
  · rintro ⟨⟨e, he, hkind, htext, hne, hbot, rfl⟩, rfl⟩
    have hmessage : e.isUserMessage = true :=
      Event.isUserMessage_iff.mpr ⟨hkind, ⟨text, htext, hne⟩, hbot⟩
    rw [he]
    simp only [hmessage, if_true, htext, Option.getD_some]

theorem Payload.ofCallback_cases (c : Callback) :
    (∃ sender text ownIds, ofCallback c = .userMessage sender text ownIds) ∨
      ofCallback c = .unrecognized := by
  unfold ofCallback
  split
  · split
    · exact .inl ⟨_, _, _, rfl⟩
    · exact .inr rfl
  · exact .inr rfl

/-- Whether a value reports that a user has written a text, and under which ids the bot is mentioned
in it. -/
def Speaks (v : Json) (sender text : String) (ownIds : List String) : Prop :=
  (∀ x, ¬ Challenges v x) ∧
    ∃ c e, IsCallback v c ∧ c.Reports e sender text ∧ c.ownIds = ownIds

theorem Payload.ofJson_of_challenges {v x : Json} (h : Challenges v x) :
    (ofJson v).1 = .challenge x := by
  rw [ofJson, get?_challenge_iff.mpr h]

theorem Payload.ofJson_of_isCallback {v : Json} {c : Callback} (hno : ∀ x, ¬ Challenges v x)
    (h : IsCallback v c) : (ofJson v).1 = ofCallback c := by
  have hnone : v.get? "challenge" = none :=
    Option.eq_none_iff_forall_ne_some.mpr fun x hx => hno x (get?_challenge_iff.mp hx)
  simp only [ofJson, hnone, Callback.ofJson?_iff.mpr h]

theorem Payload.ofJson_of_not_isCallback {v : Json} (hno : ∀ x, ¬ Challenges v x)
    (h : ∀ c, ¬ IsCallback v c) : (ofJson v).1 = .unrecognized := by
  have hnone : v.get? "challenge" = none :=
    Option.eq_none_iff_forall_ne_some.mpr fun x hx => hno x (get?_challenge_iff.mp hx)
  have hread : Callback.ofJson? v = none :=
    Option.eq_none_iff_forall_ne_some.mpr fun c hc => h c (Callback.ofJson?_iff.mp hc)
  simp only [ofJson, hnone, hread]

theorem Payload.ofJson_of_speaks {v : Json} {sender text : String} {ownIds : List String}
    (h : Speaks v sender text ownIds) : (ofJson v).1 = .userMessage sender text ownIds := by
  obtain ⟨hno, c, e, hc, hreports, hids⟩ := h
  rw [ofJson_of_isCallback hno hc]
  exact ofCallback_iff.mpr ⟨⟨e, hreports⟩, hids⟩

/-- What a body is, and why. -/
theorem Payload.ofJson_cases (v : Json) :
    (∃ x, Challenges v x ∧ (ofJson v).1 = .challenge x) ∨
    (∃ sender text ownIds, Speaks v sender text ownIds ∧
      (ofJson v).1 = .userMessage sender text ownIds) ∨
    (∀ x, ¬ Challenges v x) ∧ (∀ sender text ownIds, ¬ Speaks v sender text ownIds) ∧
      (ofJson v).1 = .unrecognized := by
  by_cases hchallenge : ∃ x, Challenges v x
  · obtain ⟨x, hx⟩ := hchallenge
    exact .inl ⟨x, hx, ofJson_of_challenges hx⟩
  have hno : ∀ x, ¬ Challenges v x := not_exists.mp hchallenge
  right
  by_cases hspeaks : ∃ sender text ownIds, Speaks v sender text ownIds
  · obtain ⟨sender, text, ownIds, h⟩ := hspeaks
    exact .inl ⟨sender, text, ownIds, h, ofJson_of_speaks h⟩
  simp only [not_exists] at hspeaks
  refine .inr ⟨hno, hspeaks, ?_⟩
  by_cases hcallback : ∃ c, IsCallback v c
  · obtain ⟨c, hc⟩ := hcallback
    rw [ofJson_of_isCallback hno hc]
    rcases ofCallback_cases c with ⟨sender, text, ownIds, h⟩ | h
    · obtain ⟨⟨e, hreports⟩, hids⟩ := ofCallback_iff.mp h
      exact absurd ⟨hno, c, e, hc, hreports, hids⟩ (hspeaks sender text ownIds)
    · exact h
  · exact ofJson_of_not_isCallback hno (not_exists.mp hcallback)

theorem Payload.ofJson_eq_challenge_iff {v x : Json} :
    (ofJson v).1 = .challenge x ↔ Challenges v x := by
  constructor
  · intro h
    rcases ofJson_cases v with ⟨y, hy, hv⟩ | ⟨_, _, _, _, hv⟩ | ⟨_, _, hv⟩
    all_goals cases hv.symm.trans h
    exact hy
  · exact ofJson_of_challenges

theorem Payload.ofJson_eq_userMessage_iff {v : Json} {sender text : String}
    {ownIds : List String} :
    (ofJson v).1 = .userMessage sender text ownIds ↔ Speaks v sender text ownIds := by
  constructor
  · intro h
    rcases ofJson_cases v with ⟨_, _, hv⟩ | ⟨_, _, _, hspeaks, hv⟩ | ⟨_, _, hv⟩
    all_goals cases hv.symm.trans h
    exact hspeaks
  · exact ofJson_of_speaks

theorem Payload.ofJson_eq_unrecognized_iff {v : Json} :
    (ofJson v).1 = .unrecognized ↔
      (∀ x, ¬ Challenges v x) ∧ ∀ sender text ownIds, ¬ Speaks v sender text ownIds := by
  constructor
  · intro h
    rcases ofJson_cases v with ⟨_, _, hv⟩ | ⟨_, _, _, _, hv⟩ | ⟨hno, hspeaks, _⟩
    · cases hv.symm.trans h
    · cases hv.symm.trans h
    · exact ⟨hno, hspeaks⟩
  · rintro ⟨hno, hspeaks⟩
    rcases ofJson_cases v with ⟨x, hx, _⟩ | ⟨_, _, _, h, _⟩ | ⟨_, _, hv⟩
    · exact absurd hx (hno x)
    · exact absurd h (hspeaks _ _ _)
    · exact hv

/-! ## Misfits -/

/-- Whether a record that names its fields, or lists them in this order, has a value in one of them. -/
inductive Holds (fields : List String) (key : String) : Json → Json → Prop where
  | named {members : List (String × Json)} {x : Json} (h : (key, x) ∈ members) :
      Holds fields key (.object members) x
  | listed {items : List Json} {x : Json} {i : Nat} (hkey : fields[i]? = some key)
      (hx : items[i]? = some x) : Holds fields key (.array items) x

def eventFields : List String := ["type", "text", "user", "bot_id"]

def callbackFields : List String := ["event", "authed_users", "authorizations"]

/-- A value that is neither a text nor null. -/
def NoText (x : Json) : Prop := x ≠ .null ∧ ∀ s, x ≠ .text s

/-- A value of a wrong kind in a place that callbacks know. -/
inductive Misfit (v : Json) : Prop where
  | event {e : Json} (h : Holds callbackFields "event" v e) (hnull : e ≠ .null)
      (hobject : ∀ members, e ≠ .object members) (hlist : ∀ k t u b, e ≠ .array [k, t, u, b])
  | eventField {e x : Json} {key : String} (h : Holds callbackFields "event" v e)
      (hx : Holds eventFields key e x) (hkey : key ∈ eventFields) (htext : NoText x)
  | users {x : Json} (h : Holds callbackFields "authed_users" v x) (hlist : ∀ items, x ≠ .array items)
  | user {items : List Json} {x : Json} (h : Holds callbackFields "authed_users" v (.array items))
      (hx : x ∈ items) (htext : ∀ s, x ≠ .text s)
  | authorizations {x : Json} (h : Holds callbackFields "authorizations" v x)
      (hlist : ∀ items, x ≠ .array items)
  | authorization {items : List Json} {x : Json}
      (h : Holds callbackFields "authorizations" v (.array items)) (hx : x ∈ items)
      (hobject : ∀ members, x ≠ .object members) (hlist : ∀ u, x ≠ .array [u])
  | authorizedUser {items : List Json} {a x : Json}
      (h : Holds callbackFields "authorizations" v (.array items)) (ha : a ∈ items)
      (hx : Holds ["user_id"] "user_id" a x) (htext : NoText x)

theorem eq_of_isText {v : Json} {s : String} (h : IsText v s) : v = .text s := by
  cases v with
  | text t => exact congrArg Json.text (Option.some.inj h)
  | _ => cases h

theorem eq_of_isNull {v : Json} (h : Source.isNull v = true) : v = .null := by
  cases v with
  | null => rfl
  | _ => cases h

theorem eq_of_listOf {β : Type} {R : Json → β → Prop} {v : Json} {xs : List β}
    (h : ListOf R v xs) : ∃ items, v = .array items := by
  obtain ⟨hitems, -⟩ := h
  cases v with
  | array items => exact ⟨items, rfl⟩
  | _ => cases hitems

theorem NoText.not_nullOr {x : Json} (h : NoText x) (o : Option String) : ¬ NullOr IsText x o := by
  intro hx
  rcases hx.isNull_or with hnull | ⟨s, hs⟩
  · exact h.1 (eq_of_isNull hnull)
  · exact h.2 s (eq_of_isText hs)

theorem IsCallback.event_of_holds {v e : Json} {c : Callback} (h : IsCallback v c)
    (he : Holds callbackFields "event" v e) : NullOr IsEvent e c.event := by
  cases he with
  | named hm =>
      cases h with
      | named hevent _ _ => exact hevent.of_mem hm
  | @listed items _ i hkey hx =>
      obtain rfl : i = 0 := by
        rcases i with _ | _ | _ | i <;> simp [callbackFields] at hkey ⊢
      cases h <;> cases hx <;> assumption

theorem IsCallback.users_of_holds {v x : Json} {c : Callback} (h : IsCallback v c)
    (hx : Holds callbackFields "authed_users" v x) : ListOf IsText x c.authedUsers := by
  cases hx with
  | named hm =>
      cases h with
      | named _ husers _ => exact husers.of_mem hm
  | @listed items _ i hkey hx =>
      obtain rfl : i = 1 := by
        rcases i with _ | _ | _ | i <;> simp [callbackFields] at hkey ⊢
      cases h <;> cases hx <;> assumption

theorem IsCallback.authorizations_of_holds {v x : Json} {c : Callback} (h : IsCallback v c)
    (hx : Holds callbackFields "authorizations" v x) :
    ListOf IsAuthorization x c.authorized := by
  cases hx with
  | named hm =>
      cases h with
      | named _ _ hauthorized => exact hauthorized.of_mem hm
  | @listed items _ i hkey hx =>
      obtain rfl : i = 2 := by
        rcases i with _ | _ | _ | i <;> simp [callbackFields] at hkey ⊢
      cases h <;> cases hx
      assumption

/-- Every known field of an event is a text or null. -/
theorem IsEvent.field_of_holds {e x : Json} {event : Event} (h : IsEvent e event) {key : String}
    (hkey : key ∈ eventFields) (hx : Holds eventFields key e x) : ∃ o, NullOr IsText x o := by
  cases hx with
  | named hm =>
      cases h with
      | named hkind htext huser hbotId =>
          simp only [eventFields, List.mem_cons, List.not_mem_nil, or_false] at hkey
          rcases hkey with rfl | rfl | rfl | rfl
          · exact ⟨_, hkind.of_mem hm⟩
          · exact ⟨_, htext.of_mem hm⟩
          · exact ⟨_, huser.of_mem hm⟩
          · exact ⟨_, hbotId.of_mem hm⟩
  | @listed items _ i hkey hx =>
      cases h with
      | listed hkind htext huser hbotId =>
          rcases i with _ | _ | _ | _ | i <;> cases hx
          · exact ⟨_, hkind⟩
          · exact ⟨_, htext⟩
          · exact ⟨_, huser⟩
          · exact ⟨_, hbotId⟩

theorem IsEvent.botId_of_holds {e x : Json} {event : Event} (h : IsEvent e event)
    (hx : Holds eventFields "bot_id" e x) : NullOr IsText x event.botId := by
  cases hx with
  | named hm =>
      cases h with
      | named _ _ _ hbotId => exact hbotId.of_mem hm
  | @listed items _ i hkey hx =>
      obtain rfl : i = 3 := by
        rcases i with _ | _ | _ | _ | i <;> simp [eventFields] at hkey ⊢
      cases h
      cases hx
      assumption

theorem IsAuthorization.user_of_holds {a x : Json} {user : Option String}
    (h : IsAuthorization a user) (hx : Holds ["user_id"] "user_id" a x) :
    NullOr IsText x user := by
  cases hx with
  | named hm =>
      cases h with
      | named huser => exact huser.of_mem hm
  | @listed items _ i hkey hx =>
      obtain rfl : i = 0 := by
        rcases i with _ | i <;> simp at hkey ⊢
      cases h
      cases hx
      assumption

theorem IsCallback.not_misfit {v : Json} {c : Callback} (h : IsCallback v c) : ¬ Misfit v := by
  intro hv
  cases hv with
  | event he hnull hobject hlist =>
      rcases (h.event_of_holds he).isNull_or with hn | ⟨event, hevent⟩
      · exact hnull (eq_of_isNull hn)
      · cases hevent with
        | named => exact hobject _ rfl
        | listed => exact hlist _ _ _ _ rfl
  | eventField he hx hkey htext =>
      rcases (h.event_of_holds he).isNull_or with hn | ⟨event, hevent⟩
      · cases eq_of_isNull hn
        cases hx
      · obtain ⟨o, ho⟩ := hevent.field_of_holds hkey hx
        exact htext.not_nullOr o ho
  | users hx hlist =>
      obtain ⟨items, rfl⟩ := eq_of_listOf (h.users_of_holds hx)
      exact hlist items rfl
  | user hitems hx htext =>
      obtain ⟨s, hs⟩ := (h.users_of_holds hitems).exists_of_mem rfl hx
      exact htext s (eq_of_isText hs)
  | authorizations hx hlist =>
      obtain ⟨items, rfl⟩ := eq_of_listOf (h.authorizations_of_holds hx)
      exact hlist items rfl
  | authorization hitems hx hobject hlist =>
      obtain ⟨user, ha⟩ := (h.authorizations_of_holds hitems).exists_of_mem rfl hx
      cases ha with
      | named => exact hobject _ rfl
      | listed => exact hlist _ rfl
  | authorizedUser hitems ha hx htext =>
      obtain ⟨user, hauthorization⟩ := (h.authorizations_of_holds hitems).exists_of_mem rfl ha
      exact htext.not_nullOr user (hauthorization.user_of_holds hx)

/-- An event with the number of a bot is no message, in whichever body it is reported. -/
theorem Speaks.botId {v e : Json} {id sender text : String} {ownIds : List String}
    (h : Speaks v sender text ownIds) (he : Holds callbackFields "event" v e)
    (hid : Holds eventFields "bot_id" e (.text id)) : id = "" := by
  obtain ⟨-, c, event, hc, hreports, -⟩ := h
  have hread := hc.event_of_holds he
  rw [hreports.event_eq] at hread
  have hbot := hread.of_some.botId_of_holds hid
  rcases hreports.noBot with hnone | hempty
  · rw [hnone] at hbot
    cases hbot with
    | null h => cases h
  · rw [hempty] at hbot
    exact Json.text.inj (eq_of_isText hbot.of_some)

/-! ## All bodies -/

/-- A body is a handshake if it has a challenge, whatever else it holds; it is a message if it is no
handshake and reports one; and otherwise it is nothing that concerns the connector.  So it is where one
value does not fit, and a message is never one of a bot's. -/
theorem body_means_what_it_holds (v : Json) :
    (∀ x, (Payload.ofJson v).1 = .challenge x ↔ Challenges v x) ∧
    (∀ sender text ownIds,
      (Payload.ofJson v).1 = .userMessage sender text ownIds ↔ Speaks v sender text ownIds) ∧
    ((Payload.ofJson v).1 = .unrecognized ↔
      (∀ x, ¬ Challenges v x) ∧ ∀ sender text ownIds, ¬ Speaks v sender text ownIds) ∧
    (Misfit v → (∀ x, ¬ Challenges v x) → (Payload.ofJson v).1 = .unrecognized) ∧
    (∀ e id, Holds callbackFields "event" v e → Holds eventFields "bot_id" e (.text id) → id ≠ "" →
      ∀ sender text ownIds, (Payload.ofJson v).1 ≠ .userMessage sender text ownIds) := by
  refine ⟨fun x => Payload.ofJson_eq_challenge_iff,
    fun sender text ownIds => Payload.ofJson_eq_userMessage_iff,
    Payload.ofJson_eq_unrecognized_iff, ?_, ?_⟩
  · intro hmisfit hno
    exact Payload.ofJson_of_not_isCallback hno fun c hc => hc.not_misfit hmisfit
  · intro e id he hid hne sender text ownIds hmessage
    exact hne ((Payload.ofJson_eq_userMessage_iff.mp hmessage).botId he hid)

/-- A callback that lists its fields is read too, and what lacks a sender has the empty one; with null
for its list of users the same callback is nothing. -/
theorem listed_callback_speaks_and_null_users_spoil :
    (Payload.ofJson (.array [.array [.text "message", .text "hi", .null, .text ""],
        .array [.text "U1"]])).1 = .userMessage "" "hi" ["U1"] ∧
      (Payload.ofJson (.array [.array [.text "message", .text "hi", .null, .text ""],
        .null])).1 = .unrecognized := by
  constructor
  · refine ((body_means_what_it_holds _).2.1 _ _ _).mpr ⟨?_, ⟨some ⟨some "message", some "hi", none,
      some ""⟩, ["U1"], []⟩, ⟨some "message", some "hi", none, some ""⟩, ?_, ?_, by decide⟩
    · rintro x ⟨before, after, h, -⟩
      cases h
    · exact .users (.value rfl (.listed (.value rfl rfl) (.value rfl rfl) (.null rfl)
        (.value rfl rfl))) (.mk rfl (.cons rfl .nil))
    · exact ⟨rfl, .inl rfl, rfl, by decide, .inr rfl, rfl⟩
  · refine (body_means_what_it_holds _).2.2.2.1 (.users (.listed (i := 1) rfl rfl) ?_) ?_
    · intro items h
      cases h
    · rintro x ⟨before, after, h, -⟩
      cases h

end Switchboard.Inbound
