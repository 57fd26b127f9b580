/-
# The ids of the bot

A callback gives ids outright and in its authorizations.  `Adds users listed more` says what a row
`listed` adds to `users`, without the loop that gathers it: every id that is missing, once, in the
order in which the row first names them.  One more id of the row keeps it (`Adds.addId`), so the whole
row does (`Adds.foldl`), and there is only one such addition (`Adds.unique`).

The main statement, `message_carries_each_own_id`, is about bodies.  A user who is listed again
somewhere behind adds nothing.
-/
import Switchboard.Proofs.Inbound.Callback

namespace Switchboard.Inbound

/-- What a row of ids adds to those that are there. -/
structure Adds (users listed more : List String) : Prop where
  fresh : ∀ id ∈ more, id ∉ users
  inOrder : more.Pairwise fun a b => listed.idxOf a < listed.idxOf b
  mem_iff : ∀ id, id ∈ users ∨ id ∈ more ↔ id ∈ users ∨ id ∈ listed

section

variable {users listed more : List String}

theorem addId_of_mem {ids : List String} {id : String} (h : id ∈ ids) : addId ids id = ids :=
  if_pos (List.contains_iff_mem.mpr h)

theorem addId_of_notMem {ids : List String} {id : String} (h : id ∉ ids) :
    addId ids id = ids ++ [id] :=
  if_neg fun hcontains => h (List.contains_iff_mem.mp hcontains)

namespace Adds

theorem nil (users : List String) : Adds users [] [] :=
  ⟨fun _ h => absurd h List.not_mem_nil, .nil, fun _ => Iff.rfl⟩

theorem mem_listed (h : Adds users listed more) {id : String} (hid : id ∈ more) : id ∈ listed :=
  ((h.mem_iff id).mp (.inr hid)).resolve_left (h.fresh id hid)

/-- An id comes before itself nowhere. -/
theorem nodup (h : Adds users listed more) : more.Nodup :=
  h.inOrder.imp fun hlt heq => Nat.ne_of_lt hlt (congrArg listed.idxOf heq)

/-- A longer row names at its end what it has not named before, and the order of what it has named
stays. -/
theorem inOrder_append (h : Adds users listed more) (id : String) :
    more.Pairwise fun a b => (listed ++ [id]).idxOf a < (listed ++ [id]).idxOf b := by
  refine h.inOrder.imp_of_mem fun {a b} ha hb hlt => ?_
  rwa [List.idxOf_append_of_mem (h.mem_listed ha), List.idxOf_append_of_mem (h.mem_listed hb)]

/-- One more id of the row: it is there already, or it comes to the end. -/
theorem addId (h : Adds users listed more) (id : String) :
    ∃ more', addId (users ++ more) id = users ++ more' ∧ Adds users (listed ++ [id]) more' := by
  by_cases hid : id ∈ users ++ more
  · refine ⟨more, addId_of_mem hid, h.fresh, h.inOrder_append id, fun x => ?_⟩
    have hlisted : id ∈ users ∨ id ∈ listed := (h.mem_iff id).mp (List.mem_append.mp hid)
    rw [h.mem_iff, List.mem_append, List.mem_singleton]
    constructor
    · exact Or.imp_right .inl
    · rintro (hx | hx | rfl)
      · exact .inl hx
      · exact .inr hx
      · exact hlisted
  · have hnew : id ∉ users ∧ id ∉ more := by rwa [List.mem_append, not_or] at hid
    have hunlisted : id ∉ listed := fun hl => ((h.mem_iff id).mpr (.inr hl)).elim hnew.1 hnew.2
    refine ⟨more ++ [id], by rw [addId_of_notMem hid, List.append_assoc], ?_, ?_, fun x => ?_⟩
    · intro x hx
      rcases List.mem_append.mp hx with hx | hx
      · exact h.fresh x hx
      · rw [List.mem_singleton.mp hx]
        exact hnew.1
    · refine List.pairwise_append.mpr ⟨h.inOrder_append id, List.pairwise_singleton _ _, ?_⟩
      intro a ha b hb
      obtain rfl : b = id := List.mem_singleton.mp hb
      rw [List.idxOf_append_of_mem (h.mem_listed ha), List.idxOf_append_of_notMem hunlisted]
      exact Nat.lt_of_lt_of_le (List.idxOf_lt_length_of_mem (h.mem_listed ha)) (Nat.le_add_right _ _)
    · rw [List.mem_append, ← or_assoc, h.mem_iff, or_assoc, ← List.mem_append]

/-- All the ids of a row, by induction on it: what has been named so far is the invariant. -/
theorem foldl (h : Adds users listed more) (ids : List String) :
    ∃ more', ids.foldl Inbound.addId (users ++ more) = users ++ more' ∧
      Adds users (listed ++ ids) more' := by
  induction ids generalizing listed more with
  | nil => exact ⟨more, rfl, by rwa [List.append_nil]⟩
  | cons id ids ih =>
      obtain ⟨grown, hgrown, hadds⟩ := h.addId id
      obtain ⟨more', hmore, hall⟩ := ih hadds
      rw [List.append_assoc, List.singleton_append] at hall
      exact ⟨more', by rw [List.foldl_cons, hgrown, hmore], hall⟩

/-- A row adds the same ids whoever gathers them. -/
theorem unique {more' : List String} (h : Adds users listed more) (h' : Adds users listed more') :
    more = more' := by
  have hmem : ∀ id, id ∈ more ↔ id ∈ more' := fun id =>
    ⟨fun hid => ((h'.mem_iff id).mpr (.inr (h.mem_listed hid))).resolve_left (h.fresh id hid),
      fun hid => ((h.mem_iff id).mpr (.inr (h'.mem_listed hid))).resolve_left (h'.fresh id hid)⟩
  have hperm : more.Perm more' := (List.perm_ext_iff_of_nodup h.nodup h'.nodup).mpr hmem
  exact hperm.eq_of_pairwise (fun a b _ _ hab hba => absurd hab (Nat.lt_asymm hba)) h.inOrder h'.inOrder

end Adds

theorem exists_adds (users listed : List String) :
    ∃ more, listed.foldl addId users = users ++ more ∧ Adds users listed more := by
  simpa only [List.append_nil, List.nil_append] using (Adds.nil users).foldl listed

/-- An id that is there, or that the row has named before, is passed over. -/
theorem foldl_addId_again {front back : List String} {id : String} (h : id ∈ users ∨ id ∈ front) :
    (front ++ id :: back).foldl addId users = (front ++ back).foldl addId users := by
  obtain ⟨gathered, hgathered, hadds⟩ := exists_adds users front
  have hthere : id ∈ users ++ gathered := List.mem_append.mpr ((hadds.mem_iff id).mpr h)
  rw [List.foldl_append, List.foldl_append, hgathered, List.foldl_cons, addId_of_mem hthere]

end

namespace Callback

/-- The users whom the authorizations name, in order. -/
def named (c : Callback) : List String := c.authorized.filterMap id

theorem ownIds_eq_iff {c : Callback} {more : List String} :
    c.ownIds = c.authedUsers ++ more ↔ Adds c.authedUsers c.named more := by
  obtain ⟨added, hids, hadds⟩ := exists_adds c.authedUsers c.named
  constructor
  · intro h
    rwa [← List.append_cancel_left (hids.symm.trans h)]
  · intro h
    rw [← hadds.unique h]
    exact hids

/-- Whether the second callback is the first with one more authorization: one that names no user, or
one who is given outright or named before. -/
inductive ListsAgain : Callback → Callback → Prop where
  | mk {event : Option Event} {users : List String} {front back : List (Option String)}
      {user : Option String} (h : ∀ id ∈ user, id ∈ users ∨ some id ∈ front) :
      ListsAgain ⟨event, users, front ++ back⟩ ⟨event, users, front ++ user :: back⟩

theorem ListsAgain.ownIds_eq {c c' : Callback} (h : ListsAgain c c') : c'.ownIds = c.ownIds := by
  obtain @⟨event, users, front, back, user, hagain⟩ := h
  simp only [ownIds, List.filterMap_append]
  cases user with
  | none => rfl
  | some id =>
      refine foldl_addId_again ((hagain id rfl).imp_right fun hfront => ?_)
      exact List.mem_filterMap.mpr ⟨some id, hfront, rfl⟩

end Callback

/-- A message carries the ids that its callback gives outright, and behind them each that only the
authorizations give, once, in the order in which they first name it.  None is missed, and the message
is the same when the callback lists an id again. -/
theorem message_carries_each_own_id {v : Json} {sender text : String} {ids : List String}
    (h : (Payload.ofJson v).1 = .userMessage sender text ids) :
    ∃ c more, IsCallback v c ∧ (∀ c', IsCallback v c' → c' = c) ∧
      ids = c.authedUsers ++ more ∧ Adds c.authedUsers c.named more ∧ more.Nodup ∧
      (∀ id, id ∈ ids ↔ id ∈ c.authedUsers ∨ id ∈ c.named) ∧
      ∀ v' c', (∀ x, ¬ Challenges v' x) → IsCallback v' c' → c.ListsAgain c' →
        (Payload.ofJson v').1 = .userMessage sender text ids := by
  obtain ⟨-, c, e, hc, hreports, hids⟩ := Payload.ofJson_eq_userMessage_iff.mp h
  obtain ⟨more, -, hadds⟩ := exists_adds c.authedUsers c.named
  have hall : ids = c.authedUsers ++ more := hids.symm.trans (Callback.ownIds_eq_iff.mpr hadds)
  refine ⟨c, more, hc, fun c' hc' => ?_, hall, hadds, hadds.nodup, fun id => ?_, ?_⟩
  · exact Option.some.inj ((Callback.ofJson?_iff.mpr hc').symm.trans (Callback.ofJson?_iff.mpr hc))
  · rw [hall, List.mem_append, hadds.mem_iff]
  · intro v' c' hno hc' hagain
    have hreports' : c'.Reports e sender text := by
      obtain ⟨-⟩ := hagain
      exact { hreports with }
    exact Payload.ofJson_of_speaks ⟨hno, c', e, hc', hreports', hagain.ownIds_eq.trans hids⟩

/-- A callback with two equal ids, which one authorization names too, and with an authorization that
names no user; these are the authorizations that it has besides. -/
def crowdedBody (authorizations : List Json) : Json :=
  .object [("event", .object [("type", .text "message"), ("text", .text "hi"), ("user", .text "U7")]),
    ("authed_users", .array [.text "UA", .text "UA"]),
    ("authorizations", .array (.object [("user_id", .text "UB")] :: .object [("is_bot", .bool true)] ::
      .array [.text "UA"] :: authorizations))]

/-- The id given twice stays, and the one named again comes once: with the authorization that repeats
it, and without. -/
theorem repeated_ids_come_once :
    (Payload.ofJson (crowdedBody [.array [.text "UC"]])).1
        = .userMessage "U7" "hi" ["UA", "UA", "UB", "UC"] ∧
      (Payload.ofJson (crowdedBody [.array [.text "UC"], .array [.text "UB"]])).1
        = .userMessage "U7" "hi" ["UA", "UA", "UB", "UC"] := by
  let e : Event := ⟨some "message", some "hi", some "U7", none⟩
  let c : Callback := ⟨e, ["UA", "UA"], [some "UB", none, some "UA", some "UC"]⟩
  let c' : Callback := ⟨e, ["UA", "UA"], [some "UB", none, some "UA", some "UC", some "UB"]⟩
  have hc : IsCallback (crowdedBody [.array [.text "UC"]]) c := Callback.ofJson?_iff.mp rfl
  have hc' : IsCallback (crowdedBody [.array [.text "UC"], .array [.text "UB"]]) c' :=
    Callback.ofJson?_iff.mp rfl
  have hmessage : (Payload.ofJson (crowdedBody [.array [.text "UC"]])).1
      = .userMessage "U7" "hi" ["UA", "UA", "UB", "UC"] := rfl
  obtain ⟨read, more, -, hunique, -, -, -, -, hagain⟩ := message_carries_each_own_id hmessage
  have hread : c = read := hunique c hc
  subst hread
  have hlists : c.ListsAgain c' := by
    refine @Callback.ListsAgain.mk e c.authedUsers c.authorized [] (some "UB") fun id hid => ?_
    cases hid
    exact .inr List.mem_cons_self
  refine ⟨hmessage, hagain _ c' ?_ hc' hlists⟩
  intro x hx
  cases get?_challenge_iff.mpr hx

end Switchboard.Inbound
