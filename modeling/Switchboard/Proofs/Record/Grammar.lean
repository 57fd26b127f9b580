/-
# What records say

A grammar for records with known fields, told by the values and not by their reader: what members say
of a key (`Says`), what stands in a field that may be left out (`Field`), and values that may be null
or that are lists.  For each way of reading a field there is one `iff` with its part of the grammar.
-/
import Switchboard.Proofs.Rows
import Switchboard.Record

namespace Switchboard.Record

variable {α β : Type} {members : List (String × α)} {key : String}

/-- What members say of a key: the value of the member that has it, or nothing if none has it.  Two
members with the key say nothing that could be read. -/
inductive Says (members : List (String × α)) (key : String) : Option α → Prop where
  | once {before after : List (String × α)} {v : α} (hbefore : ∀ m ∈ before, m.1 ≠ key)
      (hafter : ∀ m ∈ after, m.1 ≠ key) (hmembers : members = before ++ (key, v) :: after) :
      Says members key (some v)
  | never (h : ∀ m ∈ members, m.1 ≠ key) : Says members key none

/-- A field that has a value when no member has its key. -/
inductive Field (R : α → β → Prop) (default : β) (members : List (String × α)) (key : String) :
    β → Prop where
  | absent (h : Says members key none) : Field R default members key default
  | present {v : α} {x : β} (h : Says members key (some v)) (hx : R v x) :
      Field R default members key x

section Source

variable [Source α]

/-- A value that is a text. -/
def IsText (v : α) (s : String) : Prop := Source.text? v = some s

/-- A value that may be null. -/
inductive NullOr (R : α → β → Prop) : α → Option β → Prop where
  | null {v : α} (h : Source.isNull v = true) : NullOr R v none
  | value {v : α} {x : β} (h : Source.isNull v = false) (hx : R v x) : NullOr R v (some x)

/-- A value that is a list. -/
inductive ListOf (R : α → β → Prop) : α → List β → Prop where
  | mk {v : α} {items : List α} {xs : List β} (h : Source.items? v = some items)
      (hitems : List.Forall₂ R items xs) : ListOf R v xs

end Source

section Source

variable [Source α] {R : α → β → Prop}

theorem NullOr.isNull_or {v : α} {o : Option β} (h : NullOr R v o) :
    Source.isNull v = true ∨ ∃ x, R v x := by
  cases h with
  | null h => exact .inl h
  | value _ hx => exact .inr ⟨_, hx⟩

theorem NullOr.of_some {v : α} {x : β} (h : NullOr R v (some x)) : R v x := by
  cases h with
  | value _ hx => exact hx

/-- Each item of a list stands for something. -/
theorem ListOf.exists_of_mem {v : α} {items : List α} {xs : List β} (h : ListOf R v xs)
    (hv : Source.items? v = some items) {x : α} (hx : x ∈ items) : ∃ y, R x y := by
  obtain ⟨hitems, hall⟩ := h
  cases hitems.symm.trans hv
  obtain ⟨y, -, hy⟩ := hall.exists_of_mem_left hx
  exact ⟨y, hy⟩

end Source

/-! ## Members -/

/-- No two members of one key are there where something is said of it. -/
theorem Says.eq_of_mem {o : Option α} (h : Says members key o) {v : α}
    (hv : (key, v) ∈ members) : o = some v := by
  cases h with
  | never h => exact absurd rfl (h _ hv)
  | once hbefore hafter hmembers =>
      subst hmembers
      rcases List.mem_append.mp hv with hv | hv
      · exact absurd rfl (hbefore _ hv)
      · rcases List.mem_cons.mp hv with hv | hv
        · rw [(Prod.mk.inj hv).2]
        · exact absurd rfl (hafter _ hv)

/-- What is said is said by all members with the key. -/
theorem says_iff {o : Option α} :
    Says members key o ↔ members.filter (fun m => m.1 == key) = (o.map (Prod.mk key)).toList := by
  constructor
  · intro h
    cases h with
    | never h => exact List.filter_eq_nil_iff.mpr fun m hm he => h m hm (beq_iff_eq.mp he)
    | once hbefore hafter hmembers =>
        exact List.filter_eq_cons_iff.mpr ⟨_, _, hmembers,
          fun m hm he => hbefore m hm (beq_iff_eq.mp he), beq_self_eq_true key,
          List.filter_eq_nil_iff.mpr fun m hm he => hafter m hm (beq_iff_eq.mp he)⟩
  · intro h
    cases o with
    | none =>
        exact .never fun m hm he => List.filter_eq_nil_iff.mp h m hm (beq_iff_eq.mpr he)
    | some v =>
        obtain ⟨before, after, hmembers, hbefore, -, hafter⟩ := List.filter_eq_cons_iff.mp h
        exact .once (fun m hm he => hbefore m hm (beq_iff_eq.mpr he))
          (fun m hm he => List.filter_eq_nil_iff.mp hafter m hm (beq_iff_eq.mpr he)) hmembers

/-- Another value in one member changes nothing that is said of other keys. -/
theorem Says.of_ne {before after : List (String × α)} {other : String} {v v' : α} {o : Option α}
    (h : Says (before ++ (other, v) :: after) key o) (hne : other ≠ key) :
    Says (before ++ (other, v') :: after) key o := by
  rw [says_iff] at h ⊢
  rw [← h]
  simp [List.filter_append, hne]

theorem Says.replace {before after : List (String × α)} {v v' : α} {o : Option α}
    (h : Says (before ++ (key, v) :: after) key o) :
    Says (before ++ (key, v') :: after) key (some v') := by
  have ho : o = some v := h.eq_of_mem (by simp)
  subst ho
  have hcount : (before.filter fun m => m.1 == key).length
      + ((after.filter fun m => m.1 == key).length + 1) = 1 := by
    simpa [List.filter_append] using congrArg List.length (says_iff.mp h)
  have hbefore : (before.filter fun m => m.1 == key) = [] :=
    List.length_eq_zero_iff.mp (by omega)
  have hafter : (after.filter fun m => m.1 == key) = [] :=
    List.length_eq_zero_iff.mp (by omega)
  exact .once (fun m hm he => List.filter_eq_nil_iff.mp hbefore m hm (beq_iff_eq.mpr he))
    (fun m hm he => List.filter_eq_nil_iff.mp hafter m hm (beq_iff_eq.mpr he)) rfl

/-- The value in a field stands for what the field holds. -/
theorem Field.of_mem {R : α → β → Prop} {default x : β} (h : Field R default members key x)
    {v : α} (hv : (key, v) ∈ members) : R v x := by
  cases h with
  | absent h => cases h.eq_of_mem hv
  | present h hx =>
      cases h.eq_of_mem hv
      exact hx

theorem Field.of_ne {R : α → β → Prop} {default x : β} {before after : List (String × α)}
    {other : String} {v v' : α} (h : Field R default (before ++ (other, v) :: after) key x)
    (hne : other ≠ key) : Field R default (before ++ (other, v') :: after) key x := by
  cases h with
  | absent h => exact .absent (h.of_ne hne)
  | present h hx => exact .present (h.of_ne hne) hx

theorem Field.replace {R : α → β → Prop} {default x x' : β} {before after : List (String × α)}
    {v v' : α} (h : Field R default (before ++ (key, v) :: after) key x) (hx' : R v' x') :
    Field R default (before ++ (key, v') :: after) key x' := by
  cases h with
  | absent h => exact .present h.replace hx'
  | present h _ => exact .present h.replace hx'

/-- The slot of a field of which members say this. -/
def Slot.named : Option α → Slot α
  | some v => .given v
  | none => .unnamed

theorem namedSlot?_eq_some_iff {slot : Slot α} :
    namedSlot? members [key] = some slot ↔ ∃ o, Says members key o ∧ slot = .named o := by
  have hkey : (fun m : String × α => [key].contains m.1) = fun m => m.1 == key := by
    funext m
    rw [List.contains_cons, List.contains_nil, Bool.or_false]
  unfold namedSlot?
  simp only [says_iff, hkey]
  constructor
  · intro h
    split at h
    · rename_i hfilter
      cases h
      exact ⟨none, hfilter, rfl⟩
    · rename_i m hfilter
      cases h
      have hmem : m ∈ members.filter fun m => m.1 == key := by
        rw [hfilter]
        exact List.mem_singleton_self m
      have hm : m.1 = key := beq_iff_eq.mp (List.mem_filter.mp hmem).2
      exact ⟨some m.2, by rw [hfilter, ← hm]; rfl, rfl⟩
    · cases h
  · rintro ⟨_ | v, ho, rfl⟩
    · rw [ho]
      rfl
    · rw [ho]
      rfl

/-! ## Fields -/

section Read

variable {R : α → β → Prop} {read : α → Option β} (hread : ∀ v x, read v = some x ↔ R v x)
include hread

/-- A field that must be there. -/
theorem required_iff {x : β} :
    (namedSlot? members [key]).bind (Slot.required read) = some x ↔
      ∃ v, Says members key (some v) ∧ R v x := by
  simp only [Option.bind_eq_some_iff, namedSlot?_eq_some_iff]
  constructor
  · rintro ⟨slot, ⟨_ | v, ho, rfl⟩, hx⟩
    · cases hx
    · exact ⟨v, ho, (hread v x).mp hx⟩
  · rintro ⟨v, hv, hx⟩
    exact ⟨_, ⟨some v, hv, rfl⟩, (hread v x).mpr hx⟩

/-- A field that has a value when it is absent. -/
theorem orDefault_iff {default x : β} :
    (namedSlot? members [key]).bind (Slot.orDefault default read) = some x ↔
      Field R default members key x := by
  simp only [Option.bind_eq_some_iff, namedSlot?_eq_some_iff]
  constructor
  · rintro ⟨slot, ⟨_ | v, ho, rfl⟩, hx⟩
    · cases hx
      exact .absent ho
    · exact .present ho ((hread v x).mp hx)
  · intro h
    cases h with
    | absent h => exact ⟨_, ⟨none, h, rfl⟩, rfl⟩
    | @present v _ h hx => exact ⟨_, ⟨some v, h, rfl⟩, (hread v x).mpr hx⟩

variable [Source α]

theorem nullable_iff {v : α} {o : Option β} :
    Slot.nullable read v = some o ↔ NullOr R v o := by
  unfold Slot.nullable
  constructor
  · intro h
    split at h
    · rename_i hnull
      cases h
      exact .null hnull
    · rename_i hnull
      obtain ⟨x, hx, rfl⟩ := Option.map_eq_some_iff.mp h
      exact .value (Bool.eq_false_iff.mpr hnull) ((hread v x).mp hx)
  · intro h
    cases h with
    | null h => exact if_pos h
    | value h hx => rw [if_neg (Bool.eq_false_iff.mp h), (hread _ _).mpr hx, Option.map_some]

/-- A field that may be null or go unnamed. -/
theorem optional_iff {o : Option β} :
    (namedSlot? members [key]).bind (Slot.optional read) = some o ↔
      Field (NullOr R) none members key o := by
  have hdefault : ∀ slot : Option α, Slot.optional read (.named slot)
      = Slot.orDefault none (Slot.nullable read) (.named slot) := by
    intro slot
    cases slot <;> rfl
  rw [← orDefault_iff fun _ _ => nullable_iff hread]
  simp only [Option.bind_eq_some_iff, namedSlot?_eq_some_iff]
  constructor
  · rintro ⟨slot, ⟨said, hsaid, rfl⟩, hx⟩
    exact ⟨_, ⟨said, hsaid, rfl⟩, hdefault said ▸ hx⟩
  · rintro ⟨slot, ⟨said, hsaid, rfl⟩, hx⟩
    exact ⟨_, ⟨said, hsaid, rfl⟩, (hdefault said).symm ▸ hx⟩

omit [Source α] in
theorem mapM_eq_some_iff {items : List α} {xs : List β} :
    items.mapM read = some xs ↔ List.Forall₂ R items xs := by
  induction items generalizing xs with
  | nil =>
      rw [List.mapM_nil, List.forall₂_nil_left_iff]
      exact ⟨fun h => (Option.some.inj h).symm, fun h => congrArg some h.symm⟩
  | cons v items ih =>
      simp only [List.mapM_cons, Option.bind_eq_bind, Option.bind_eq_some_iff, Option.pure_def,
        Option.some.injEq, List.forall₂_cons_left_iff, hread, ih]
      constructor
      · rintro ⟨x, hx, rest, hrest, rfl⟩
        exact ⟨x, rest, hx, hrest, rfl⟩
      · rintro ⟨x, rest, hx, hrest, rfl⟩
        exact ⟨x, hx, rest, hrest, rfl⟩

theorem listOf?_iff {v : α} {xs : List β} : listOf? read v = some xs ↔ ListOf R v xs := by
  unfold listOf?
  constructor
  · intro h
    split at h
    · rename_i items hv
      exact .mk hv ((mapM_eq_some_iff hread).mp h)
    · cases h
  · rintro ⟨hv, h⟩
    rw [hv]
    exact (mapM_eq_some_iff hread).mpr h

end Read

/-! ## Named fields -/

/-- The slots of a value that names its fields. -/
theorem slots?_named [Source α] {fields : List Names} {v : α}
    (h : Source.shape? v = some (.named members)) :
    slots? fields v = fields.mapM (namedSlot? members) := by
  rw [slots?, h]

end Switchboard.Record
