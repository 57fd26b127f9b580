/-
# Members of documents

What a document says under a key is said by the last of its members with that key (`LastMember`), and
it is what the object has that the reader makes of it (`lastMember_iff`).  A printed object whose keys
are different is read as an object with the same members (`exists_read?_print`).
-/
import Switchboard.Proofs.Json.Settled

namespace Switchboard.Json

/-- A document of an object whose last member with a key has a value. -/
inductive LastMember : List Char → String → Json → Prop where
  | mk {document : List Char} {before after : List (List Piece × Term)} {key : List Piece} {t : Term}
      {room : Nat} {name : String} {object v : Json}
      (hread : Term.read? document = some (.object (before ++ (key, t) :: after)))
      (hobject : read? document = some object) (hkey : join? key = some name)
      (hafter : ∀ w ∈ after, join? w.1 ≠ some name) (hv : t.toJson? room = some v) :
      LastMember document name v

/-- What an object that is read has under a key is the value of its last member with it. -/
theorem exists_last_of_get? {room : Nat} {t : Term} {object v : Json} {name : String}
    (h : t.toJson? room = some object) (hget : object.get? name = some v) :
    ∃ before key value after room', t = .object (before ++ (key, value) :: after) ∧
      join? key = some name ∧ (∀ w ∈ after, join? w.1 ≠ some name) ∧ value.toJson? room' = some v := by
  rw [toJson?_iff] at h
  cases h with
  | @object room written members h =>
      obtain ⟨front, back, rfl, hback⟩ := exists_of_get?_ofMembers hget
      obtain ⟨before, ⟨key, value⟩, after, rfl, -, ⟨hkey, hvalue⟩, hafter⟩ := h.append_cons_right
      refine ⟨before, key, value, after, room, rfl, hkey, fun w hw hname => ?_, hvalue⟩
      obtain ⟨m, hm, hwm, -⟩ := hafter.exists_of_mem_left hw
      exact hback m hm (Option.some.inj (hwm.symm.trans hname))
  | _ => cases hget

theorem lastMember_iff {document : List Char} {name : String} {v : Json} :
    LastMember document name v ↔
      ∃ object, read? document = some object ∧ object.get? name = some v := by
  constructor
  · rintro ⟨hread, hobject, hkey, hafter, hv⟩
    refine ⟨_, hobject, ?_⟩
    rw [read?, hread, Option.bind_some] at hobject
    exact (get?_of_toJson? hobject hkey hafter hv).1
  · rintro ⟨object, hobject, hget⟩
    obtain ⟨t, hread, ht⟩ := Option.bind_eq_some_iff.mp hobject
    obtain ⟨before, key, value, after, room, rfl, hkey, hafter, hv⟩ := exists_last_of_get? ht hget
    exact ⟨hread, hobject, hkey, hafter, hv⟩

/-- A printed object is read as the object that is made of its members. -/
theorem read?_print_object {members : List (String × Json)}
    (h : ∀ m ∈ members, Settled (maxNesting - 1) m.2) :
    read? (object members).print.toList = some (ofMembers members) := by
  have hexact : Exact (.object members) := .object fun m hm => (h m hm).exact
  rw [print, String.toList_ofList, read?, read?_chars hexact, Option.bind_some]
  exact toJson?_object_term fun m hm => (h m hm).toJson?_term

/-- A printed object whose keys are different is read as an object with the same members. -/
theorem exists_read?_print {members : List (String × Json)}
    (hkeys : (members.map Prod.fst).Nodup) (h : ∀ m ∈ members, Settled (maxNesting - 1) m.2) :
    ∃ kept, read? (object members).print.toList = some (.object kept) ∧ kept.Perm members := by
  obtain ⟨kept, hobject, hperm⟩ := exists_ofMembers_perm hkeys
  exact ⟨kept, by rw [read?_print_object h, hobject], hperm⟩

/-- A printed object says the value of its last member with a key. -/
theorem lastMember_print {before after : List (String × Json)} {name : String} {v : Json}
    (hafter : ∀ m ∈ after, m.1 ≠ name)
    (h : ∀ m ∈ before ++ (name, v) :: after, Settled (maxNesting - 1) m.2) :
    LastMember (object (before ++ (name, v) :: after)).print.toList name v := by
  refine lastMember_iff.mpr ⟨_, read?_print_object h, get?_ofMembers hafter⟩

end Switchboard.Json
