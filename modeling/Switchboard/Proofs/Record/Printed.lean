/-
# Records that were printed

The term of a printed object has the members of the object, with the terms of their values
(`slots?_term`), so a field that one member has is read from the term of its value.
-/
import Switchboard.Proofs.Json.RoundTrip
import Switchboard.Record

namespace Switchboard.Record

theorem slots?_term (fields : List Names) (members : List (String × Json)) :
    slots? fields (Json.object members).term
      = fields.mapM (namedSlot? (members.map fun m => (m.1, m.2.term))) := by
  have hkeys : ∀ members : List (String × Json),
      (members.map fun m => (Json.pieces m.1, m.2.term)).mapM joinKey?
        = some (members.map fun m => (m.1, m.2.term)) := by
    intro members
    induction members with
    | nil => rfl
    | cons m rest ih =>
        simp only [List.map_cons, List.mapM_cons, joinKey?, Json.join?_pieces, ih]
        rfl
  have hshape : Source.shape? (Json.object members).term
      = some (.named (members.map fun m => (m.1, m.2.term))) := by
    show ((Json.memberTerms members).mapM joinKey?).map Shape.named = _
    rw [Json.memberTerms_eq, hkeys]
    rfl
  rw [slots?, hshape]

/-- Whether one member has a key, and a value. -/
def Once (members : List (String × Json)) (key : String) (v : Json) : Prop :=
  (members.filter fun m => [key].contains m.1) = [(key, v)]

theorem Once.of_perm {members l : List (String × Json)} {key : String} {v : Json}
    (hperm : members.Perm l) (h : Once l key v) : Once members key v := by
  have hfilter := hperm.filter fun m => [key].contains m.1
  rw [Once] at h
  rw [h] at hfilter
  exact List.perm_singleton.mp hfilter

/-- The slot of a field that one member has. -/
theorem Once.namedSlot? {members : List (String × Json)} {key : String} {v : Json}
    (h : Once members key v) :
    Record.namedSlot? (members.map fun m => (m.1, m.2.term)) [key] = some (.given v.term) := by
  have hfilter : ((members.map fun m => (m.1, m.2.term)).filter fun m => [key].contains m.1)
      = [(key, v.term)] := by
    rw [List.filter_map]
    exact congrArg (List.map fun m => (m.1, m.2.term)) h
  rw [Record.namedSlot?, hfilter]

end Switchboard.Record
