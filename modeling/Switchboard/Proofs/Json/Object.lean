/-
# Objects from members

The reader makes an object of its members in any order and with keys given twice.  The object has them
in the strict order of their keys (`pairwise_lastOfEachFrom`), and of the members with a key the last
counts (`get?_ofMembers`, `exists_of_get?_ofMembers`); if the keys are different, all members count
(`exists_ofMembers_perm`).  The sort is stable, so that neighbours with the same key stand as they were
written.
-/
import Mathlib.Data.List.Nodup
import Switchboard.Json.Basic

namespace Switchboard.Json

variable {α : Type}

/-- Members in the order of their keys. -/
def InOrder (members : List (String × α)) : Prop := members.Pairwise fun a b => a.1 ≤ b.1

/-- Members in the order of their keys, with each key once. -/
def InStrictOrder (members : List (String × α)) : Prop := members.Pairwise fun a b => a.1 < b.1

/-! ## Neighbours with the same key -/

theorem pairwise_lastOfEachFrom {out s : List (String × α)}
    (hout : out.Pairwise fun a b => b.1 < a.1) (hs : InOrder s)
    (hbetween : ∀ a ∈ out, ∀ b ∈ s, a.1 ≤ b.1) : InStrictOrder (lastOfEachFrom out s) := by
  induction s generalizing out with
  | nil => exact List.pairwise_reverse.mpr hout
  | cons m rest ih =>
      obtain ⟨hm, hrest⟩ := List.pairwise_cons.mp hs
      cases out with
      | nil => exact ih (List.pairwise_singleton _ m) hrest (by simpa using hm)
      | cons p kept =>
          obtain ⟨hp, hkept⟩ := List.pairwise_cons.mp hout
          have hle : p.1 ≤ m.1 := hbetween p List.mem_cons_self m List.mem_cons_self
          have hrest' : ∀ a ∈ m :: p :: kept, ∀ b ∈ rest, a.1 ≤ b.1 := by
            intro a ha b hb
            rcases List.mem_cons.mp ha with rfl | ha
            · exact hm b hb
            · exact hbetween a ha b (List.mem_cons_of_mem m hb)
          rw [lastOfEachFrom]
          split
          · rename_i heq
            refine ih (List.pairwise_cons.mpr ⟨heq ▸ hp, hkept⟩) hrest fun a ha => hrest' a ?_
            rcases List.mem_cons.mp ha with rfl | ha
            · exact List.mem_cons_self
            · exact List.mem_cons_of_mem m (List.mem_cons_of_mem p ha)
          · rename_i hne
            have hlt : p.1 < m.1 := Std.lt_of_le_of_ne hle hne
            refine ih (List.pairwise_cons.mpr ⟨fun a ha => ?_, hout⟩) hrest hrest'
            rcases List.mem_cons.mp ha with rfl | ha
            · exact hlt
            · exact Std.lt_trans (hp a ha) hlt

theorem mem_lastOfEachFrom {out s : List (String × α)} {m : String × α}
    (h : m ∈ lastOfEachFrom out s) : m ∈ out ∨ m ∈ s := by
  induction s generalizing out with
  | nil => exact .inl (List.mem_reverse.mp h)
  | cons n rest ih =>
      cases out with
      | nil =>
          rcases ih h with h | h
          · exact .inr (List.mem_singleton.mp h ▸ List.mem_cons_self)
          · exact .inr (List.mem_cons_of_mem n h)
      | cons p kept =>
          rw [lastOfEachFrom] at h
          have hnew : m = n ∨ m ∈ p :: kept ∨ m ∈ rest := by
            split at h
            · rcases ih h with h | h
              · exact (List.mem_cons.mp h).imp_right fun h => .inl (List.mem_cons_of_mem p h)
              · exact .inr (.inr h)
            · rcases ih h with h | h
              · exact (List.mem_cons.mp h).imp_right .inl
              · exact .inr (.inr h)
          rcases hnew with rfl | h | h
          · exact .inr List.mem_cons_self
          · exact .inl h
          · exact .inr (List.mem_cons_of_mem n h)

theorem mem_lastOfEachFrom_of_mem {out s : List (String × α)} {m : String × α} (hm : m ∈ out)
    (hs : ∀ n ∈ s, n.1 ≠ m.1) : m ∈ lastOfEachFrom out s := by
  induction s generalizing out with
  | nil => exact List.mem_reverse.mpr hm
  | cons n rest ih =>
      have hrest : ∀ n ∈ rest, n.1 ≠ m.1 := fun n hn => hs n (List.mem_cons_of_mem _ hn)
      cases out with
      | nil => exact absurd hm List.not_mem_nil
      | cons p kept =>
          rw [lastOfEachFrom]
          split
          · rename_i heq
            rcases List.mem_cons.mp hm with rfl | hm
            · exact absurd heq.symm (hs n List.mem_cons_self)
            · exact ih (List.mem_cons_of_mem n hm) hrest
          · exact ih (List.mem_cons_of_mem n hm) hrest

/-- The last of the members with a key is kept. -/
theorem mem_lastOfEachFrom_of_last {out before after : List (String × α)} {m : String × α}
    (hafter : ∀ n ∈ after, n.1 ≠ m.1) : m ∈ lastOfEachFrom out (before ++ m :: after) := by
  induction before generalizing out with
  | nil =>
      have hstep : ∃ kept, lastOfEachFrom out (m :: after) = lastOfEachFrom (m :: kept) after := by
        cases out with
        | nil => exact ⟨[], rfl⟩
        | cons p kept =>
            rw [lastOfEachFrom]
            split
            · exact ⟨kept, rfl⟩
            · exact ⟨p :: kept, rfl⟩
      obtain ⟨kept, hkept⟩ := hstep
      rw [List.nil_append, hkept]
      exact mem_lastOfEachFrom_of_mem List.mem_cons_self hafter
  | cons n before ih =>
      cases out with
      | nil => exact ih
      | cons p kept =>
          rw [List.cons_append, lastOfEachFrom]
          split
          · exact ih
          · exact ih

/-! ## Objects -/

/-- The order of members by their keys. -/
def keyLe (a b : String × α) : Bool := decide (a.1 ≤ b.1)

theorem keyLe_trans (a b c : String × α) (hab : keyLe a b = true) (hbc : keyLe b c = true) :
    keyLe a c = true :=
  decide_eq_true (String.le_trans (of_decide_eq_true hab) (of_decide_eq_true hbc))

theorem keyLe_total (a b : String × α) : (keyLe a b || keyLe b a) = true := by
  rcases String.le_total a.1 b.1 with h | h <;> simp [keyLe, h]

theorem inOrder_mergeSort (members : List (String × α)) : InOrder (members.mergeSort keyLe) :=
  (List.pairwise_mergeSort keyLe_trans keyLe_total members).imp of_decide_eq_true

/-- Members with the same key are left in their order. -/
theorem filter_mergeSort (members : List (String × α)) (key : String) :
    (members.mergeSort keyLe).filter (fun m => m.1 == key)
      = members.filter fun m => m.1 == key := by
  have hsame : (members.filter fun m => m.1 == key).Pairwise fun a b => keyLe a b = true := by
    refine List.pairwise_of_forall_mem_list fun a ha b hb => ?_
    have ha : a.1 = key := beq_iff_eq.mp (List.mem_filter.mp ha).2
    have hb : b.1 = key := beq_iff_eq.mp (List.mem_filter.mp hb).2
    exact decide_eq_true (ha ▸ hb ▸ String.le_refl _)
  have hsub := (List.sublist_mergeSort keyLe_trans keyLe_total hsame List.filter_sublist).filter
    fun m => m.1 == key
  simp only [List.filter_filter, Bool.and_self] at hsub
  exact (hsub.eq_of_length ((List.mergeSort_perm members keyLe).filter _).length_eq.symm).symm

theorem lastOfEachFrom_of_inStrictOrder {out s : List (String × α)}
    (h : InStrictOrder (out.reverse ++ s)) : lastOfEachFrom out s = out.reverse ++ s := by
  induction s generalizing out with
  | nil => exact (List.append_nil _).symm
  | cons m rest ih =>
      have hmore : InStrictOrder ((m :: out).reverse ++ rest) := by
        rwa [List.reverse_cons, List.append_assoc]
      cases out with
      | nil => exact ih hmore
      | cons p kept =>
          have hlt : p.1 < m.1 := by
            refine (List.pairwise_append.mp h).2.2 p ?_ m List.mem_cons_self
            exact List.mem_reverse.mpr List.mem_cons_self
          rw [lastOfEachFrom, if_neg fun he => Std.lt_irrefl (he ▸ hlt), ih hmore,
            List.reverse_cons, List.append_assoc, List.singleton_append]

/-- Members in strict order are all kept, and where they are. -/
theorem ofMembers_of_inStrictOrder {members : List (String × Json)} (h : InStrictOrder members) :
    ofMembers members = .object members := by
  have hsorted : members.mergeSort keyLe = members :=
    List.mergeSort_of_pairwise (h.imp fun hlt => decide_eq_true (Std.le_of_lt hlt))
  show Json.object (lastOfEachFrom [] (members.mergeSort keyLe)) = _
  have hkept : lastOfEachFrom [] members = [].reverse ++ members :=
    lastOfEachFrom_of_inStrictOrder h
  rw [hsorted, hkept, List.reverse_nil, List.nil_append]

/-- The members of an object, in the strict order of their keys, are among those it was made of. -/
theorem exists_ofMembers (members : List (String × Json)) :
    ∃ kept, ofMembers members = .object kept ∧ InStrictOrder kept ∧ kept ⊆ members := by
  refine ⟨_, rfl, pairwise_lastOfEachFrom List.Pairwise.nil (inOrder_mergeSort members)
    (fun _ h => absurd h List.not_mem_nil), fun m hm => ?_⟩
  exact List.mem_mergeSort.mp ((mem_lastOfEachFrom hm).resolve_left List.not_mem_nil)

theorem find?_of_inStrictOrder {members : List (String × α)} (h : InStrictOrder members)
    {m : String × α} (hm : m ∈ members) : members.find? (fun n => n.1 == m.1) = some m := by
  induction members with
  | nil => exact absurd hm List.not_mem_nil
  | cons n rest ih =>
      obtain ⟨hn, hrest⟩ := List.pairwise_cons.mp h
      rcases List.mem_cons.mp hm with rfl | hm
      · exact List.find?_cons_of_pos (beq_self_eq_true m.1)
      · have hlt : n.1 < m.1 := hn m hm
        have hne : n.1 ≠ m.1 := fun he => Std.lt_irrefl (he ▸ hlt)
        rw [List.find?_cons_of_neg (by simpa using hne)]
        exact ih hrest hm

/-- Of the members with a key the last counts. -/
theorem get?_ofMembers {before after : List (String × Json)} {key : String} {v : Json}
    (hafter : ∀ m ∈ after, m.1 ≠ key) :
    (ofMembers (before ++ (key, v) :: after)).get? key = some v := by
  have hlast : ∃ front back,
      (before ++ (key, v) :: after).mergeSort keyLe = front ++ (key, v) :: back ∧
        ∀ m ∈ back, m.1 ≠ key := by
    have hnone : (after.filter fun m => m.1 == key) = [] :=
      List.filter_eq_nil_iff.mpr fun m hm he => hafter m hm (beq_iff_eq.mp he)
    have hfilter : ((before ++ (key, v) :: after).mergeSort keyLe).filter (fun m => m.1 == key)
        = (before.filter fun m => m.1 == key) ++ [(key, v)] := by
      rw [filter_mergeSort, List.filter_append, List.filter_cons, hnone, if_pos (by simp)]
    rw [List.filter_eq_append_iff] at hfilter
    obtain ⟨front, rest, hsplit, -, hrest⟩ := hfilter
    obtain ⟨middle, back, rfl, -, -, hback⟩ := List.filter_eq_cons_iff.mp hrest
    refine ⟨front ++ middle, back, by rw [hsplit, List.append_assoc], fun m hm he => ?_⟩
    exact List.filter_eq_nil_iff.mp hback m hm (beq_iff_eq.mpr he)
  obtain ⟨front, back, hsplit, hback⟩ := hlast
  have hkept : (key, v) ∈ lastOfEachFrom [] ((before ++ (key, v) :: after).mergeSort keyLe) := by
    rw [hsplit]
    exact mem_lastOfEachFrom_of_last hback
  obtain ⟨kept, hobject, horder, -⟩ := exists_ofMembers (before ++ (key, v) :: after)
  obtain rfl : lastOfEachFrom [] ((before ++ (key, v) :: after).mergeSort keyLe) = kept :=
    Json.object.inj hobject
  rw [hobject, get?, find?_of_inStrictOrder horder hkept]
  rfl

/-- What an object has under a key is the value of the last member with it. -/
theorem exists_of_get?_ofMembers {members : List (String × Json)} {key : String} {v : Json}
    (h : (ofMembers members).get? key = some v) :
    ∃ before after, members = before ++ (key, v) :: after ∧ ∀ m ∈ after, m.1 ≠ key := by
  obtain ⟨kept, hobject, -, hsub⟩ := exists_ofMembers members
  have hhas : (members.reverse.find? fun m => m.1 == key).isSome := by
    rw [hobject] at h
    obtain ⟨m, hm, -⟩ := Option.map_eq_some_iff.mp h
    rw [List.find?_isSome]
    exact ⟨m, List.mem_reverse.mpr (hsub (List.mem_of_find?_eq_some hm)),
      (List.find?_eq_some_iff_append.mp hm).1⟩
  obtain ⟨⟨k, w⟩, hlast⟩ := Option.isSome_iff_exists.mp hhas
  obtain ⟨hkey, after, before, hsplit, hafter⟩ := List.find?_eq_some_iff_append.mp hlast
  obtain rfl : k = key := beq_iff_eq.mp hkey
  have hmembers : members = before.reverse ++ (k, w) :: after.reverse := by
    rw [← List.reverse_reverse members, hsplit, List.reverse_append, List.reverse_cons,
      List.append_assoc, List.singleton_append]
  have hafter : ∀ m ∈ after.reverse, m.1 ≠ k := fun m hm => by
    simpa using hafter m (List.mem_reverse.mp hm)
  rw [hmembers, get?_ofMembers hafter, Option.some.injEq] at h
  exact ⟨before.reverse, after.reverse, h ▸ hmembers, hafter⟩

/-- An object of members with different keys has all of them. -/
theorem exists_ofMembers_perm {members : List (String × Json)}
    (h : (members.map Prod.fst).Nodup) :
    ∃ kept, ofMembers members = .object kept ∧ kept.Perm members := by
  obtain ⟨kept, hobject, horder, hsub⟩ := exists_ofMembers members
  have hkept : kept.Nodup := by
    refine List.Pairwise.imp ?_ (show kept.Pairwise fun a b => a.1 < b.1 from horder)
    rintro a b hlt rfl
    exact Std.lt_irrefl hlt
  refine ⟨kept, hobject, (List.perm_ext_iff_of_nodup hkept (List.Nodup.of_map _ h)).mpr fun m =>
    ⟨fun hm => hsub hm, fun hm => ?_⟩⟩
  obtain ⟨before, after, rfl⟩ := List.append_of_mem hm
  have hafter : ∀ n ∈ after, n.1 ≠ m.1 := by
    rw [List.map_append, List.map_cons, List.nodup_append] at h
    exact fun n hn heq => (List.nodup_cons.mp h.2.1).1 (heq ▸ List.mem_map_of_mem hn)
  have hget : (ofMembers (before ++ m :: after)).get? m.1 = some m.2 := get?_ofMembers hafter
  rw [hobject] at hget
  obtain ⟨n, hn, hv⟩ := Option.map_eq_some_iff.mp hget
  have hkey : n.1 = m.1 := beq_iff_eq.mp (List.find?_eq_some_iff_append.mp hn).1
  rw [← Prod.ext hkey hv]
  exact List.mem_of_find?_eq_some hn

end Switchboard.Json
