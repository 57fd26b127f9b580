/-
# Values that come from documents

What a document means has the form that the reader gives to values (`Settled`): whole numbers of 64
bits, members in the strict order of their keys, and no more containers one in another than there is
room for.  The main statement is `read?_print`: a value of this form without doubles is printed as a
document that means the value.
-/
import Switchboard.Proofs.Json.Object
import Switchboard.Proofs.Json.RoundTrip
import Switchboard.Proofs.Rows

namespace Switchboard.Json

open Switchboard.Number (isDigit digitValue ofDigits)

/-- A value without doubles, of the form that the reader gives it, in which at most `room` containers
nest. -/
inductive Settled : Nat → Json → Prop where
  | null {room : Nat} : Settled room .null
  | bool {room : Nat} (b : Bool) : Settled room (.bool b)
  | whole {room : Nat} {n : Int} (hlow : -(2 : Int) ^ 63 ≤ n) (hhigh : n < 2 ^ 64) :
      Settled room (.number (.whole n))
  | text {room : Nat} (s : String) : Settled room (.text s)
  | array {room : Nat} {items : List Json} (h : ∀ v ∈ items, Settled room v) :
      Settled (room + 1) (.array items)
  | object {room : Nat} {members : List (String × Json)} (horder : InStrictOrder members)
      (h : ∀ m ∈ members, Settled room m.2) : Settled (room + 1) (.object members)

theorem Settled.exact {room : Nat} {v : Json} (h : Settled room v) : Exact v := by
  induction h with
  | null => exact .null
  | bool b => exact .bool b
  | whole => exact .whole _
  | text s => exact .text s
  | array _ ih => exact .array ih
  | object _ _ ih => exact .object ih

/-! ## Numbers -/

theorem takeDigits_lt {n taken : Nat} (hn : n < Nat.pow 2 64) (s : List Char) :
    (takeDigits n taken s).1 < Nat.pow 2 64 := by
  induction s generalizing n taken with
  | nil => exact hn
  | cons c rest ih =>
      rw [takeDigits]
      split
      · rename_i hnext
        exact ih hnext
      · exact hn

theorem le_foldl_digits (n : Nat) (s : List Char) :
    n ≤ s.foldl (fun n c => 10 * n + digitValue c) n := by
  induction s generalizing n with
  | nil => exact Nat.le_refl n
  | cons c rest ih => exact Nat.le_trans (by omega) (ih (10 * n + digitValue c))

/-- All digits of a number of 64 bits are taken. -/
theorem takeDigits_eq {n taken : Nat} {s : List Char}
    (h : s.foldl (fun n c => 10 * n + digitValue c) n < Nat.pow 2 64) :
    takeDigits n taken s
      = (s.foldl (fun n c => 10 * n + digitValue c) n, taken + s.length, []) := by
  induction s generalizing n taken with
  | nil => rfl
  | cons c rest ih =>
      have hnext : 10 * n + digitValue c < Nat.pow 2 64 :=
        Nat.lt_of_le_of_lt (le_foldl_digits _ rest) h
      rw [takeDigits]
      simp only [hnext, if_true]
      rw [ih h, List.foldl_cons, List.length_cons, Nat.add_assoc, Nat.add_comm 1]

theorem takeDigits_toDigits {n : Nat} (h : n < Nat.pow 2 64) :
    takeDigits 0 0 (Nat.toDigits 10 n) = (n, (Nat.toDigits 10 n).length, []) := by
  have hvalue : (Nat.toDigits 10 n).foldl (fun n c => 10 * n + digitValue c) 0 = n :=
    Number.ofDigits_toDigits n
  rw [takeDigits_eq (by rwa [hvalue]), hvalue, Nat.zero_add]

/-- A whole number that is read has 64 bits. -/
theorem bounds_of_whole? {n : Numeral} {i : Int} (h : n.whole? = some i) :
    -(2 : Int) ^ 63 ≤ i ∧ i < 2 ^ 64 := by
  have hpow63 : (Nat.pow 2 63 : Int) = 2 ^ 63 := rfl
  have hpow64 : (Nat.pow 2 64 : Int) = 2 ^ 64 := rfl
  have hsize : (takeDigits 0 0 n.whole).1 < Nat.pow 2 64 := takeDigits_lt (by decide) _
  unfold Numeral.whole? at h
  split at h
  · cases h
  · simp only at h
    split at h
    · cases h
    · split at h
      · cases h
        omega
      · split at h
        · rename_i hrange
          simp only [Bool.and_eq_true, decide_eq_true_eq] at hrange
          cases h
          omega
        · cases h

theorem number?_eq_some_whole {n : Numeral} {i : Int} (h : n.number? = some (.whole i)) :
    n.whole? = some i := by
  unfold Numeral.number? at h
  split at h
  · rename_i j hj
    cases h
    exact hj
  · obtain ⟨x, -, hx⟩ := Option.map_eq_some_iff.mp h
    cases hx

/-- A number of 64 bits is read back. -/
theorem toJson?_whole {n : Int} (hlow : -(2 : Int) ^ 63 ≤ n) (hhigh : n < 2 ^ 64) (room : Nat) :
    (Number.whole n).term.toJson? room = some (.number (.whole n)) := by
  have hpow63 : (Nat.pow 2 63 : Int) = 2 ^ 63 := rfl
  have hpow64 : (Nat.pow 2 64 : Int) = 2 ^ 64 := rfl
  have hnumber : ∀ m : Numeral, m.whole? = some n →
      Term.toJson? room (.number m) = some (.number (.whole n)) := by
    intro m hm
    rw [Term.toJson?, Numeral.number?, hm]
    rfl
  cases n with
  | ofNat k =>
      refine hnumber _ ?_
      have hk : k < Nat.pow 2 64 := by
        have hcast : (Int.ofNat k) = (k : Int) := rfl
        omega
      simp only [Numeral.whole?, takeDigits_toDigits hk]
      rfl
  | negSucc k =>
      refine hnumber _ ?_
      have hk : k + 1 ≤ Nat.pow 2 63 := by
        have hcast : Int.negSucc k = -((k : Int) + 1) := rfl
        omega
      have hk' : k + 1 < Nat.pow 2 64 := Nat.lt_of_le_of_lt hk (by decide)
      simp only [Numeral.whole?, takeDigits_toDigits hk']
      simp [hk]
      omega

/-! ## Items and members -/

/-- What items mean: each means something. -/
def ItemsMean (room : Nat) (ts : List Term) (items : List Json) : Prop :=
  List.Forall₂ (fun t v => t.toJson? room = some v) ts items

/-- What members mean: each key is a text, and each value means something. -/
def MembersMean (room : Nat) (written : List (List Piece × Term))
    (members : List (String × Json)) : Prop :=
  List.Forall₂ (fun w m => join? w.1 = some m.1 ∧ w.2.toJson? room = some m.2) written members

theorem itemsToJson?_eq_some_iff {room : Nat} {ts : List Term} {out all : List Json} :
    itemsToJson? room out ts = some all ↔
      ∃ items, ItemsMean room ts items ∧ all = out.reverse ++ items := by
  induction ts generalizing out with
  | nil => simp [itemsToJson?, ItemsMean, eq_comm]
  | cons t ts ih =>
      rw [itemsToJson?]
      constructor
      · intro h
        split at h
        · rename_i v hv
          obtain ⟨items, hitems, rfl⟩ := ih.mp h
          exact ⟨v :: items, .cons hv hitems, by simp⟩
        · cases h
      · rintro ⟨items, hitems, rfl⟩
        obtain ⟨v, rest, hv, hrest, rfl⟩ := List.forall₂_cons_left_iff.mp hitems
        rw [hv]
        exact ih.mpr ⟨rest, hrest, by simp⟩

theorem membersToJson?_eq_some_iff {room : Nat} {written : List (List Piece × Term)}
    {out all : List (String × Json)} :
    membersToJson? room out written = some all ↔
      ∃ members, MembersMean room written members ∧ all = out.reverse ++ members := by
  induction written generalizing out with
  | nil => simp [membersToJson?, MembersMean, eq_comm]
  | cons w written ih =>
      obtain ⟨key, t⟩ := w
      rw [membersToJson?]
      constructor
      · intro h
        split at h
        · rename_i k v hk hv
          obtain ⟨members, hmembers, rfl⟩ := ih.mp h
          exact ⟨(k, v) :: members, .cons ⟨hk, hv⟩ hmembers, by simp⟩
        · cases h
      · rintro ⟨members, hmembers, rfl⟩
        obtain ⟨⟨k, v⟩, rest, ⟨hk, hv⟩, hrest, rfl⟩ := List.forall₂_cons_left_iff.mp hmembers
        rw [hk, hv]
        exact ih.mpr ⟨rest, hrest, by simp⟩

/-- What a term means, told by the meanings of its parts. -/
inductive Means : Nat → Term → Json → Prop where
  | null {room : Nat} : Means room .null .null
  | bool {room : Nat} (b : Bool) : Means room (.bool b) (.bool b)
  | number {room : Nat} {n : Numeral} {m : Number} (h : n.number? = some m) :
      Means room (.number n) (.number m)
  | text {room : Nat} {pieces : List Piece} {s : String} (h : join? pieces = some s) :
      Means room (.text pieces) (.text s)
  | array {room : Nat} {ts : List Term} {items : List Json} (h : ItemsMean room ts items) :
      Means (room + 1) (.array ts) (.array items)
  | object {room : Nat} {written : List (List Piece × Term)} {members : List (String × Json)}
      (h : MembersMean room written members) :
      Means (room + 1) (.object written) (ofMembers members)

theorem toJson?_iff {room : Nat} {t : Term} {v : Json} :
    t.toJson? room = some v ↔ Means room t v := by
  constructor
  · intro h
    cases t with
    | null =>
        cases h
        exact .null
    | bool b =>
        cases h
        exact .bool b
    | number n =>
        rw [Term.toJson?, Option.map_eq_some_iff] at h
        obtain ⟨m, hm, rfl⟩ := h
        exact .number hm
    | text pieces =>
        rw [Term.toJson?, Option.map_eq_some_iff] at h
        obtain ⟨s, hs, rfl⟩ := h
        exact .text hs
    | array ts =>
        cases room with
        | zero => cases h
        | succ room =>
            rw [Term.toJson?, Option.map_eq_some_iff] at h
            obtain ⟨all, hall, rfl⟩ := h
            obtain ⟨items, hitems, rfl⟩ := itemsToJson?_eq_some_iff.mp hall
            exact .array hitems
    | object written =>
        cases room with
        | zero => cases h
        | succ room =>
            rw [Term.toJson?, Option.map_eq_some_iff] at h
            obtain ⟨all, hall, rfl⟩ := h
            obtain ⟨members, hmembers, rfl⟩ := membersToJson?_eq_some_iff.mp hall
            exact .object hmembers
  · intro h
    cases h with
    | null => rfl
    | bool b => rfl
    | number h => rw [Term.toJson?, h, Option.map_some]
    | text h => rw [Term.toJson?, h, Option.map_some]
    | @array room ts items h =>
        have hitems : itemsToJson? room [] ts = some items :=
          itemsToJson?_eq_some_iff.mpr ⟨items, h, rfl⟩
        rw [Term.toJson?, hitems, Option.map_some]
    | @object room written members h =>
        have hmembers : membersToJson? room [] written = some members :=
          membersToJson?_eq_some_iff.mpr ⟨members, h, rfl⟩
        rw [Term.toJson?, hmembers, Option.map_some]

/-- With more room the same is read. -/
theorem toJson?_mono {room room' : Nat} (hroom : room ≤ room') (t : Term) {v : Json}
    (h : t.toJson? room = some v) : t.toJson? room' = some v := by
  rw [toJson?_iff] at h ⊢
  cases h with
  | null => exact .null
  | bool b => exact .bool b
  | number h => exact .number h
  | text h => exact .text h
  | @array room ts items h =>
      obtain ⟨more, rfl⟩ : ∃ more, room' = more + 1 := ⟨room' - 1, by omega⟩
      have hroom : room ≤ more := by omega
      have hitems : ∀ t ∈ ts, ∀ v, t.toJson? room = some v → t.toJson? more = some v :=
        fun t _ v => toJson?_mono hroom t
      refine .array (List.Forall₂.imp ?_ ((List.forall₂_and_left ts items).mpr ⟨hitems, h⟩))
      exact fun t v htv => htv.1 v htv.2
  | @object room written members h =>
      obtain ⟨more, rfl⟩ : ∃ more, room' = more + 1 := ⟨room' - 1, by omega⟩
      have hroom : room ≤ more := by omega
      have hmembers : ∀ w ∈ written, ∀ v, w.2.toJson? room = some v → w.2.toJson? more = some v :=
        fun w _ v => toJson?_mono hroom w.2
      refine .object (List.Forall₂.imp ?_ ((List.forall₂_and_left written members).mpr ⟨hmembers, h⟩))
      exact fun w m hwm => ⟨hwm.2.1, hwm.1 m.2 hwm.2.2⟩
  termination_by t
  decreasing_by
    all_goals subst_vars
    · have := List.sizeOf_lt_of_mem ‹_ ∈ ts›
      simp only [Term.array.sizeOf_spec]
      omega
    · have := List.sizeOf_lt_of_mem ‹_ ∈ written›
      obtain ⟨key, t⟩ := w
      simp only [Term.object.sizeOf_spec, Prod.mk.sizeOf_spec] at *
      omega

/-! ## There and back -/

/-- What a document means has the form that the reader gives to values. -/
theorem settled_of_toJson? {v : Json} (hv : Exact v) {room : Nat} {t : Term}
    (h : t.toJson? room = some v) : Settled room v := by
  induction hv generalizing room t with
  | null => exact .null
  | bool b => exact .bool b
  | whole n =>
      rw [toJson?_iff] at h
      cases h with
      | number h =>
          obtain ⟨hlow, hhigh⟩ := bounds_of_whole? (number?_eq_some_whole h)
          exact .whole hlow hhigh
  | text s => exact .text s
  | array _ ih =>
      rw [toJson?_iff] at h
      cases h with
      | array h =>
          refine .array fun v hv => ?_
          obtain ⟨t, -, ht⟩ := List.Forall₂.exists_of_mem_right h hv
          exact ih v hv ht
  | object _ ih =>
      rw [toJson?_iff] at h
      cases h with
      | @object room written members h =>
          obtain ⟨kept, hkept, horder, hsub⟩ := exists_ofMembers members
          cases hkept
          refine .object horder fun m hm => ?_
          obtain ⟨w, -, -, hw⟩ := List.Forall₂.exists_of_mem_right h (hsub hm)
          exact ih m hm hw

/-- The term of an object means the object of its members, in whatever order they are. -/
theorem toJson?_object_term {room : Nat} {members : List (String × Json)}
    (h : ∀ m ∈ members, m.2.term.toJson? room = some m.2) :
    (Json.object members).term.toJson? (room + 1) = some (ofMembers members) := by
  rw [term, memberTerms_eq, toJson?_iff]
  refine .object ?_
  rw [MembersMean, List.forall₂_map_left_iff]
  exact List.forall₂_same.mpr fun m hm => ⟨join?_pieces m.1, h m hm⟩

/-- The terms of values of this form mean the values. -/
theorem Settled.toJson?_term {room : Nat} {v : Json} (h : Settled room v) :
    v.term.toJson? room = some v := by
  induction h with
  | null => rfl
  | bool b => rfl
  | whole hlow hhigh => exact toJson?_whole hlow hhigh _
  | text s =>
      rw [term, toJson?_iff]
      exact .text (join?_pieces s)
  | @array room items _ ih =>
      rw [term, itemTerms_eq, toJson?_iff]
      refine .array ?_
      rw [ItemsMean, List.forall₂_map_left_iff]
      exact List.forall₂_same.mpr ih
  | object horder _ ih =>
      rw [toJson?_object_term ih, ofMembers_of_inStrictOrder horder]

/-- A value of this form is printed as a document that means the value. -/
theorem read?_print {room : Nat} {v : Json} (h : Settled room v) (hroom : room ≤ maxNesting) :
    read? v.print.toList = some v := by
  rw [print, String.toList_ofList, read?, read?_chars h.exact, Option.bind_some]
  exact toJson?_mono hroom v.term h.toJson?_term

/-- In the object that a document means, a key has the value of the last member with it; and this value
means the same where there is room for the object. -/
theorem get?_of_toJson? {room room' : Nat} {before after : List (List Piece × Term)}
    {key : List Piece} {name : String} {t : Term} {object v : Json}
    (h : (Term.object (before ++ (key, t) :: after)).toJson? room = some object)
    (hkey : join? key = some name) (hafter : ∀ w ∈ after, join? w.1 ≠ some name)
    (hv : t.toJson? room' = some v) : object.get? name = some v ∧ t.toJson? room = some v := by
  rw [toJson?_iff] at h
  cases h with
  | @object room _ members h =>
      obtain ⟨front, ⟨k, x⟩, back, rfl, -, ⟨hk, hx⟩, hback⟩ := List.Forall₂.append_cons_left h
      obtain rfl : name = k := Option.some.inj (hkey.symm.trans hk)
      obtain rfl : v = x := by
        have hv := toJson?_mono (Nat.le_max_left room' room) t hv
        have hx := toJson?_mono (Nat.le_max_right room' room) t hx
        exact Option.some.inj (hv.symm.trans hx)
      refine ⟨get?_ofMembers fun m hm he => ?_, toJson?_mono (Nat.le_succ room) t hx⟩
      obtain ⟨w, hw, hmw⟩ := hback.exists_of_mem_right hm
      exact hafter w hw (he ▸ hmw.1)

end Switchboard.Json
