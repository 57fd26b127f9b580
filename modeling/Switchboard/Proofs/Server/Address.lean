/-
# Which texts are addresses

The grammar of a host and a port, and the proof that the reader of addresses accepts just the texts
of the grammar (`read?_isSome_iff`).  Every reader of a part takes as much as it can, so each has one
lemma that says what it takes (soundness) and that it does take what the grammar offers, as long as
something else stands behind it (completeness).  The port is behind the last colon, so a host is one
or is none, whatever the port (`address?_isSome_iff`).
-/
import Switchboard.Proofs.Number.Digits
import Switchboard.Proofs.Text.Run
import Switchboard.Proofs.Text.Search
import Switchboard.Server.Run

namespace Switchboard.Server

open Switchboard.Number (isDigit ofDigits)
open Switchboard.Text (Ends)

/-! ## The grammar -/

/-- A row of decimal digits that spells a number, perhaps with zeros in front. -/
structure Decimal (leadingZeros : Bool) (s : List Char) (n : Nat) : Prop where
  ne_nil : s ≠ []
  digits : ∀ c ∈ s, isDigit c = true
  zeros : leadingZeros = false → s.head? = some '0' → s.length = 1
  value : ofDigits s = n

/-- Four numbers in decimal, with points between them. -/
def pointed (a b c d : Nat) : List Char :=
  Nat.toDigits 10 a ++ '.' :: (Nat.toDigits 10 b ++ '.' ::
    (Nat.toDigits 10 c ++ '.' :: Nat.toDigits 10 d))

/-- Four bytes in decimal, with points between them. -/
def BytesText (s : List Char) : Prop :=
  ∃ a b c d, a < 256 ∧ b < 256 ∧ c < 256 ∧ d < 256 ∧ s = pointed a b c d

/-- Whether a character is a hexadecimal digit. -/
def isHex (c : Char) : Bool := (Json.hexValue? c).isSome

/-- One to four hexadecimal digits. -/
structure GroupText (s : List Char) : Prop where
  ne_nil : s ≠ []
  length : s.length ≤ 4
  digits : ∀ c ∈ s, isHex c = true

/-- A piece of a row, behind a colon unless it is the first. -/
def lead (first : Bool) (s : List Char) : List Char := if first then s else ':' :: s

/-- A row of groups with colons between them, which stands for some number of groups.  It may end in
four bytes, which stand for two. -/
inductive Row : Bool → Nat → Bool → List Char → Prop where
  | nil {first : Bool} : Row first 0 false []
  | bytes {first : Bool} {s : List Char} (h : BytesText s) : Row first 2 true (lead first s)
  | group {first endsInBytes : Bool} {n : Nat} {g s : List Char} (h : GroupText g)
      (rest : Row false n endsInBytes s) : Row first (n + 1) endsInBytes (lead first (g ++ s))

/-- Eight groups, of which a run may be left out between two colons. -/
inductive GroupsText : List Char → Prop where
  | full {endsInBytes : Bool} {s : List Char} (h : Row true 8 endsInBytes s) : GroupsText s
  | short {m n : Nat} {endsInBytes : Bool} {s t : List Char} (h : Row true m false s)
      (h' : Row true n endsInBytes t) (room : m + n ≤ 7) : GroupsText (s ++ ':' :: ':' :: t)

/-- A scope of 32 bits, or none. -/
def ScopeText (s : List Char) : Prop :=
  s = [] ∨ ∃ digits n, n < Nat.pow 2 32 ∧ Decimal true digits n ∧ s = '%' :: digits

/-- A host that is an IP address: four bytes, or groups in brackets. -/
inductive HostText : List Char → Prop where
  | bytes {s : List Char} (h : BytesText s) : HostText s
  | groups {s t : List Char} (h : GroupsText s) (ht : ScopeText t) :
      HostText ('[' :: (s ++ (t ++ [']'])))

/-! ## Decimal numbers -/

theorem decimal?_eq_some_iff {bound : Nat} {leadingZeros : Bool} {s rest : List Char} {n : Nat} :
    decimal? bound leadingZeros s = some (n, rest) ↔
      n < bound ∧ ∃ digits, Decimal leadingZeros digits n ∧ Ends isDigit rest ∧
        s = digits ++ rest := by
  constructor
  · intro h
    simp only [decimal?, Option.ite_none_left_eq_some, Bool.or_eq_true, not_or, Bool.and_eq_true,
      Option.some.injEq, Prod.mk.injEq, decide_eq_true_eq] at h
    obtain ⟨⟨hne, hbound⟩, hzeros, hvalue, hrest⟩ := h
    obtain ⟨hdigits, hends, hs⟩ := Text.run_iff.mp ⟨rfl, hrest⟩
    refine ⟨by omega, _, ⟨by simpa using hne, hdigits, fun hz hhead => ?_, hvalue⟩, hends, hs⟩
    have hpos : 0 < (s.takeWhile isDigit).length := by
      cases hd : s.takeWhile isDigit with
      | nil => simp [hd] at hhead
      | cons c digits => simp
    simp [hz, hhead] at hzeros
    omega
  · rintro ⟨hbound, digits, hd, hends, hs⟩
    obtain ⟨htake, hdrop⟩ := Text.run_iff.mpr ⟨hd.digits, hends, hs⟩
    have hne : digits.isEmpty = false := by simpa using hd.ne_nil
    have hzeros : (!leadingZeros && decide (1 < digits.length) && decide (digits.head? = some '0'))
        = false := by
      refine Bool.eq_false_iff.mpr fun h => ?_
      simp only [Bool.and_eq_true, Bool.not_eq_true', decide_eq_true_eq] at h
      have := hd.zeros h.1.1 h.2
      omega
    simp only [decimal?, htake, hdrop, hd.value, hne, hzeros, Bool.false_or, decide_eq_true_eq,
      if_neg (Nat.not_le.mpr hbound), Bool.false_eq_true, if_false]

/-- A number in decimal, without zeros in front. -/
theorem decimal_false_iff {s : List Char} {n : Nat} :
    Decimal false s n ↔ s = Nat.toDigits 10 n := by
  constructor
  · intro h
    rw [← h.value, Number.toDigits_ofDigits h.ne_nil h.digits (h.zeros rfl)]
  · rintro rfl
    refine ⟨Nat.toDigits_ne_nil, fun c => Number.isDigit_of_mem_toDigits, fun _ hhead => ?_,
      Number.ofDigits_toDigits n⟩
    rcases Nat.eq_zero_or_pos n with rfl | hn
    · rfl
    · exact absurd hhead (Number.head?_toDigits_ne_zero hn)

theorem Decimal.lenient {leadingZeros : Bool} {s : List Char} {n : Nat}
    (h : Decimal leadingZeros s n) : Decimal true s n :=
  { h with zeros := fun hz => nomatch hz }

theorem byte?_eq_some_iff {s rest : List Char} {n : Nat} :
    decimal? 256 false s = some (n, rest) ↔
      n < 256 ∧ Ends isDigit rest ∧ s = Nat.toDigits 10 n ++ rest := by
  simp only [decimal?_eq_some_iff, decimal_false_iff, exists_eq_left]

theorem expect?_eq_some_iff {c : Char} {s rest : List Char} :
    expect? c s = some rest ↔ s = c :: rest := by
  cases s with
  | nil => simp [expect?]
  | cons d s => simp [expect?]

theorem fourBytes?_eq_some_iff {s rest : List Char} {bytes : List Nat} :
    fourBytes? s = some (bytes, rest) ↔
      ∃ a b c d, bytes = [a, b, c, d] ∧ a < 256 ∧ b < 256 ∧ c < 256 ∧ d < 256 ∧
        Ends isDigit rest ∧ s = pointed a b c d ++ rest := by
  have hpoint : ∀ s : List Char, Ends isDigit ('.' :: s) := fun s => Text.ends_cons.mpr rfl
  simp only [fourBytes?, Option.bind_eq_bind, Option.bind_eq_some_iff, Prod.exists,
    byte?_eq_some_iff, expect?_eq_some_iff, Option.some.injEq, Prod.mk.injEq]
  constructor
  · rintro ⟨a, _, ⟨ha, -, rfl⟩, _, rfl, b, _, ⟨hb, -, rfl⟩, _, rfl, c, _, ⟨hc, -, rfl⟩, _, rfl,
      d, _, ⟨hd, hends, rfl⟩, rfl, rfl⟩
    exact ⟨a, b, c, d, rfl, ha, hb, hc, hd, hends, by simp [pointed]⟩
  · rintro ⟨a, b, c, d, rfl, ha, hb, hc, hd, hends, rfl⟩
    exact ⟨a, _, ⟨ha, hpoint _, by simp [pointed]⟩, _, rfl, b, _, ⟨hb, hpoint _, rfl⟩, _, rfl,
      c, _, ⟨hc, hpoint _, rfl⟩, _, rfl, d, _, ⟨hd, hends, rfl⟩, rfl, rfl⟩

/-! ## Groups -/

theorem group?_eq_some_iff {s rest : List Char} :
    (∃ g, group? s = some (g, rest)) ↔
      ∃ digits, GroupText digits ∧ Ends isHex rest ∧ s = digits ++ rest := by
  constructor
  · rintro ⟨g, h⟩
    simp only [group?, Option.ite_none_left_eq_some, Bool.or_eq_true, not_or, Option.some.injEq,
      Prod.mk.injEq, decide_eq_true_eq] at h
    obtain ⟨⟨hne, hlength⟩, -, hrest⟩ := h
    obtain ⟨hdigits, hends, hs⟩ := Text.run_iff (p := isHex).mp ⟨rfl, hrest⟩
    exact ⟨_, ⟨by simpa using hne, Nat.not_lt.mp hlength, hdigits⟩, hends, hs⟩
  · rintro ⟨digits, hg, hends, hs⟩
    obtain ⟨htake, hdrop⟩ := Text.run_iff.mpr ⟨hg.digits, hends, hs⟩
    have htake' : (s.takeWhile fun c => (Json.hexValue? c).isSome) = digits := htake
    have hne : digits.isEmpty = false := by simpa using hg.ne_nil
    refine ⟨digits.foldl (fun n c => 16 * n + (Json.hexValue? c).getD 0) 0, ?_⟩
    simp only [group?, htake', hdrop, hne, Bool.false_or, decide_eq_true_eq,
      if_neg (Nat.not_lt.mpr hg.length)]

theorem lead_append {first : Bool} {s t : List Char} : lead first (s ++ t) = lead first s ++ t := by
  cases first <;> rfl

section Row

variable {done : List Nat} {room : Nat} {s t rest : List Char}

theorem lead_eq_iff :
    (if done.isEmpty then some s else expect? ':' s) = some t ↔ s = lead done.isEmpty t := by
  cases done with
  | nil => exact Option.some_inj
  | cons g done => exact expect?_eq_some_iff

/-- Reading a row stops where no piece can be read. -/
theorem groupsFrom_stop
    (h : ∀ t, s = lead done.isEmpty t → fourBytes? t = none ∧ group? t = none) :
    groupsFrom done room s = ⟨done.reverse, false, s⟩ := by
  cases room with
  | zero => rfl
  | succ room =>
      rw [groupsFrom]
      cases hlead : if done.isEmpty then some s else expect? ':' s with
      | none => rfl
      | some t =>
          obtain ⟨hbytes, hgroup⟩ := h t (lead_eq_iff.mp hlead)
          simp only [hbytes, hgroup, ite_self]

theorem groupsFrom_bytes {a b c d : Nat} (hroom : 0 < room)
    (h : fourBytes? t = some ([a, b, c, d], rest)) :
    groupsFrom done (room + 1) (lead done.isEmpty t)
      = ⟨done.reverse ++ [256 * a + b, 256 * c + d], true, rest⟩ := by
  rw [groupsFrom, lead_eq_iff.mpr rfl]
  simp only [hroom, h, if_true]

theorem groupsFrom_group {g : Nat} (hbytes : fourBytes? t = none)
    (h : group? t = some (g, rest)) :
    groupsFrom done (room + 1) (lead done.isEmpty t) = groupsFrom (g :: done) room rest := by
  rw [groupsFrom, lead_eq_iff.mpr rfl]
  simp only [hbytes, h, ite_self]

/-- The three ways of reading on. -/
theorem groupsFrom_cases (done : List Nat) (room : Nat) (s : List Char) :
    groupsFrom done (room + 1) s = ⟨done.reverse, false, s⟩ ∨
    (∃ t a b c d rest, s = lead done.isEmpty t ∧ 0 < room ∧
      fourBytes? t = some ([a, b, c, d], rest) ∧
      groupsFrom done (room + 1) s
        = ⟨done.reverse ++ [256 * a + b, 256 * c + d], true, rest⟩) ∨
    ∃ t g rest, s = lead done.isEmpty t ∧ group? t = some (g, rest) ∧
      groupsFrom done (room + 1) s = groupsFrom (g :: done) room rest := by
  rw [groupsFrom]
  cases hlead : if done.isEmpty then some s else expect? ':' s with
  | none => exact .inl rfl
  | some t =>
      have hs : s = lead done.isEmpty t := lead_eq_iff.mp hlead
      cases hbytes : if 0 < room then fourBytes? t else none with
      | some found =>
          obtain ⟨bytes, rest⟩ := found
          obtain ⟨hroom, hread⟩ := Option.ite_none_right_eq_some.mp hbytes
          obtain ⟨a, b, c, d, rfl, -⟩ := fourBytes?_eq_some_iff.mp hread
          exact .inr (.inl ⟨t, a, b, c, d, rest, hs, hroom, hread, by simp only [hbytes]⟩)
      | none =>
          cases hgroup : group? t with
          | none => exact .inl (by simp only [hbytes, hgroup])
          | some found =>
              exact .inr (.inr ⟨t, found.1, found.2, hs, hgroup, by simp only [hbytes, hgroup]⟩)

/-- What is read as a row is a row. -/
theorem groupsFrom_sound (done : List Nat) (room : Nat) (s : List Char) :
    ∃ n text, Row done.isEmpty n (groupsFrom done room s).endsInBytes text ∧
      s = text ++ (groupsFrom done room s).rest ∧
      (groupsFrom done room s).groups.length = done.length + n ∧ n ≤ room := by
  induction room generalizing done s with
  | zero => exact ⟨0, [], .nil, rfl, by simp [groupsFrom], Nat.le_refl 0⟩
  | succ room ih =>
      rcases groupsFrom_cases done room s with h | ⟨t, a, b, c, d, rest, rfl, hroom, hread, h⟩ |
        ⟨t, g, rest, rfl, hread, h⟩
      · rw [h]
        exact ⟨0, [], .nil, rfl, by simp, Nat.zero_le _⟩
      · rw [h]
        obtain ⟨a, b, c, d, -, ha, hb, hc, hd, -, rfl⟩ := fourBytes?_eq_some_iff.mp hread
        exact ⟨2, _, .bytes ⟨a, b, c, d, ha, hb, hc, hd, rfl⟩, lead_append, by simp,
          Nat.succ_le_succ hroom⟩
      · rw [h]
        obtain ⟨digits, hg, -, rfl⟩ := group?_eq_some_iff.mp ⟨g, hread⟩
        obtain ⟨n, text, hrow, hs, hlength, hn⟩ := ih (g :: done) rest
        refine ⟨n + 1, _, .group hg hrow, ?_, ?_, Nat.succ_le_succ hn⟩
        · rw [lead_append, lead_append, List.append_assoc, ← hs]
        · rw [hlength, List.length_cons]
          omega

/-- What may stand behind a row. -/
inductive Border : List Char → Prop where
  | bracket (s : List Char) : Border (']' :: s)
  | scope (s : List Char) : Border ('%' :: s)
  | gap (s : List Char) : Border (':' :: ':' :: s)

/-- A mark that stands behind a piece of a row. -/
def IsMark (c : Char) : Prop := c = ':' ∨ c = ']' ∨ c = '%'

theorem IsMark.not_hex {c : Char} (h : IsMark c) : isHex c = false := by
  rcases h with rfl | rfl | rfl <;> decide

theorem IsMark.not_digit {c : Char} (h : IsMark c) : isDigit c = false := by
  rcases h with rfl | rfl | rfl <;> decide

theorem Border.exists_mark (h : Border s) : ∃ c t, IsMark c ∧ s = c :: t := by
  cases h with
  | bracket t => exact ⟨_, _, .inr (.inl rfl), rfl⟩
  | scope t => exact ⟨_, _, .inr (.inr rfl), rfl⟩
  | gap t => exact ⟨_, _, .inl rfl, rfl⟩

theorem isHex_of_isDigit {c : Char} (h : isDigit c = true) : isHex c = true := by
  have hdigit : ('0' ≤ c && c ≤ '9') = true := h
  rw [isHex, Json.hexValue?, if_pos hdigit]
  rfl

/-- Hexadecimal digits and a mark are not the front of four bytes, for there is no point. -/
theorem fourBytes?_eq_none {g : List Char} (hg : ∀ d ∈ g, isHex d = true) {c : Char}
    (hc : IsMark c) (s : List Char) : fourBytes? (g ++ c :: s) = none := by
  refine Option.eq_none_iff_forall_ne_some.mpr fun found h => ?_
  obtain ⟨a, b, d, e, -, -, -, -, -, -, hs⟩ := fourBytes?_eq_some_iff.mp h
  rw [pointed, List.append_assoc, List.cons_append] at hs
  obtain ⟨-, hrest⟩ := Text.run_inj hg (Text.ends_cons.mpr hc.not_hex)
    (fun d hd => isHex_of_isDigit (Number.isDigit_of_mem_toDigits hd))
    (Text.ends_cons.mpr (by decide)) hs
  obtain ⟨rfl, -⟩ := List.cons.inj hrest
  rcases hc with h | h | h <;> cases h

/-- No piece of a row begins with a mark. -/
theorem unread {c : Char} (hc : IsMark c) (s : List Char) :
    fourBytes? (c :: s) = none ∧ group? (c :: s) = none := by
  refine ⟨fourBytes?_eq_none (g := []) (fun _ h => nomatch h) hc s, ?_⟩
  refine Option.eq_none_iff_forall_ne_some.mpr fun ⟨g, rest⟩ h => ?_
  obtain ⟨digits, hdigits, -, hs⟩ := group?_eq_some_iff.mp ⟨g, h⟩
  cases digits with
  | nil => exact hdigits.ne_nil rfl
  | cons d digits =>
      obtain ⟨rfl, -⟩ := List.cons.inj hs
      exact absurd (hdigits.digits c List.mem_cons_self) (by simp [hc.not_hex])

/-- What goes on behind a piece of a row begins with a mark. -/
theorem Row.exists_mark {n : Nat} {endsInBytes : Bool} (h : Row false n endsInBytes s)
    (hrest : Border rest) : ∃ c t, IsMark c ∧ s ++ rest = c :: t := by
  cases h with
  | nil => exact hrest.exists_mark
  | bytes h => exact ⟨':', _, .inl rfl, rfl⟩
  | group hg hrow => exact ⟨':', _, .inl rfl, rfl⟩

/-- A row is read as a whole, if there is room for it. -/
theorem groupsFrom_complete {first endsInBytes : Bool} {n : Nat} {text : List Char}
    (h : Row first n endsInBytes text) (hdone : done.isEmpty = first) (hroom : n ≤ room)
    (hrest : Border rest) :
    ∃ groups, groups.length = n ∧
      groupsFrom done room (text ++ rest) = ⟨done.reverse ++ groups, endsInBytes, rest⟩ := by
  induction h generalizing done room with
  | @nil first =>
      refine ⟨[], rfl, ?_⟩
      rw [List.nil_append, List.append_nil]
      refine groupsFrom_stop fun t ht => ?_
      cases first with
      | true =>
          obtain ⟨c, s, hc, rfl⟩ := hrest.exists_mark
          rw [hdone] at ht
          obtain rfl : c :: s = t := ht
          exact unread hc s
      | false =>
          -- Behind the first piece a colon must stand in front, which it does in a gap only.
          have hcolon : rest = ':' :: t := by
            rw [hdone] at ht
            exact ht
          cases hrest with
          | bracket s => cases hcolon
          | scope s => cases hcolon
          | gap s =>
              obtain ⟨-, rfl⟩ := List.cons.inj hcolon
              exact unread (.inl rfl) s
  | @bytes first s h =>
      obtain ⟨a, b, c, d, ha, hb, hc, hd, rfl⟩ := h
      obtain ⟨room, rfl⟩ : ∃ k, room = k + 1 + 1 := ⟨room - 2, by omega⟩
      obtain ⟨m, t, hm, rfl⟩ := hrest.exists_mark
      have hread : fourBytes? (pointed a b c d ++ m :: t) = some ([a, b, c, d], m :: t) :=
        fourBytes?_eq_some_iff.mpr ⟨a, b, c, d, rfl, ha, hb, hc, hd,
          Text.ends_cons.mpr hm.not_digit, rfl⟩
      rw [← lead_append, ← hdone]
      exact ⟨_, rfl, groupsFrom_bytes (Nat.succ_pos room) hread⟩
  | @group first endsInBytes n g s hg hrow ih =>
      obtain ⟨room, rfl⟩ : ∃ k, room = k + 1 := ⟨room - 1, by omega⟩
      obtain ⟨m, t, hm, hs⟩ := hrow.exists_mark hrest
      obtain ⟨value, hread⟩ : ∃ value, group? (g ++ (s ++ rest)) = some (value, s ++ rest) :=
        group?_eq_some_iff.mpr ⟨g, hg, hs ▸ Text.ends_cons.mpr hm.not_hex, rfl⟩
      have hbytes : fourBytes? (g ++ (s ++ rest)) = none := hs ▸ fourBytes?_eq_none hg.digits hm t
      have hdone' : (value :: done).isEmpty = false := rfl
      obtain ⟨groups, hlength, hgroups⟩ := ih hdone' (show n ≤ room by omega)
      refine ⟨value :: groups, by rw [List.length_cons, hlength], ?_⟩
      rw [← lead_append, List.append_assoc, ← hdone, groupsFrom_group hbytes hread, hgroups]
      simp

end Row

/-! ## Addresses of the newer kind -/

theorem eightGroups?_eq_some_iff {s rest : List Char} :
    (∃ groups, eightGroups? s = some (groups, rest)) ↔
      ((groupsFrom [] 8 s).groups.length = 8 ∧ (groupsFrom [] 8 s).rest = rest) ∨
      ((groupsFrom [] 8 s).groups.length ≠ 8 ∧ (groupsFrom [] 8 s).endsInBytes = false ∧
        ∃ t, (groupsFrom [] 8 s).rest = ':' :: ':' :: t ∧
          (groupsFrom [] (7 - (groupsFrom [] 8 s).groups.length) t).rest = rest) := by
  rw [eightGroups?]
  by_cases hlength : (groupsFrom [] 8 s).groups.length = 8
  · simp [hlength]
  · cases hends : (groupsFrom [] 8 s).endsInBytes with
    | true => simp [hlength]
    | false =>
        simp only [hlength, false_and, false_or, if_false, Bool.false_eq_true, not_false_eq_true,
          ne_eq, true_and, Option.bind_eq_bind, Option.bind_eq_some_iff, expect?_eq_some_iff,
          Option.some.injEq, Prod.mk.injEq]
        constructor
        · rintro ⟨groups, _, hgap, t, rfl, -, hrest⟩
          exact ⟨t, hgap, hrest⟩
        · rintro ⟨t, hgap, hrest⟩
          exact ⟨_, _, hgap, t, rfl, rfl, hrest⟩

theorem eightGroups?_sound {s rest : List Char} {groups : List Nat}
    (h : eightGroups? s = some (groups, rest)) : ∃ text, GroupsText text ∧ s = text ++ rest := by
  obtain ⟨m, text, hrow, hs, hlength, hm⟩ := groupsFrom_sound [] 8 s
  rw [List.length_nil, Nat.zero_add] at hlength
  rcases eightGroups?_eq_some_iff.mp ⟨groups, h⟩ with ⟨hfull, rfl⟩ | ⟨hshort, hplain, t, hgap, rfl⟩
  · obtain rfl : m = 8 := hlength.symm.trans hfull
    exact ⟨text, .full hrow, hs⟩
  · obtain ⟨n, text', hrow', ht, -, hn⟩ :=
      groupsFrom_sound [] (7 - (groupsFrom [] 8 s).groups.length) t
    rw [hplain] at hrow
    refine ⟨text ++ ':' :: ':' :: text', .short hrow hrow' (by omega), ?_⟩
    rw [List.append_assoc, List.cons_append, List.cons_append, ← ht, ← hgap]
    exact hs

/-- What is spelled as the grammar says is read as a whole. -/
theorem eightGroups?_complete {text rest : List Char} (h : GroupsText text)
    (hrest : Border rest) : ∃ groups, eightGroups? (text ++ rest) = some (groups, rest) := by
  have hempty : ([] : List Nat).isEmpty = true := rfl
  refine eightGroups?_eq_some_iff.mpr ?_
  cases h with
  | full h =>
      obtain ⟨groups, hlength, hread⟩ := groupsFrom_complete h hempty (Nat.le_refl 8) hrest
      rw [hread]
      exact .inl ⟨hlength, rfl⟩
  | @short m n endsInBytes s t h h' hroom =>
      obtain ⟨groups, rfl, hread⟩ :=
        groupsFrom_complete h hempty (show m ≤ 8 by omega) (.gap (t ++ rest))
      obtain ⟨groups', -, hread'⟩ :=
        groupsFrom_complete h' hempty (show n ≤ 7 - groups.length by omega) hrest
      rw [List.append_assoc, List.cons_append, List.cons_append, hread]
      refine .inr ⟨?_, rfl, t ++ rest, rfl, ?_⟩
      · exact fun hfull : groups.length = 8 => by omega
      · exact congrArg Groups.rest hread'

/-! ## Scopes and ports -/

theorem scope?_sound (s : List Char) : ∃ text, ScopeText text ∧ s = text ++ (scope? s).2 := by
  unfold scope?
  split
  · rename_i rest
    cases h : decimal? (Nat.pow 2 32) true rest with
    | none => exact ⟨[], .inl rfl, rfl⟩
    | some found =>
        obtain ⟨n, rest'⟩ := found
        obtain ⟨hn, digits, hd, -, rfl⟩ := decimal?_eq_some_iff.mp h
        exact ⟨'%' :: digits, .inr ⟨digits, n, hn, hd, rfl⟩, rfl⟩
  · exact ⟨[], .inl rfl, rfl⟩

theorem scope?_complete {text : List Char} (h : ScopeText text) (s : List Char) :
    (scope? (text ++ ']' :: s)).2 = ']' :: s := by
  rcases h with rfl | ⟨digits, n, hn, hd, rfl⟩
  · rfl
  · have hread : decimal? (Nat.pow 2 32) true (digits ++ ']' :: s) = some (n, ']' :: s) :=
      decimal?_eq_some_iff.mpr ⟨hn, digits, hd, Text.ends_cons.mpr rfl, rfl⟩
    rw [List.cons_append, scope?, hread]

theorem port?_eq_some_iff {s : List Char} {n : Nat} :
    port? s = some n ↔ n < 65536 ∧ ∃ digits, Decimal true digits n ∧ s = ':' :: digits := by
  constructor
  · intro h
    unfold port? at h
    split at h
    · rename_i t ht
      split at h
      · rename_i m hread
        obtain rfl := Option.some.inj h
        obtain ⟨hm, digits, hd, -, rfl⟩ := decimal?_eq_some_iff.mp hread
        exact ⟨hm, digits, hd, by rw [expect?_eq_some_iff.mp ht, List.append_nil]⟩
      · cases h
    · cases h
  · rintro ⟨hn, digits, hd, rfl⟩
    have hread : decimal? 65536 true digits = some (n, []) :=
      decimal?_eq_some_iff.mpr ⟨hn, digits, hd, Text.ends_nil, (List.append_nil digits).symm⟩
    simp only [port?, expect?_eq_some_iff.mpr rfl, hread]

/-! ## Addresses -/

theorem ScopeText.border {t : List Char} (h : ScopeText t) (s : List Char) :
    Border (t ++ ']' :: s) := by
  rcases h with rfl | ⟨digits, n, -, -, rfl⟩
  · exact .bracket s
  · exact .scope _

theorem read?_of_ne {s : List Char} (h : s.head? ≠ some '[') :
    Address.read? s = (fourBytes? s).bind fun found =>
      (port? found.2).bind fun port => some ⟨.v4 found.1, 0, port⟩ := by
  unfold Address.read?
  split
  · exact absurd rfl h
  · rfl

theorem BytesText.head?_ne {s : List Char} (h : BytesText s) (t : List Char) :
    (s ++ t).head? ≠ some '[' := by
  obtain ⟨a, b, c, d, -, -, -, -, rfl⟩ := h
  cases ha : Nat.toDigits 10 a with
  | nil => exact absurd ha Nat.toDigits_ne_nil
  | cons digit digits =>
      have hdigit : isDigit digit = true :=
        Number.isDigit_of_mem_toDigits (ha ▸ List.mem_cons_self : digit ∈ Nat.toDigits 10 a)
      rw [pointed, ha]
      intro h
      obtain rfl : digit = '[' := Option.some.inj h
      exact absurd hdigit (by decide)

/-- The reader accepts a host of the grammar with a colon and a number below 65536 behind it, and
nothing else. -/
theorem read?_isSome_iff {s : List Char} :
    (Address.read? s).isSome ↔
      ∃ host digits port, HostText host ∧ port < 65536 ∧ Decimal true digits port ∧
        s = host ++ ':' :: digits := by
  rw [Option.isSome_iff_exists]
  constructor
  · rintro ⟨address, h⟩
    unfold Address.read? at h
    split at h
    · simp only [Option.bind_eq_bind, Option.bind_eq_some_iff, Prod.exists] at h
      obtain ⟨groups, rest, hgroups, rest', hbracket, port, hport, -⟩ := h
      obtain ⟨text, htext, rfl⟩ := eightGroups?_sound hgroups
      obtain ⟨scope, hscope, hrest⟩ := scope?_sound rest
      obtain ⟨hbound, digits, hd, rfl⟩ := port?_eq_some_iff.mp hport
      refine ⟨_, digits, port, .groups htext hscope, hbound, hd, ?_⟩
      rw [hrest, expect?_eq_some_iff.mp hbracket]
      simp
    · simp only [Option.bind_eq_bind, Option.bind_eq_some_iff, Prod.exists] at h
      obtain ⟨bytes, rest, hbytes, port, hport, -⟩ := h
      obtain ⟨a, b, c, d, -, ha, hb, hc, hd, -, rfl⟩ := fourBytes?_eq_some_iff.mp hbytes
      obtain ⟨hbound, digits, hdigits, rfl⟩ := port?_eq_some_iff.mp hport
      exact ⟨_, digits, port, .bytes ⟨a, b, c, d, ha, hb, hc, hd, rfl⟩, hbound, hdigits, rfl⟩
  · rintro ⟨host, digits, port, hhost, hbound, hd, rfl⟩
    have hport : port? (':' :: digits) = some port :=
      port?_eq_some_iff.mpr ⟨hbound, digits, hd, rfl⟩
    cases hhost with
    | bytes h =>
        rw [read?_of_ne (h.head?_ne _)]
        obtain ⟨a, b, c, d, ha, hb, hc, hd, rfl⟩ := h
        have hread : fourBytes? (pointed a b c d ++ ':' :: digits)
            = some ([a, b, c, d], ':' :: digits) :=
          fourBytes?_eq_some_iff.mpr ⟨a, b, c, d, rfl, ha, hb, hc, hd, Text.ends_cons.mpr rfl, rfl⟩
        rw [hread, Option.bind_some, hport]
        exact ⟨_, rfl⟩
    | @groups s t h ht =>
        obtain ⟨groups, hread⟩ := eightGroups?_complete h (ht.border (':' :: digits))
        have hs : '[' :: (s ++ (t ++ [']'])) ++ ':' :: digits
            = '[' :: (s ++ (t ++ ']' :: ':' :: digits)) := by
          simp
        rw [hs, Address.read?]
        simp only [Option.bind_eq_bind, hread, Option.bind_some, scope?_complete ht,
          expect?_eq_some_iff.mpr rfl, hport]
        exact ⟨_, rfl⟩

/-- Whether the settings name an address is settled by the host. -/
theorem address?_isSome_iff {s : ServerSettings} (hport : s.port < 65536) :
    (address? s).isSome ↔ HostText s.host.toList := by
  have hport' : Decimal true (Nat.toDigits 10 s.port) s.port :=
    (decimal_false_iff.mpr rfl).lenient
  have htext : (s.host ++ ":" ++ toString s.port).toList
      = s.host.toList ++ ':' :: Nat.toDigits 10 s.port := by
    simp
  rw [address?, htext, read?_isSome_iff]
  constructor
  · rintro ⟨host, digits, port, hhost, -, hd, hs⟩
    -- Read from behind, the colon of the port is the first character that is no digit.
    have hbehind : (Nat.toDigits 10 s.port).reverse ++ ':' :: s.host.toList.reverse
        = digits.reverse ++ ':' :: host.reverse := by
      have := congrArg List.reverse hs
      simpa using this
    obtain ⟨-, hrest⟩ := Text.run_inj (p := isDigit)
      (fun c hc => hport'.digits c (List.mem_reverse.mp hc)) (Text.ends_cons.mpr rfl)
      (fun c hc => hd.digits c (List.mem_reverse.mp hc)) (Text.ends_cons.mpr rfl) hbehind
    rw [List.reverse_inj.mp (List.cons.inj hrest).2]
    exact hhost
  · intro h
    exact ⟨_, _, _, h, hport, hport', rfl⟩

end Switchboard.Server
