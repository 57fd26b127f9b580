/-
# What any body says as a form

Every body is a form: its pieces stand between the ampersands, and each piece says a field
(`PieceOf`), whatever bytes are in it.  The main statement is `lastValue?_iff`: the value that counts is
the one that the last piece with the key says.  A body that says no field holds ampersands alone, and so
it is no JSON document either (`ofBody_form`).
-/
import Switchboard.Proofs.Inbound.Form
import Switchboard.Proofs.Text.Lossy
import Switchboard.Inbound.Payload

namespace Switchboard.Inbound

/-! ## Keys and values -/

/-- What the bytes of a key or value stand for: a plus sign for a space, a percent sign with two
hexadecimal digits for a byte, and everything else for itself, also a percent sign without digits. -/
inductive Unescapes : Bytes → Bytes → Prop where
  | nil : Unescapes [] []
  | plus {s t : Bytes} (h : Unescapes s t) : Unescapes (0x2b :: s) (0x20 :: t)
  | number {high low : UInt8} {m n : Nat} {s t : Bytes} (hhigh : Http.hexByte? high = some m)
      (hlow : Http.hexByte? low = some n) (h : Unescapes s t) :
      Unescapes (0x25 :: high :: low :: s) (UInt8.ofNat (16 * m + n) :: t)
  | percent {s t : Bytes}
      (hdigits : ∀ high low rest, s = high :: low :: rest →
        Http.hexByte? high = none ∨ Http.hexByte? low = none)
      (h : Unescapes s t) : Unescapes (0x25 :: s) (0x25 :: t)
  | plain {b : UInt8} {s t : Bytes} (hpercent : b ≠ 0x25) (hplus : b ≠ 0x2b) (h : Unescapes s t) :
      Unescapes (b :: s) (b :: t)

/-- What the bytes of a key or value say: what they stand for is read leniently. -/
def SaysText (s : Bytes) (text : String) : Prop := ∃ t, Unescapes s t ∧ Text.Spells t text.toList

/-- What a piece says: a key and a value with the first equals sign between them, or a key alone. -/
inductive PieceOf : Bytes → String × String → Prop where
  | pair {k v : Bytes} {key value : String} (hk : 0x3d ∉ k) (hkey : SaysText k key)
      (hvalue : SaysText v value) : PieceOf (k ++ 0x3d :: v) (key, value)
  | key {k : Bytes} {key : String} (hk : 0x3d ∉ k) (hkey : SaysText k key) : PieceOf k (key, "")

/-- Whether the last piece of a body with a key says a value. -/
def LastValue (body : Bytes) (key value : String) : Prop :=
  ∃ before piece after, body = [0x26].intercalate (before ++ piece :: after) ∧
    (∀ p ∈ before ++ piece :: after, 0x26 ∉ p) ∧ PieceOf piece (key, value) ∧
    ∀ p ∈ after, ∀ field, PieceOf p field → field.1 ≠ key

theorem spaced_eq_percent_iff {b : UInt8} : spaced b = 0x25 ↔ b = 0x25 := by
  unfold spaced
  split
  · rename_i h
    subst h
    decide
  · exact Iff.rfl

theorem hexByte?_spaced (b : UInt8) : Http.hexByte? (spaced b) = Http.hexByte? b := by
  unfold spaced
  split
  · rename_i h
    subst h
    decide
  · rfl

theorem digitsAhead?_spaced (s : Bytes) :
    Http.digitsAhead? (s.map spaced) = Http.digitsAhead? s := by
  rcases s with _ | ⟨high, _ | ⟨low, rest⟩⟩
  · rfl
  · rfl
  · simp only [List.map_cons, Http.digitsAhead?, hexByte?_spaced]

theorem digitsAhead?_eq_none_iff {s : Bytes} :
    Http.digitsAhead? s = none ↔ ∀ high low rest, s = high :: low :: rest →
      Http.hexByte? high = none ∨ Http.hexByte? low = none := by
  rcases s with _ | ⟨high, _ | ⟨low, rest⟩⟩
  · simp [Http.digitsAhead?]
  · simp [Http.digitsAhead?]
  · cases hhigh : Http.hexByte? high <;> cases hlow : Http.hexByte? low <;>
      simp [Http.digitsAhead?, hhigh, hlow]

theorem digitsAhead?_eq_some {s : Bytes} {x : UInt8} (h : Http.digitsAhead? s = some x) :
    ∃ high low rest m n, s = high :: low :: rest ∧ Http.hexByte? high = some m ∧
      Http.hexByte? low = some n ∧ x = UInt8.ofNat (16 * m + n) := by
  rcases s with _ | ⟨high, _ | ⟨low, rest⟩⟩
  · cases h
  · cases h
  · simp only [Http.digitsAhead?, Option.bind_eq_bind, Option.bind_eq_some_iff,
      Option.some.injEq] at h
    obtain ⟨m, hm, n, hn, hx⟩ := h
    exact ⟨high, low, rest, m, n, rfl, hm, hn, hx.symm⟩

theorem unescapedFrom_eq (out s : Bytes) :
    Http.unescapedFrom out s = out.reverse ++ Http.unescaped s := by
  have happend : ∀ out done : Bytes, Http.unescapedFrom (out ++ done) s
      = done.reverse ++ Http.unescapedFrom out s := by
    intro out done
    fun_induction Http.unescapedFrom out s with
    | case1 out => simp [Http.unescapedFrom]
    | case2 out rest x hx ih => rw [Http.unescapedFrom, if_pos rfl, hx, ← ih, List.cons_append]
    | case3 out rest hx ih => rw [Http.unescapedFrom, if_pos rfl, hx, ← ih, List.cons_append]
    | case4 out b rest hb ih => rw [Http.unescapedFrom, if_neg hb, ← ih, List.cons_append]
  exact happend [] out

theorem unescape_cons_of_ne {b : UInt8} (hpercent : b ≠ 0x25) (s : Bytes) :
    unescape (b :: s) = spaced b :: unescape s := by
  show Http.unescapedFrom [] (spaced b :: s.map spaced) = _
  rw [Http.unescapedFrom, if_neg fun h => hpercent (spaced_eq_percent_iff.mp h), unescapedFrom_eq]
  rfl

theorem unescape_percent_of_none {s : Bytes} (h : Http.digitsAhead? s = none) :
    unescape (0x25 :: s) = 0x25 :: unescape s := by
  show Http.unescapedFrom [] (0x25 :: s.map spaced) = _
  rw [Http.unescapedFrom, if_pos rfl, digitsAhead?_spaced, h, unescapedFrom_eq]
  rfl

theorem unescape_percent_of_some {s : Bytes} {x : UInt8} (h : Http.digitsAhead? s = some x) :
    unescape (0x25 :: s) = x :: unescape (s.drop 2) := by
  show Http.unescapedFrom [] (0x25 :: s.map spaced) = _
  rw [Http.unescapedFrom, if_pos rfl, digitsAhead?_spaced, h]
  show Http.unescapedFrom [x] ((s.map spaced).drop 2) = _
  rw [unescapedFrom_eq, ← List.map_drop]
  rfl

theorem unescape_nil : unescape [] = [] := by
  show Http.unescapedFrom [] [] = []
  rw [Http.unescapedFrom, List.reverse_nil]

theorem unescapes_unescape (s : Bytes) : Unescapes s (unescape s) := by
  -- A number takes two bytes more than its percent sign.
  induction hn : s.length using Nat.strongRecOn generalizing s with
  | ind n ih =>
      subst hn
      cases s with
      | nil =>
          rw [unescape_nil]
          exact .nil
      | cons b s =>
          have hs : Unescapes s (unescape s) := ih s.length (Nat.lt_succ_self _) s rfl
          by_cases hpercent : b = 0x25
          · subst hpercent
            cases hahead : Http.digitsAhead? s with
            | none =>
                rw [unescape_percent_of_none hahead]
                exact .percent (digitsAhead?_eq_none_iff.mp hahead) hs
            | some x =>
                rw [unescape_percent_of_some hahead]
                obtain ⟨high, low, rest, m, n, rfl, hhigh, hlow, rfl⟩ :=
                  digitsAhead?_eq_some hahead
                have hlt : rest.length < (0x25 :: high :: low :: rest).length := by
                  simp only [List.length_cons]
                  omega
                exact .number hhigh hlow (ih rest.length hlt rest rfl)
          · rw [unescape_cons_of_ne hpercent]
            by_cases hplus : b = 0x2b
            · subst hplus
              exact .plus hs
            · rw [spaced, if_neg hplus]
              exact .plain hpercent hplus hs

theorem unescape_iff {s t : Bytes} : unescape s = t ↔ Unescapes s t := by
  constructor
  · rintro rfl
    exact unescapes_unescape s
  · intro h
    induction h with
    | nil => exact unescape_nil
    | @plus s t _ ih =>
        rw [unescape_cons_of_ne (by decide), ih]
        rfl
    | @number high low m n s t hhigh hlow _ ih =>
        have hahead : Http.digitsAhead? (high :: low :: s) = some (UInt8.ofNat (16 * m + n)) := by
          simp only [Http.digitsAhead?, hhigh, hlow, Option.bind_eq_bind, Option.bind_some]
        rw [unescape_percent_of_some hahead, ← ih]
        rfl
    | percent hdigits _ ih =>
        rw [unescape_percent_of_none (digitsAhead?_eq_none_iff.mpr hdigits), ih]
    | plain hpercent hplus _ ih => rw [unescape_cons_of_ne hpercent, ih, spaced, if_neg hplus]

theorem formText_iff {s : Bytes} {text : String} : formText s = text ↔ SaysText s text := by
  unfold formText SaysText
  simp only [← unescape_iff, ← Text.decodeLossy_iff, exists_eq_left']
  rw [← String.toList_inj, String.toList_ofList]

/-! ## Pieces -/

theorem formText_nil : formText [] = "" := by
  rw [formText, unescape_nil, Text.decodeLossy_nil, String.ofList_nil]

theorem formPair_iff {piece : Bytes} {field : String × String} :
    formPair piece = field ↔ PieceOf piece field := by
  constructor
  · rintro rfl
    by_cases h : 0x3d ∈ piece
    · obtain ⟨k, v, rfl, hk⟩ := List.eq_append_cons_of_mem h
      rw [formPair, Text.cut_append hk]
      exact .pair hk (formText_iff.mp rfl) (formText_iff.mp rfl)
    · rw [formPair, Text.cut_of_notMem h]
      show PieceOf piece (formText piece, formText [])
      rw [formText_nil]
      exact .key h (formText_iff.mp rfl)
  · intro h
    cases h with
    | pair hk hkey hvalue =>
        rw [formPair, Text.cut_append hk]
        exact Prod.ext (formText_iff.mpr hkey) (formText_iff.mpr hvalue)
    | key hk hkey =>
        rw [formPair, Text.cut_of_notMem hk]
        exact Prod.ext (formText_iff.mpr hkey) formText_nil

theorem formPair_ne_iff {piece : Bytes} {key : String} :
    (formPair piece).1 ≠ key ↔ ∀ field, PieceOf piece field → field.1 ≠ key := by
  simp only [← formPair_iff, forall_eq']

/-! ## Fields -/

/-- The pieces of a body that is joined from pieces.  Where there are none the body is empty, and has
an empty piece. -/
theorem split_intercalate_or {pieces : List Bytes} (h : ∀ p ∈ pieces, 0x26 ∉ p) :
    Text.split 0x26 ([0x26].intercalate pieces) = if pieces = [] then [[]] else pieces := by
  cases pieces with
  | nil => rfl
  | cons p ps => rw [Text.split_intercalate h, if_neg (List.cons_ne_nil p ps)]

/-- The value of the last piece that says the key. -/
theorem lastValue?_eq_find? {key : String} (hkey : key ≠ "") (body : Bytes) :
    lastValue? key (formPairs body)
      = ((Text.split 0x26 body).reverse.find? fun p => (formPair p).1 == key).map
          fun p => (formPair p).2 := by
  -- An empty piece, which is no field, would say the empty key.
  have hnonempty : ∀ p : Bytes, (!p.isEmpty && (formPair p).1 == key) = ((formPair p).1 == key) := by
    intro p
    cases p with
    | nil =>
        have hnil : (formPair []).1 = "" := formText_nil
        rw [hnil, List.isEmpty_nil, Bool.not_true, Bool.false_and]
        exact (beq_false_of_ne (Ne.symm hkey)).symm
    | cons b p => rfl
  rw [lastValue?, formPairs, ← List.map_reverse, ← List.filter_reverse, List.find?_map,
    List.find?_filter, Option.map_map]
  simp only [Function.comp_def, Bool.decide_and, Bool.decide_eq_true, hnonempty]

theorem lastValue?_iff {key value : String} (hkey : key ≠ "") {body : Bytes} :
    lastValue? key (formPairs body) = some value ↔ LastValue body key value := by
  rw [lastValue?_eq_find? hkey, Option.map_eq_some_iff]
  simp only [List.find?_eq_some_iff_append]
  constructor
  · rintro ⟨piece, ⟨hpiece, after, before, hsplit, hafter⟩, rfl⟩
    have hpieces : Text.split 0x26 body = before.reverse ++ piece :: after.reverse := by
      rw [← List.reverse_inj, hsplit]
      simp
    refine ⟨before.reverse, piece, after.reverse, ?_, ?_, ?_, ?_⟩
    · rw [← hpieces, Text.intercalate_split]
    · rw [← hpieces]
      exact fun p => Text.notMem_of_mem_split
    · exact formPair_iff.mp (Prod.ext (beq_iff_eq.mp hpiece) rfl)
    · intro p hp
      exact formPair_ne_iff.mp (by simpa using hafter p (List.mem_reverse.mp hp))
  · rintro ⟨before, piece, after, rfl, hpieces, hpiece, hafter⟩
    have hfield : formPair piece = (key, value) := formPair_iff.mpr hpiece
    refine ⟨piece, ⟨by simp [hfield], after.reverse, before.reverse, ?_, ?_⟩, by rw [hfield]⟩
    · rw [split_intercalate_or hpieces, if_neg (by simp)]
      simp
    · intro p hp
      simpa using formPair_ne_iff.mpr (hafter p (List.mem_reverse.mp hp))

/-- Pieces that say another key may stand anywhere among those on the left. -/
inductive Interspersed (key : String) : List Bytes → List Bytes → Prop where
  | nil : Interspersed key [] []
  | same {p : Bytes} {ps qs : List Bytes} (h : Interspersed key ps qs) :
      Interspersed key (p :: ps) (p :: qs)
  | other {q : Bytes} {ps qs : List Bytes} (hq : ∀ field, PieceOf q field → field.1 ≠ key)
      (h : Interspersed key ps qs) : Interspersed key ps (q :: qs)

theorem Interspersed.filter_eq {key : String} {ps qs : List Bytes} (h : Interspersed key ps qs) :
    ps.filter (fun p => (formPair p).1 == key) = qs.filter (fun p => (formPair p).1 == key) := by
  induction h with
  | nil => rfl
  | same _ ih => rw [List.filter_cons, List.filter_cons, ih]
  | other hq _ ih =>
      rw [List.filter_cons_of_neg (by simpa using formPair_ne_iff.mpr hq), ih]

theorem Interspersed.subset {key : String} {ps qs : List Bytes} (h : Interspersed key ps qs) :
    ps ⊆ qs := by
  induction h with
  | nil => exact List.Subset.refl []
  | same _ ih => exact List.cons_subset_cons _ ih
  | other _ _ ih => exact List.subset_cons_of_subset _ ih

/-- Fields of other keys do not change the value. -/
theorem lastValue?_interspersed {key : String} (hkey : key ≠ "") {ps qs : List Bytes}
    (h : Interspersed key ps qs) (hqs : ∀ q ∈ qs, 0x26 ∉ q) :
    lastValue? key (formPairs ([0x26].intercalate ps))
      = lastValue? key (formPairs ([0x26].intercalate qs)) := by
  have hvalue : ∀ pieces : List Bytes, (∀ p ∈ pieces, 0x26 ∉ p) →
      lastValue? key (formPairs ([0x26].intercalate pieces))
        = (pieces.filter fun p => (formPair p).1 == key).getLast?.map fun p => (formPair p).2 := by
    intro pieces hpieces
    rw [lastValue?_eq_find? hkey, split_intercalate_or hpieces, ← List.head?_filter,
      List.filter_reverse, List.head?_reverse]
    split
    · rename_i hnil
      subst hnil
      have hempty : (formPair []).1 = "" := formText_nil
      simp [hempty, Ne.symm hkey]
    · rfl
  rw [hvalue qs hqs, hvalue ps fun p hp => hqs p (h.subset hp), h.filter_eq]

/-! ## Bodies without fields -/

theorem mem_intercalate_of_nil {pieces : List Bytes} (h : ∀ p ∈ pieces, p = []) :
    ∀ b ∈ [0x26].intercalate pieces, b = 0x26 := by
  induction pieces with
  | nil => exact fun b hb => absurd hb List.not_mem_nil
  | cons p ps ih =>
      obtain rfl : p = [] := h p List.mem_cons_self
      have hps : ∀ p ∈ ps, p = [] := fun p hp => h p (List.mem_cons_of_mem _ hp)
      cases ps with
      | nil => exact fun b hb => absurd hb List.not_mem_nil
      | cons q ps =>
          rw [List.intercalate_cons_cons]
          intro b hb
          rcases List.mem_append.mp hb with hb | hb
          · exact List.mem_singleton.mp hb
          · exact ih hps b hb

/-- A body without fields has ampersands alone. -/
theorem eq_replicate_of_formPairs_nil {body : Bytes} (h : formPairs body = []) :
    body = List.replicate body.length 0x26 := by
  have hempty : ∀ p ∈ Text.split 0x26 body, p = [] := by
    intro p hp
    have hfilter := List.filter_eq_nil_iff.mp (List.map_eq_nil_iff.mp h) p hp
    simpa using hfilter
  refine List.eq_replicate_iff.mpr ⟨rfl, fun b hb => ?_⟩
  refine mem_intercalate_of_nil hempty b ?_
  rwa [Text.intercalate_split]

theorem encode_ampersands (n : Nat) :
    Text.encode (List.replicate n '&') = List.replicate n 0x26 := by
  induction n with
  | zero => rfl
  | succ n ih =>
      rw [List.replicate_succ, List.replicate_succ, Text.encode_cons, ih]
      rfl

/-- No document starts with an ampersand. -/
theorem read?_ampersands (n : Nat) : Json.Term.read? (List.replicate n '&') = none := by
  cases n with
  | zero =>
      have htokens : Json.tokens? [] = some [] := by
        rw [Json.tokens?, Json.tokensFrom, List.reverse_nil]
      rw [List.replicate_zero, Json.Term.read?, htokens]
      rfl
  | succ n =>
      have htokens : Json.tokens? (List.replicate (n + 1) '&') = none := by
        rw [List.replicate_succ, Json.tokens?, Json.tokensFrom]
        rfl
      rw [Json.Term.read?, htokens]

/-- Every body is read as a form, also one without fields. -/
theorem Payload.ofBody_form (body : Bytes) : ofBody true body = ofForm (formPairs body) := by
  rw [ofBody, if_pos rfl]
  split
  · rename_i hnil
    have hjson : bodyJson? body = none := by
      rw [eq_replicate_of_formPairs_nil hnil, ← encode_ampersands, bodyJson?, Text.decode?_encode,
        Option.bind_some, Json.read?, read?_ampersands, Option.bind_none]
    rw [ofJsonBody, hjson, hnil]
    rfl
  · rfl

end Switchboard.Inbound
