/-
# Variables in place

A text that the environment gives for a setting is taken for a truth value or a number where it can
be, and written out again where the setting is a text.  So it arrives as it was given only if it was
spelled in the one way in which it is written out: `variable_arrives_iff`.
-/
import Switchboard.Proofs.Number.Digits
import Switchboard.Proofs.Settings.Layers
import Switchboard.Proofs.Settings.Reading
import Switchboard.Proofs.Text.Casing

namespace Switchboard.Settings

open Text Number

/-! ## Texts taken and written out -/

/-- Whether a text is the name of a truth value, in any letter case. -/
def IsTruth (v : String) : Prop := ∃ b : Bool, lower v.toList = (toString b).toList

/-- How a variable's text is taken, where it does not stand for a list. -/
inductive Taken (v : String) : Value → Prop where
  | truth (b : Bool) (h : lower v.toList = (toString b).toList) : Taken v (.bool b)
  | whole (n : Int) (hword : ¬ IsTruth v) (h : integer64? v.toList = some n) : Taken v (.whole n)
  | real (x : Float) (hword : ¬ IsTruth v) (hwhole : integer64? v.toList = none)
      (h : float? v.toList = some x) : Taken v (.real x)
  | text (hword : ¬ IsTruth v) (hwhole : integer64? v.toList = none)
      (hreal : float? v.toList = none) : Taken v (.text v)

theorem taken_variableValue {key : String} (hkey : key ≠ listKey) (v : String) :
    Taken v (variableValue key v) := by
  unfold variableValue
  by_cases htrue : lower v.toList = "true".toList
  · rw [if_pos htrue]
    exact .truth true htrue
  by_cases hfalse : lower v.toList = "false".toList
  · rw [if_neg htrue, if_pos hfalse]
    exact .truth false hfalse
  have hword : ¬ IsTruth v := by
    rintro ⟨b, hb⟩
    cases b with
    | true => exact htrue hb
    | false => exact hfalse hb
  rw [if_neg htrue, if_neg hfalse]
  cases hwhole : integer64? v.toList with
  | some n => exact .whole n hword hwhole
  | none =>
      cases hreal : float? v.toList with
      | some x => exact .real x hword hwhole hreal
      | none =>
          simp only [if_neg hkey]
          exact .text hword hwhole hreal

/-- The spellings that are written out as they were given: the names of the truth values in small
letters; the whole numbers of 64 bits, and the other numbers that a double can be, as they are written
out; and every text that is none of these in any spelling. -/
inductive Canonical : String → Prop where
  | truth (b : Bool) : Canonical (toString b)
  | whole (n : Int) (hlow : -(2 : Int) ^ 63 ≤ n) (hhigh : n < 2 ^ 63) : Canonical (toString n)
  | real (x : Float) (hword : ¬ IsTruth (plainFloat x))
      (hwhole : integer64? (plainFloat x).toList = none)
      (h : float? (plainFloat x).toList = some x) : Canonical (plainFloat x)
  | text {v : String} (hword : ¬ IsTruth v) (hwhole : integer64? v.toList = none)
      (hreal : float? v.toList = none) : Canonical v

/-- A number does not look like a truth value. -/
theorem not_isTruth_toString (n : Int) : ¬ IsTruth (toString n) := by
  have hfirst : ∀ (c : Char) (rest : List Char), c = '-' ∨ isDigit c = true →
      ∀ b : Bool, lower (c :: rest) ≠ (toString b).toList := by
    intro c rest hc b hb
    have hcode : c.toNat = 45 ∨ 48 ≤ c.toNat ∧ c.toNat ≤ 57 :=
      hc.imp (by rintro rfl; rfl) isDigit_iff.mp
    have hall : ∀ n < 58, n = 45 ∨ 48 ≤ n → Char.ofNat n ≠ 'Σ' ∧
        lowerChar (Char.ofNat n) = [Char.ofNat n] ∧ Char.ofNat n ≠ 't' ∧ Char.ofNat n ≠ 'f' := by
      decide +kernel
    obtain ⟨hsigma, hlower, ht, hf⟩ := hall c.toNat (by omega) (by omega)
    rw [Char.ofNat_toNat] at hsigma hlower ht hf
    have hhead := head?_lower hsigma hlower rest
    rw [hb] at hhead
    cases b with
    | true => exact ht (Option.some.inj hhead).symm
    | false => exact hf (Option.some.inj hhead).symm
  rintro ⟨b, hb⟩
  cases n with
  | ofNat m =>
      have hdigits : (toString (Int.ofNat m)).toList = Nat.toDigits 10 m := toList_toString m
      rw [hdigits] at hb
      cases hm : Nat.toDigits 10 m with
      | nil => exact Nat.toDigits_ne_nil hm
      | cons c rest =>
          rw [hm] at hb
          refine hfirst c rest (.inr (isDigit_of_mem_toDigits (n := m) ?_)) b hb
          rw [hm]
          exact List.mem_cons_self
  | negSucc m =>
      have hminus : (toString (Int.negSucc m)).toList = '-' :: Nat.toDigits 10 (m + 1) := by
        show ("-" ++ toString (m + 1)).toList = _
        rw [String.toList_append, toList_toString]
        rfl
      rw [hminus] at hb
      exact hfirst '-' _ (.inl rfl) b hb

/-- A text is written out as it was given just if it is spelled so. -/
theorem Taken.text?_eq_iff {v : String} {w : Value} (h : Taken v w) :
    w.text? = some v ↔ Canonical v := by
  constructor
  · intro hv
    cases h with
    | truth b _ =>
        obtain rfl := Option.some.inj hv
        exact .truth b
    | whole n _ hn =>
        obtain rfl := Option.some.inj hv
        obtain ⟨hlow, hhigh⟩ := bounds_of_integer64? hn
        exact .whole n hlow hhigh
    | real x hword hwhole hx =>
        obtain rfl := Option.some.inj hv
        exact .real x hword hwhole hx
    | text hword hwhole hreal => exact .text hword hwhole hreal
  · intro hv
    cases hv with
    | truth b =>
        have hb : lower (toString b).toList = (toString b).toList := by
          cases b <;> decide +kernel
        cases h with
        | truth b' h =>
            have hsame : (toString b).toList = (toString b').toList := hb.symm.trans h
            obtain rfl : b = b' := by
              revert hsame
              cases b <;> cases b' <;> decide
            rfl
        | whole _ hword _ => exact absurd ⟨b, hb⟩ hword
        | real _ hword _ _ => exact absurd ⟨b, hb⟩ hword
        | text _ _ _ => rfl
    | whole n hlow hhigh =>
        have hn := integer64?_toString hlow hhigh
        cases h with
        | truth b hb => exact absurd ⟨b, hb⟩ (not_isTruth_toString n)
        | whole n' _ hn' =>
            obtain rfl := Option.some.inj (hn.symm.trans hn')
            rfl
        | real _ _ hwhole _ => cases hn.symm.trans hwhole
        | text _ _ _ => rfl
    | real x hword hwhole hx =>
        cases h with
        | truth b hb => exact absurd ⟨b, hb⟩ hword
        | whole _ _ hn => cases hn.symm.trans hwhole
        | real x' _ _ hx' =>
            obtain rfl := Option.some.inj (hx.symm.trans hx')
            rfl
        | text _ _ _ => rfl
    | text hword hwhole hreal =>
        cases h with
        | truth b hb => exact absurd ⟨b, hb⟩ hword
        | whole _ _ hn => cases hn.symm.trans hwhole
        | real _ _ _ hx => cases hx.symm.trans hreal
        | text _ _ _ => rfl

/-! ## The place of a variable -/

namespace Key

/-- The key of a setting, as variables spell it. -/
def spelling (k : Key) : String := k.block ++ "." ++ k.name

/-- Whether a path takes the place of a setting: it leads to the whole block, to an item of it, or to
the setting itself. -/
def ReplacedBy (k : Key) (path : List Step) : Prop :=
  ∃ rest, front? path = some (k.block, rest) ∧
    (rest = [] ∨ (∃ i more, rest = .index i :: more) ∨ front? rest = some (k.name, []))

theorem front?_pathOf_spelling (k : Key) :
    front? (pathOf k.spelling) = some (k.block, [.name k.name]) := by
  cases k <;> decide +kernel

theorem front?_name (k : Key) : front? [.name k.name] = some (k.name, []) := by
  cases k <;> decide +kernel

theorem name_injective {k k' : Key} (h : k.name = k'.name) : k = k' := by
  revert h
  cases k <;> cases k' <;> decide

/-- The variable of another setting does not take the place of this one. -/
theorem not_replacedBy_spelling {k k' : Key} (h : k ≠ k') : ¬ k.ReplacedBy (pathOf k'.spelling) := by
  rintro ⟨rest, hfront, hrest⟩
  rw [front?_pathOf_spelling] at hfront
  obtain ⟨-, rfl⟩ := Prod.mk.inj (Option.some.inj hfront)
  rcases hrest with hrest | ⟨i, more, hrest⟩ | hrest
  · cases hrest
  · cases hrest
  · rw [front?_name] at hrest
    exact h (name_injective (Prod.mk.inj (Option.some.inj hrest)).1).symm

theorem spelling_ne_listKey {k : Key} (hk : k ∈ texts) : k.spelling ≠ listKey := by
  revert k
  decide

end Key

/-- A value that holds others. -/
def Value.Holds (v : Value) : Prop := v.IsTable ∨ ∃ items, v = .list items

theorem holds_assign? (v : Value) {target made : Value} {path : List Step} (hpath : path ≠ [])
    (hmade : assign? v target path = some made) : made.Holds := by
  cases path with
  | nil => exact absurd rfl hpath
  | cons step rest =>
      cases step with
      | name name =>
          obtain ⟨name', rest', hfront⟩ := exists_front?_name name rest
          rw [assign?_of_front? hfront] at hmade
          obtain ⟨w, -, rfl⟩ := Option.map_eq_some_iff.mp hmade
          exact .inl ⟨_, rfl⟩
      | index i =>
          rw [assign?] at hmade
          split at hmade
          · obtain ⟨w, -, rfl⟩ := Option.map_eq_some_iff.mp hmade
            exact .inr ⟨_, rfl⟩
          · cases hmade

/-- A value in the place of a setting stays there, or gives way to one that holds others, unless a
key takes the place of the setting. -/
theorem field?_of_not_replacedBy {k : Key} {e : String × Value} {w target made : Value}
    (hk : ¬ k.ReplacedBy (pathOf e.1)) (hmade : assign? e.2 target (pathOf e.1) = some made)
    (hw : field? target k.block k.name = some w) :
    ∃ u, field? made k.block k.name = some u ∧ (u = w ∨ u.Holds) := by
  obtain ⟨name, rest, hfront⟩ := exists_front?_pathOf e.1
  by_cases hblock : k.block = name
  · subst hblock
    match rest, hfront with
    | [], hfront => exact absurd ⟨[], hfront, .inl rfl⟩ hk
    | .index i :: more, hfront => exact absurd ⟨_, hfront, .inr (.inl ⟨i, more, rfl⟩)⟩ hk
    | .name field :: more, hfront =>
        obtain ⟨name', inner, hinner⟩ := exists_front?_name field more
        by_cases hname : k.name = name'
        · subst hname
          obtain ⟨u, hu, hfield⟩ := field?_assign?_self hfront hinner hmade
          match inner, hu with
          | [], _ => exact absurd ⟨_, hfront, .inr (.inr hinner)⟩ hk
          | step :: inner, hu =>
              exact ⟨u, hfield, .inr (holds_assign? e.2 (List.cons_ne_nil step inner) hu)⟩
        · exact ⟨w, by rw [field?_assign?_of_ne hfront hinner hname hmade, hw], .inl rfl⟩
  · refine ⟨w, ?_, .inl rfl⟩
    rw [field?, get?_assign?_of_ne hfront hblock hmade]
    exact hw

theorem layer_cons {name key : String} (hname : variableKey? name = some key) (v : String)
    (before after : Environment) :
    Environment.layer (before ++ (name, v) :: after)
      = before.layer ++ (key, variableValue key v) :: after.layer := by
  simp only [Environment.layer, List.filterMap_append, List.filterMap_cons, hname, Option.map_some]

theorem exists_variable_of_mem {env : Environment} {e : String × Value} (he : e ∈ env.layer) :
    ∃ w ∈ env, variableKey? w.1 = some e.1 := by
  obtain ⟨w, hw, he⟩ := List.mem_filterMap.mp he
  obtain ⟨key, hkey, rfl⟩ := Option.map_eq_some_iff.mp he
  exact ⟨w, hw, hkey⟩

/-- What is taken of a text holds nothing, and is something. -/
theorem Taken.plain {v : String} {w : Value} (h : Taken v w) (here : Option Value) :
    merged here w = w ∧ w ≠ .nothing := by
  cases h <;> exact ⟨rfl, Value.noConfusion⟩

/-- A variable that gives a text for a setting, and whose place no later variable takes, arrives as it
was given just if it is spelled as it is written out. -/
theorem variable_arrives_iff {before after : Environment} {name v : String} {files : Files}
    {s : Settings} {k : Key} (hk : k ∈ Key.texts) (hname : variableKey? name = some k.spelling)
    (hafter : ∀ w ∈ after, ∀ key, variableKey? w.1 = some key → ¬ k.ReplacedBy (pathOf key))
    (hload : load (before ++ (name, v) :: after) files = .ok s) :
    textOf? s k = some v ↔ Canonical v := by
  have htaken : Taken v (variableValue k.spelling v) :=
    taken_variableValue (Key.spelling_ne_listKey hk) v
  obtain ⟨made, hbuild, hs⟩ := load_eq_ok_iff.mp hload
  obtain ⟨below, hmade⟩ := exists_overlay?_environment hbuild
  rw [layer_cons hname, overlay?_append] at hmade
  obtain ⟨here, -, hmade⟩ := Option.bind_eq_some_iff.mp hmade
  rw [overlay?_cons] at hmade
  obtain ⟨placed, hplaced, hmade⟩ := Option.bind_eq_some_iff.mp hmade
  -- The variable puts its value in place, and the later ones can only bury it.
  have hfield : field? placed k.block k.name = some (variableValue k.spelling v) := by
    obtain ⟨u, hu, hfield⟩ :=
      field?_assign?_self k.front?_pathOf_spelling k.front?_name hplaced
    rw [reach?, (htaken.plain _).1] at hu
    rw [hfield, ← hu]
  have hlast : ∃ u, field? made k.block k.name = some u ∧
      (u = variableValue k.spelling v ∨ u.Holds) := by
    refine overlay?_invariant (P := fun t => ∃ u, field? t k.block k.name = some u ∧
      (u = variableValue k.spelling v ∨ u.Holds)) ?_ ⟨_, hfield, .inl rfl⟩ hmade
    rintro e he target made ⟨u, hu, hcase⟩ hassign
    obtain ⟨w, hw, hkey⟩ := exists_variable_of_mem he
    obtain ⟨u', hu', hcase'⟩ := field?_of_not_replacedBy (hafter w hw e.1 hkey) hassign hu
    refine ⟨u', hu', ?_⟩
    rcases hcase' with rfl | hholds
    · exact hcase
    · exact .inr hholds
  obtain ⟨u, hu, hcase⟩ := hlast
  have hnull : u ≠ .nothing := by
    rintro rfl
    rcases hcase with hcase | ⟨_, hcase⟩ | ⟨_, hcase⟩
    · exact (htaken.plain none).2 hcase.symm
    · cases hcase
    · cases hcase
  obtain ⟨text, htext, hset⟩ :=
    text_of_field? hk (keyed_of_build hbuild) (isTable_of_build hbuild) hs hu hnull
  rcases hcase with rfl | ⟨_, rfl⟩ | ⟨_, rfl⟩
  · rw [hset, ← htext]
    exact htaken.text?_eq_iff
  · cases htext
  · cases htext

/-- A token, and a secret of four digits. -/
def paddedSecret : Environment :=
  [("PARLEY_SLACK__SLACK_TOKEN", "xoxb-env"), ("PARLEY_SLACK__SIGNING_SECRET", "0042")]

theorem load_paddedSecret : ∃ s, load paddedSecret [] = .ok s ∧ textOf? s .secret = some "42" := by
  obtain ⟨s, hload, hsecret⟩ := exists_ok_of_any (x := load paddedSecret [])
    (p := fun s => textOf? s .secret == some "42") (by decide +kernel)
  exact ⟨s, hload, eq_of_beq hsecret⟩

/-- A token that is no number arrives as it was given. -/
theorem token_arrives :
    ∃ s, load paddedSecret [] = .ok s ∧ textOf? s .token = some "xoxb-env" := by
  obtain ⟨s, hload, -⟩ := load_paddedSecret
  have htext : Canonical "xoxb-env" := by
    refine .text ?_ (by decide +kernel) (Option.isNone_iff_eq_none.mp (by decide +kernel))
    rintro ⟨b, hb⟩
    revert hb
    cases b <;> decide +kernel
  have hafter : ∀ w ∈ [("PARLEY_SLACK__SIGNING_SECRET", "0042")], ∀ key,
      variableKey? w.1 = some key → ¬ Key.token.ReplacedBy (pathOf key) := by
    intro w hw key hkey
    have hspelling : variableKey? "PARLEY_SLACK__SIGNING_SECRET" = some Key.secret.spelling := by
      decide +kernel
    rw [List.mem_singleton.mp hw, hspelling] at hkey
    obtain rfl := Option.some.inj hkey
    exact Key.not_replacedBy_spelling (by decide)
  have hrow : load ([] ++ ("PARLEY_SLACK__SLACK_TOKEN", "xoxb-env") ::
      [("PARLEY_SLACK__SIGNING_SECRET", "0042")]) [] = .ok s := hload
  exact ⟨s, hload, (variable_arrives_iff (by decide) (by decide +kernel) hafter hrow).mpr htext⟩

/-- A secret with a zero in front does not arrive as it was given. -/
theorem leading_zeros_are_lost :
    ∃ s, load paddedSecret [] = .ok s ∧ textOf? s .secret = some "42" ∧
      textOf? s .secret ≠ some "0042" := by
  obtain ⟨s, hload, hsecret⟩ := load_paddedSecret
  exact ⟨s, hload, hsecret, by rw [hsecret]; decide⟩

end Switchboard.Settings
