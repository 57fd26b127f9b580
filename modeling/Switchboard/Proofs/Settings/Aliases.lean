/-
# Second names

Three settings of the connector have a second name.  Layers are merged by the names as they are
given, and only then is a setting read under either name, so the same setting under one name in one
layer and under the other in another is there twice and cannot be read.

What carries the main statement, `renamed_settings_iff`, is that two rows of keys that differ in such
names only make tables that differ in the block of the connector only, and there under the two names
only: `Paired`.  A row preserves this key by key.
-/
import Mathlib.Data.List.Forall2
import Switchboard.Proofs.Settings.Layers
import Switchboard.Proofs.Settings.Reading

namespace Switchboard.Settings

open Text (lowerString)

/-- The settings with two names, and the second of them. -/
def secondNames : List (String × String) :=
  [("slack_token", "token"), ("slack_channel", "channel"),
    ("errors_ignore_retry", "errors_to_ignore_on_retry")]

/-- A key and its value, with a setting in the block of the connector under its second name in place
of the first, or as they are.  Letter case does not count. -/
inductive Renamed (first second : String) : String × Value → String × Value → Prop where
  | same (e : String × Value) : Renamed first second e e
  | field {block name other : String} {v : Value} (before after : List (String × Value))
      (hblock : lowerString block = "slack") (hname : lowerString name = first)
      (hother : lowerString other = second) :
      Renamed first second (block, .table (before ++ (name, v) :: after))
        (block, .table (before ++ (other, v) :: after))

/-! ## The block of the connector -/

/-- Two blocks that differ under two names only: one has a value under the first and the other under
the second, and it is the same value unless one of them has both. -/
structure Paired (first second : String) (b b' : Value) : Prop where
  isTable : b.IsTable
  isTable' : b'.IsTable
  elsewhere : ∀ name, name ≠ first → name ≠ second → b.get? name = b'.get? name
  first_there : (b.get? first).isSome
  second_there : (b'.get? second).isSome
  same : b.get? second = none → b'.get? first = none → b.get? first = b'.get? second

namespace Paired

variable {first second name : String} {b b' v v' : Value}

/-- Values under one of the two names may differ, for then one of the blocks has both. -/
theorem set (h : Paired first second b b')
    (hv : name ≠ first → name ≠ second → v = v') :
    Paired first second (b.set name v) (b'.set name v') := by
  refine ⟨⟨_, rfl⟩, ⟨_, rfl⟩, ?_, ?_, ?_, ?_⟩
  · intro other hfirst hsecond
    by_cases hother : other = name
    · subst hother
      rw [Value.get?_set_self, Value.get?_set_self, hv hfirst hsecond]
    · rw [Value.get?_set_of_ne hother, Value.get?_set_of_ne hother]
      exact h.elsewhere other hfirst hsecond
  · by_cases hfirst : first = name
    · subst hfirst
      rw [Value.get?_set_self]
      rfl
    · rw [Value.get?_set_of_ne hfirst]
      exact h.first_there
  · by_cases hsecond : second = name
    · subst hsecond
      rw [Value.get?_set_self]
      rfl
    · rw [Value.get?_set_of_ne hsecond]
      exact h.second_there
  · intro hnone hnone'
    have hsecond : second ≠ name := by
      rintro rfl
      rw [Value.get?_set_self] at hnone
      cases hnone
    have hfirst : first ≠ name := by
      rintro rfl
      rw [Value.get?_set_self] at hnone'
      cases hnone'
    rw [Value.get?_set_of_ne hsecond] at hnone ⊢
    rw [Value.get?_set_of_ne hfirst] at hnone' ⊢
    exact h.same hnone hnone'

theorem mergeEntries (h : Paired first second b b') :
    ∀ entries, Paired first second (Settings.mergeEntries b entries)
      (Settings.mergeEntries b' entries) := by
  intro entries
  induction entries generalizing b b' with
  | nil =>
      rw [Settings.mergeEntries, Settings.mergeEntries]
      exact h
  | cons e rest ih =>
      rw [Settings.mergeEntries, Settings.mergeEntries, mergeAt_eq, mergeAt_eq]
      refine ih (h.set fun hfirst hsecond => ?_)
      rw [h.elsewhere _ hfirst hsecond]

end Paired

/-- What stands in the place of a block in two tables: the same, or paired blocks. -/
def Alike (first second : String) (b b' : Option Value) : Prop :=
  b = b' ∨ ∃ c c', b = some c ∧ b' = some c' ∧ Paired first second c c'

section Alike

variable {first second : String} {b b' : Option Value}

/-- The same key under the same name of two such blocks. -/
theorem Alike.reach? (h : Alike first second b b') {v w w' : Value} {path : List Step}
    (hw : Settings.reach? v b path = some w)
    (hw' : Settings.reach? v b' path = some w') : Alike first second (some w) (some w') := by
  rcases h with rfl | ⟨c, c', rfl, rfl, h⟩
  · exact .inl (hw.symm.trans hw')
  match path, hw, hw' with
  | [], hw, hw' =>
      cases hw
      cases hw'
      cases v with
      | table entries => exact .inr ⟨_, _, rfl, rfl, h.mergeEntries entries⟩
      | _ => exact .inl rfl
  | .index i :: more, hw, hw' =>
      -- Neither block is a list, so both give way to the same list.
      obtain ⟨entries, rfl⟩ := h.isTable
      obtain ⟨entries', rfl⟩ := h.isTable'
      refine .inl (hw.symm.trans (Eq.trans ?_ hw'))
      rw [Settings.reach?, Settings.reach?, assign?, assign?]
      rfl
  | .name field :: more, hw, hw' =>
      obtain ⟨name, inner, hfront⟩ := exists_front?_name field more
      rw [reach?_of_front? hfront] at hw hw'
      obtain ⟨u, hu, rfl⟩ := Option.map_eq_some_iff.mp hw
      obtain ⟨u', hu', rfl⟩ := Option.map_eq_some_iff.mp hw'
      refine .inr ⟨_, _, rfl, rfl, h.set fun hfirst hsecond => ?_⟩
      have hsame : c.get? name = c'.get? name := h.elsewhere name hfirst hsecond
      rw [Option.getD_some] at hu hu'
      rw [hsame] at hu
      exact Option.some.inj (hu.symm.trans hu')

/-- A value under the first name in one block, and under the second in the other. -/
theorem paired_set {c c' v : Value} (hne : first ≠ second)
    (h : c = c' ∨ Paired first second c c') :
    Paired first second (c.set first (merged (c.get? first) v))
      (c'.set second (merged (c'.get? second) v)) := by
  have hsecond : (c.set first (merged (c.get? first) v)).get? second = c.get? second :=
    Value.get?_set_of_ne hne.symm _
  have hfirst : (c'.set second (merged (c'.get? second) v)).get? first = c'.get? first :=
    Value.get?_set_of_ne hne _
  refine ⟨⟨_, rfl⟩, ⟨_, rfl⟩, ?_, ?_, ?_, ?_⟩
  · intro name hname hname'
    rw [Value.get?_set_of_ne hname, Value.get?_set_of_ne hname']
    rcases h with rfl | h
    · rfl
    · exact h.elsewhere name hname hname'
  · rw [Value.get?_set_self]
    rfl
  · rw [Value.get?_set_self]
    rfl
  · rw [hsecond, hfirst, Value.get?_set_self, Value.get?_set_self]
    intro hnone hnone'
    rcases h with rfl | h
    · rw [hnone, hnone']
    · rw [h.same hnone hnone']

/-- A table with a value under the first name, merged into one block, and the table with the second
name in its place, merged into the other. -/
theorem Alike.renamed (h : Alike first second b b') (hne : first ≠ second) {name other : String}
    (hname : lowerString name = first) (hother : lowerString other = second) (v : Value)
    (before after : List (String × Value)) :
    Alike first second (some (merged b (.table (before ++ (name, v) :: after))))
      (some (merged b' (.table (before ++ (other, v) :: after)))) := by
  have hbefore : ∀ {c c' : Value}, c = c' ∨ Paired first second c c' →
      Paired first second (mergeEntries c (before ++ (name, v) :: after))
        (mergeEntries c' (before ++ (other, v) :: after)) := by
    intro c c' hc
    rw [mergeEntries_append, mergeEntries_append, mergeEntries, mergeEntries, mergeAt_eq, mergeAt_eq,
      hname, hother]
    refine (paired_set hne ?_).mergeEntries after
    exact hc.imp (fun h => by rw [h]) fun h => h.mergeEntries before
  refine .inr ⟨_, _, rfl, rfl, hbefore ?_⟩
  rcases h with rfl | ⟨c, c', rfl, rfl, h⟩
  · exact .inl rfl
  · exact .inr h

end Alike

/-! ## Rows of keys -/

/-- Two tables that differ in the block of the connector only, and there under two names only. -/
structure Twin (first second : String) (t t' : Value) : Prop where
  elsewhere : ∀ name, name ≠ "slack" → t.get? name = t'.get? name
  block : Alike first second (t.get? "slack") (t'.get? "slack")

variable {first second : String}

/-- A key, and the same key with a name renamed, keep the tables apart no further. -/
theorem Twin.assign? {t t' made made' : Value} (h : Twin first second t t')
    (hne : first ≠ second) {e e' : String × Value} (he : Renamed first second e e')
    (hmade : Settings.assign? e.2 t (pathOf e.1) = some made)
    (hmade' : Settings.assign? e'.2 t' (pathOf e'.1) = some made') :
    Twin first second made made' := by
  cases he with
  | same =>
      obtain ⟨name, rest, hfront⟩ := exists_front?_pathOf e.1
      by_cases hslack : name = "slack"
      · subst hslack
        obtain ⟨w, hw, hget⟩ := get?_assign?_self hfront hmade
        obtain ⟨w', hw', hget'⟩ := get?_assign?_self hfront hmade'
        refine ⟨fun name hname => ?_, ?_⟩
        · rw [get?_assign?_of_ne hfront hname hmade, get?_assign?_of_ne hfront hname hmade']
          exact h.elsewhere name hname
        · rw [hget, hget']
          exact h.block.reach? hw hw'
      · obtain ⟨w, hw, hget⟩ := get?_assign?_self hfront hmade
        obtain ⟨w', hw', hget'⟩ := get?_assign?_self hfront hmade'
        refine ⟨fun other hother => ?_, ?_⟩
        · by_cases hname : other = name
          · subst hname
            rw [h.elsewhere other hother] at hw
            rw [hget, hget', ← hw, hw']
          · rw [get?_assign?_of_ne hfront hname hmade, get?_assign?_of_ne hfront hname hmade']
            exact h.elsewhere other hother
        · rw [get?_assign?_of_ne hfront (Ne.symm hslack) hmade,
            get?_assign?_of_ne hfront (Ne.symm hslack) hmade']
          exact h.block
  | @field block name other v before after hblock hname hother =>
      have hfront : front? (pathOf block) = some ("slack", []) := by
        have hpath : path? "slack" = some [.name "slack"] := by decide +kernel
        have hlower : lowerString "slack" = "slack" := by decide +kernel
        rw [pathOf, hblock, hpath, Option.getD_some, front?, hlower]
      obtain ⟨w, hw, hget⟩ := get?_assign?_self hfront hmade
      obtain ⟨w', hw', hget'⟩ := get?_assign?_self hfront hmade'
      refine ⟨fun name hname => ?_, ?_⟩
      · rw [get?_assign?_of_ne hfront hname hmade, get?_assign?_of_ne hfront hname hmade']
        exact h.elsewhere name hname
      · rw [hget, hget', ← hw, ← hw']
        exact h.block.renamed hne hname hother v before after

/-- Rows of keys that differ in names only. -/
theorem Twin.overlay? {row row' : Layer} (hrow : List.Forall₂ (Renamed first second) row row')
    (hne : first ≠ second) {t t' made made' : Value} (h : Twin first second t t')
    (hmade : Settings.overlay? t row = some made)
    (hmade' : Settings.overlay? t' row' = some made') : Twin first second made made' := by
  induction hrow generalizing t t' with
  | nil =>
      cases hmade
      cases hmade'
      exact h
  | cons he _ ih =>
      rw [overlay?_cons] at hmade hmade'
      obtain ⟨next, hnext, hmade⟩ := Option.bind_eq_some_iff.mp hmade
      obtain ⟨next', hnext', hmade'⟩ := Option.bind_eq_some_iff.mp hmade'
      exact ih (h.assign? hne he hnext hnext') hmade hmade'

/-! ## Reading -/

/-- Whether the block of the connector has values under both names. -/
def HasBoth (first second : String) (t : Value) : Prop :=
  (field? t "slack" first).isSome ∧ (field? t "slack" second).isSome

theorem cases_of_secondNames (h : (first, second) ∈ secondNames) :
    first = "slack_token" ∧ second = "token" ∨ first = "slack_channel" ∧ second = "channel" ∨
      first = "errors_ignore_retry" ∧ second = "errors_to_ignore_on_retry" := by
  simpa only [secondNames, List.mem_cons, List.not_mem_nil, or_false, Prod.mk.injEq] using h

theorem ne_of_secondNames (h : (first, second) ∈ secondNames) : first ≠ second := by
  rcases cases_of_secondNames h with ⟨rfl, rfl⟩ | ⟨rfl, rfl⟩ | ⟨rfl, rfl⟩ <;> decide

/-- An optional setting with two values cannot be read. -/
theorem readOptional_two {β : Type} (read : Value → Option β) {given : String → Option Value}
    (hfirst : (given first).isSome) (hsecond : (given second).isSome) :
    readOptional read ([first, second].filterMap given) = none := by
  obtain ⟨v, hv⟩ := Option.isSome_iff_exists.mp hfirst
  obtain ⟨w, hw⟩ := Option.isSome_iff_exists.mp hsecond
  rw [List.filterMap_cons_some hv, List.filterMap_cons_some hw]
  rfl

/-- Two values under the names of a setting cannot be read. -/
theorem ofSource?_of_hasBoth (h : (first, second) ∈ secondNames) {t : Value} (hkeyed : Keyed t)
    (htable : t.IsTable) (hboth : HasBoth first second t) : Settings.ofSource? t = none := by
  refine Option.eq_none_iff_forall_ne_some.mpr fun s hs => ?_
  rw [ofSource?_settings hkeyed htable] at hs
  obtain ⟨-, hslack⟩ := readSettings_eq_some_iff.mp hs
  obtain ⟨hfirst, hsecond⟩ := hboth
  unfold field? at hfirst hsecond
  cases hb : t.get? "slack" with
  | none =>
      rw [hb] at hfirst
      cases hfirst
  | some b =>
      rw [hb, Option.bind_some] at hfirst hsecond
      have hkeyedb : Keyed b := hkeyed.get? hb
      obtain ⟨v, hv⟩ := Option.isSome_iff_exists.mp hfirst
      have htableb : b.IsTable := isTable_of_get? hv
      obtain ⟨c, hc, -⟩ := readOptional_of_mem
        (List.mem_filterMap.mpr ⟨_, List.mem_cons_self, hb⟩) (ne_nothing_of_isTable htableb) hslack
      rw [ofSource?_credentials hkeyedb htableb] at hc
      obtain ⟨htoken, hchannel, hreasons, -⟩ := readCredentials_eq_some_iff.mp hc
      rcases cases_of_secondNames h with ⟨rfl, rfl⟩ | ⟨rfl, rfl⟩ | ⟨rfl, rfl⟩
      · cases htoken.symm.trans (readOptional_two _ hfirst hsecond)
      · cases hchannel.symm.trans (readOptional_two _ hfirst hsecond)
      · cases hreasons.symm.trans (readOptional_two _ hfirst hsecond)

/-- Paired blocks are read as the same credentials, if neither has a value under both names. -/
theorem Paired.readCredentials_eq (hnames : (first, second) ∈ secondNames) {b b' : Value}
    (h : Paired first second b b') (hsecond : b.get? second = none)
    (hfirst : b'.get? first = none) : readCredentials b.get? = readCredentials b'.get? := by
  have hpair : [first, second].filterMap b.get? = [first, second].filterMap b'.get? := by
    obtain ⟨v, hv⟩ := Option.isSome_iff_exists.mp h.first_there
    have hsame : b'.get? second = some v := (h.same hsecond hfirst).symm.trans hv
    rw [List.filterMap_cons_some hv, List.filterMap_cons_none hsecond,
      List.filterMap_cons_none hfirst, List.filterMap_cons_some hsame]
    rfl
  have helsewhere : ∀ names : List String, first ∉ names → second ∉ names →
      names.filterMap b.get? = names.filterMap b'.get? := by
    intro names hf hs
    refine List.filterMap_congr fun name hname => h.elsewhere name ?_ ?_
    · rintro rfl
      exact hf hname
    · rintro rfl
      exact hs hname
  unfold readCredentials
  rcases cases_of_secondNames hnames with ⟨rfl, rfl⟩ | ⟨rfl, rfl⟩ | ⟨rfl, rfl⟩
  · rw [hpair, helsewhere ["slack_channel", "channel"] (by decide) (by decide),
      helsewhere ["errors_ignore_retry", "errors_to_ignore_on_retry"] (by decide) (by decide),
      helsewhere ["signing_secret"] (by decide) (by decide)]
  · rw [hpair, helsewhere ["slack_token", "token"] (by decide) (by decide),
      helsewhere ["errors_ignore_retry", "errors_to_ignore_on_retry"] (by decide) (by decide),
      helsewhere ["signing_secret"] (by decide) (by decide)]
  · rw [hpair, helsewhere ["slack_token", "token"] (by decide) (by decide),
      helsewhere ["slack_channel", "channel"] (by decide) (by decide),
      helsewhere ["signing_secret"] (by decide) (by decide)]

/-- Twins are read as the same settings, if neither has a value under both names. -/
theorem Twin.ofSource?_eq (hnames : (first, second) ∈ secondNames) {t t' : Value}
    (h : Twin first second t t') (hkeyed : Keyed t) (htable : t.IsTable) (hkeyed' : Keyed t')
    (htable' : t'.IsTable) (hboth : ¬ HasBoth first second t)
    (hboth' : ¬ HasBoth first second t') : Settings.ofSource? t = Settings.ofSource? t' := by
  rw [ofSource?_settings hkeyed htable, ofSource?_settings hkeyed' htable']
  unfold readSettings
  rw [h.elsewhere "server" (by decide)]
  rcases h.block with hsame | ⟨c, c', hc, hc', hpaired⟩
  · simp only [List.filterMap_cons, List.filterMap_nil, hsame]
  · have hcredentials : Credentials.ofSource? c = Credentials.ofSource? c' := by
      rw [ofSource?_credentials (hkeyed.get? hc) hpaired.isTable,
        ofSource?_credentials (hkeyed'.get? hc') hpaired.isTable']
      refine hpaired.readCredentials_eq hnames ?_ ?_
      · refine Option.not_isSome_iff_eq_none.mp fun hsome => hboth ⟨?_, ?_⟩
        · rw [field?, hc]
          exact hpaired.first_there
        · rw [field?, hc]
          exact hsome
      · refine Option.not_isSome_iff_eq_none.mp fun hsome => hboth' ⟨?_, ?_⟩
        · rw [field?, hc']
          exact hsome
        · rw [field?, hc']
          exact hpaired.second_there
    rw [List.filterMap_cons_some hc, List.filterMap_cons_some hc', List.filterMap_nil,
      List.filterMap_nil, readOptional_of_isTable _ hpaired.isTable,
      readOptional_of_isTable _ hpaired.isTable', hcredentials]

/-- Files that give the same settings, some of them under their second names. -/
def RenamedFiles (first second : String) (names : List String) (files files' : Files) : Prop :=
  ∀ name ∈ names, ∀ layer, fileLayer files name = .ok layer →
    ∃ layer', fileLayer files' name = .ok layer' ∧ List.Forall₂ (Renamed first second) layer layer'

theorem renamed_refl (row : Layer) : List.Forall₂ (Renamed first second) row row :=
  List.forall₂_same.mpr fun e _ => .same e

/-- Layers of files that differ in names only make rows of keys that differ in names only. -/
theorem renamed_rows {files files' : Files} {names : List String}
    (hfiles : RenamedFiles first second names files files')
    {ls : List Layer} (h : names.map (fileLayer files) = ls.map .ok) :
    ∃ ls' : List Layer, names.map (fileLayer files') = ls'.map .ok ∧
      List.Forall₂ (Renamed first second) ls.flatten ls'.flatten := by
  induction names generalizing ls with
  | nil =>
      obtain rfl := List.map_eq_nil_iff.mp h.symm
      exact ⟨[], rfl, .nil⟩
  | cons name rest ih =>
      obtain ⟨layer, more, rfl, hlayer, hmore⟩ := List.map_eq_cons_iff.mp h.symm
      obtain ⟨layer', hlayer', hrow⟩ := hfiles name List.mem_cons_self layer hlayer.symm
      obtain ⟨more', hmore', hrows⟩ :=
        ih (fun name' hname => hfiles name' (List.mem_cons_of_mem _ hname)) hmore.symm
      refine ⟨layer' :: more', ?_, ?_⟩
      · rw [List.map_cons, List.map_cons, hlayer', hmore']
      · rw [List.flatten_cons, List.flatten_cons]
        exact List.rel_append hrow hrows

theorem renamed_layers {env : Environment} {files files' : Files}
    (hfiles : RenamedFiles first second (fileNames env) files files')
    {ls : List Layer} (h : layers env files = ls.map .ok) :
    ∃ ls' : List Layer, layers env files' = ls'.map .ok ∧
      List.Forall₂ (Renamed first second) ls.flatten ls'.flatten := by
  obtain ⟨lower, top, rfl, hlower, htop⟩ := List.append_eq_map_iff.mp h
  obtain ⟨bottom, rows, rfl, hbottom, hrows⟩ := List.map_eq_cons_iff.mp hlower
  obtain ⟨rows', hrows', hrow⟩ := renamed_rows hfiles hrows.symm
  refine ⟨bottom :: rows' ++ top, ?_, ?_⟩
  · rw [layers, List.map_append, List.map_cons, hrows', hbottom, htop]
  · rw [List.cons_append, List.cons_append, List.flatten_cons, List.flatten_cons,
      List.flatten_append, List.flatten_append]
    exact List.rel_append (renamed_refl bottom) (List.rel_append hrow (renamed_refl _))

/-- If settings in the files are given their second names, then nothing else is loaded; and the same
is loaded just if no setting is there under both names in the end. -/
theorem renamed_settings_iff (hnames : (first, second) ∈ secondNames) {env : Environment}
    {files files' : Files} {s : Settings}
    (hfiles : RenamedFiles first second (fileNames env) files files')
    (hload : load env files = .ok s) :
    (∀ s', load env files' = .ok s' → s' = s) ∧
    (load env files' = .ok s ↔
      ∃ made, build env files' = .ok made ∧ ¬ HasBoth first second made) := by
  obtain ⟨made, hbuild, hs⟩ := load_eq_ok_iff.mp hload
  obtain ⟨ls, hlayers, hmade⟩ := build_eq_ok_iff.mp hbuild
  obtain ⟨ls', hlayers', hrow⟩ := renamed_layers hfiles hlayers
  have hsame : ∀ made', build env files' = .ok made' → ¬ HasBoth first second made' →
      Settings.ofSource? made' = some s := by
    intro made' hbuild' hboth'
    rw [build_of_layers hlayers'] at hbuild'
    cases hmade' : overlay? (.table []) ls'.flatten with
    | none =>
        rw [hmade'] at hbuild'
        cases hbuild'
    | some _ =>
        rw [hmade'] at hbuild'
        cases hbuild'
        have htwin : Twin first second made made' :=
          Twin.overlay? hrow (ne_of_secondNames hnames) ⟨fun _ _ => rfl, .inl rfl⟩ hmade hmade'
        rw [← hs]
        refine (htwin.ofSource?_eq hnames ?_ ?_ ?_ ?_ ?_ hboth').symm
        · exact keyed_overlay? (.leaf rfl) hmade
        · exact isTable_overlay? ⟨[], rfl⟩ hmade
        · exact keyed_overlay? (.leaf rfl) hmade'
        · exact isTable_overlay? ⟨[], rfl⟩ hmade'
        · intro hboth
          cases hs.symm.trans
            (ofSource?_of_hasBoth hnames (keyed_of_build hbuild) (isTable_of_build hbuild) hboth)
  have hapart : ∀ s', load env files' = .ok s' →
      ∃ made', build env files' = .ok made' ∧ ¬ HasBoth first second made' ∧
        Settings.ofSource? made' = some s' := by
    intro s' hload'
    obtain ⟨made', hbuild', hs'⟩ := load_eq_ok_iff.mp hload'
    refine ⟨made', hbuild', fun hboth => ?_, hs'⟩
    cases hs'.symm.trans
      (ofSource?_of_hasBoth hnames (keyed_of_build hbuild') (isTable_of_build hbuild') hboth)
  refine ⟨fun s' hload' => ?_, fun hload' => ?_, ?_⟩
  · obtain ⟨made', hbuild', hboth', hs'⟩ := hapart s' hload'
    exact Option.some.inj (hs'.symm.trans (hsame made' hbuild' hboth'))
  · obtain ⟨made', hbuild', hboth', -⟩ := hapart s hload'
    exact ⟨made', hbuild', hboth'⟩
  · rintro ⟨made', hbuild', hboth'⟩
    exact load_eq_ok_iff.mpr ⟨made', hbuild', hsame made' hbuild' hboth'⟩

/-! ## A token under either name -/

/-- The name and the text of the one setting that a layer gives for the connector, if this is all it
gives. -/
def soleText? : Except LoadError Layer → Option (String × String)
  | .ok [("slack", .table [(name, .text v)])] => some (name, v)
  | _ => none

theorem eq_of_soleText? {layer : Except LoadError Layer} {name v : String}
    (h : soleText? layer = some (name, v)) :
    layer = .ok [("slack", .table [(name, .text v)])] := by
  unfold soleText? at h
  split at h
  · cases h
    rfl
  · cases h

/-- A file that gives a token, under its first name or its second. -/
def tokenFile (path name token : String) : String × String :=
  (path, "[slack]\n" ++ name ++ " = \"" ++ token ++ "\"\n")

theorem renamed_token (v : String) : List.Forall₂ (Renamed "slack_token" "token")
    [("slack", .table [("slack_token", .text v)])] [("slack", .table [("token", .text v)])] := by
  refine .cons (.field [] [] ?_ ?_ ?_) .nil <;> decide +kernel

theorem fileLayer_of_absent {files : Files} {name : String} (h : files.find? name = none) :
    fileLayer files name = .ok [] := by
  rw [fileLayer, h]

/-- Files of which only the last is another, and this one in the name of the token. -/
theorem renamed_local {files files' : Files} {v : String}
    (hlower : ∀ name ∈ ["config/default", "config/development"],
      fileLayer files' name = fileLayer files name)
    (hlocal : soleText? (fileLayer files "config/local") = some ("slack_token", v))
    (hlocal' : soleText? (fileLayer files' "config/local") = some ("token", v)) :
    RenamedFiles "slack_token" "token" (fileNames []) files files' := by
  intro name hname layer hlayer
  have hnames : fileNames [] = ["config/default", "config/development"] ++ ["config/local"] := by
    decide +kernel
  rw [hnames] at hname
  rcases List.mem_append.mp hname with hname | hname
  · exact ⟨layer, (hlower name hname).trans hlayer, renamed_refl layer⟩
  · obtain rfl := List.mem_singleton.mp hname
    rw [eq_of_soleText? hlocal] at hlayer
    obtain rfl := Except.ok.inj hlayer
    exact ⟨_, eq_of_soleText? hlocal', renamed_token v⟩

/-- The one file that gives a token may use either name. -/
theorem token_renamed : ∃ s,
    load [] [tokenFile "config/local.toml" "slack_token" "xoxb-file"] = .ok s ∧
      load [] [tokenFile "config/local.toml" "token" "xoxb-file"] = .ok s := by
  obtain ⟨s, hload, -⟩ : ∃ s,
      load [] [tokenFile "config/local.toml" "slack_token" "xoxb-file"] = .ok s ∧ true :=
    exists_ok_of_any (p := fun _ => true) (by decide +kernel)
  have hfiles : RenamedFiles "slack_token" "token" (fileNames [])
      [tokenFile "config/local.toml" "slack_token" "xoxb-file"]
      [tokenFile "config/local.toml" "token" "xoxb-file"] := by
    refine renamed_local (v := "xoxb-file") (fun name hname => ?_) (by decide +kernel)
      (by decide +kernel)
    rw [fileLayer_of_absent, fileLayer_of_absent] <;> revert name <;> decide +kernel
  obtain ⟨made, hbuild, hlacks⟩ :
      ∃ made, build [] [tokenFile "config/local.toml" "token" "xoxb-file"] = .ok made ∧
        (field? made "slack" "slack_token").isNone :=
    exists_ok_of_any (p := fun t => (field? t "slack" "slack_token").isNone) (by decide +kernel)
  refine ⟨s, hload, ((renamed_settings_iff (by decide) hfiles hload).2).mpr ⟨made, hbuild, ?_⟩⟩
  rintro ⟨hfirst, -⟩
  rw [Option.isNone_iff_eq_none.mp hlacks] at hfirst
  cases hfirst

/-- The token of a file does not take the place of the one in a file below, if it has the second
name. -/
theorem token_under_both_names : ∃ s,
    load [] [tokenFile "config/default.toml" "slack_token" "xoxb-low",
      tokenFile "config/local.toml" "slack_token" "xoxb-high"] = .ok s ∧
    RenamedFiles "slack_token" "token" (fileNames [])
      [tokenFile "config/default.toml" "slack_token" "xoxb-low",
        tokenFile "config/local.toml" "slack_token" "xoxb-high"]
      [tokenFile "config/default.toml" "slack_token" "xoxb-low",
        tokenFile "config/local.toml" "token" "xoxb-high"] ∧
    load [] [tokenFile "config/default.toml" "slack_token" "xoxb-low",
      tokenFile "config/local.toml" "token" "xoxb-high"] = .error .unfit := by
  obtain ⟨s, hload, -⟩ : ∃ s, load [] [tokenFile "config/default.toml" "slack_token" "xoxb-low",
      tokenFile "config/local.toml" "slack_token" "xoxb-high"] = .ok s ∧ true :=
    exists_ok_of_any (p := fun _ => true) (by decide +kernel)
  refine ⟨s, hload, renamed_local (v := "xoxb-high") (fun name hname => ?_) (by decide +kernel)
    (by decide +kernel), by decide +kernel⟩
  simp only [List.mem_cons, List.not_mem_nil, or_false] at hname
  rcases hname with rfl | rfl
  · refine Eq.trans (b := .ok [("slack", .table [("slack_token", .text "xoxb-low")])]) ?_
      (Eq.symm ?_) <;> exact eq_of_soleText? (by decide +kernel)
  · rw [fileLayer_of_absent (by decide +kernel), fileLayer_of_absent (by decide +kernel)]

end Switchboard.Settings
