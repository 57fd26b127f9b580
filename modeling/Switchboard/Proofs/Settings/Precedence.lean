/-
# Which layer counts

A setting is what the highest layer that gives it says, whatever the layers below it say of this
setting and whatever any layer says of others: `load_of_plain`.  This holds of layers that give a
block as a table or field by field, each setting under its first name and once, and none as an empty
table.

Tables are merged, so a table in the place of a setting is not what one layer gave.  It cannot be
read either way, and so it is enough that what stands in the place of a setting and what the highest
layer gives are the same or both tables: `Agree`.  A row of keys preserves this key by key.
-/
import Mathlib.Data.Option.Basic
import Switchboard.Proofs.Settings.Aliases

namespace Switchboard.Settings

open Text (lowerString)
open Record (listOf?)

/-! ## What a layer gives -/

/-- What the entries of a table give under a name, in either letter case. -/
def fieldsNamed (name : String) (entries : List (String × Value)) : List Value :=
  (entries.filter fun e => lowerString e.1 = name).map Prod.snd

/-- What a key gives under a name of a block: its value, or what is in the table that it gives for
the block. -/
def givenBy (block name : String) (e : String × Value) : List Value :=
  match front? (pathOf e.1) with
  | some (b, rest) =>
    if b ≠ block then []
    else if rest = [] then fieldsNamed name e.2.entries
    else if front? rest = some (name, []) then [e.2]
    else []
  | none => []

/-- What a layer gives under a name of a block. -/
def given (block name : String) (layer : Layer) : List Value := layer.flatMap (givenBy block name)

/-- The one value that a layer gives under a name of a block. -/
def value? (block name : String) (layer : Layer) : Option Value :=
  match given block name layer with
  | [v] => some v
  | _ => none

/-- The value that the highest layer gives under a name of a block, among those that give one.  The
lowest layer comes first. -/
def highest (block name : String) (ls : List Layer) : Option Value :=
  ls.reverse.findSome? (value? block name)

/-- The names that are read, with their blocks. -/
def readNames : List (String × String) :=
  [("server", "host"), ("server", "port"), ("server", "mount_path")]
    ++ secondNames.flatMap (fun p => [("slack", p.1), ("slack", p.2)])
    ++ [("slack", "signing_secret")]

/-- A key that does not lead into what is given under a name of a block, and gives the block as a
table if it gives the block. -/
structure Whole (block name : String) (e : String × Value) : Prop where
  table : front? (pathOf e.1) = some (block, []) → e.2.IsTable
  field : ∀ rest, rest ≠ [] → front? (pathOf e.1) = some (block, rest) →
    ∃ name' more, front? rest = some (name', more) ∧ (name' = name → more = [])

/-- A layer that gives the blocks as tables or field by field, and each setting once, under its
first name and as a whole. -/
structure Plain (layer : Layer) : Prop where
  whole : ∀ p ∈ readNames, ∀ e ∈ layer, Whole p.1 p.2 e
  once : ∀ p ∈ readNames, (given p.1 p.2 layer).length ≤ 1
  first : ∀ p ∈ secondNames, given "slack" p.2 layer = []

/-- A layer that gives no setting as an empty table, which leaves in place what is there. -/
def Filled (layer : Layer) : Prop := ∀ p ∈ readNames, ∀ v ∈ given p.1 p.2 layer, v ≠ .table []

instance (v : Value) : Decidable v.IsTable :=
  match v with
  | .table entries => .isTrue ⟨entries, rfl⟩
  | .nothing | .bool _ | .whole _ | .real _ | .text _ | .moment _ | .list _ => .isFalse nofun

instance (v : Value) : Decidable (v = .table []) :=
  match v with
  | .table [] => .isTrue rfl
  | .table (_ :: _) => .isFalse nofun
  | .nothing | .bool _ | .whole _ | .real _ | .text _ | .moment _ | .list _ => .isFalse nofun

/-- Decision procedure for `Whole`. -/
def isWhole (block name : String) (e : String × Value) : Bool :=
  match front? (pathOf e.1) with
  | some (b, rest) =>
    b ≠ block ||
      if rest = [] then decide e.2.IsTable
      else
        match front? rest with
        | some (name', more) => name' ≠ name || more.isEmpty
        | none => false
  | none => true

theorem isWhole_iff {block name : String} {e : String × Value} :
    isWhole block name e = true ↔ Whole block name e := by
  obtain ⟨b, rest, hfront⟩ := exists_front?_pathOf e.1
  rw [isWhole, hfront]
  constructor
  · intro h
    refine ⟨fun htable => ?_, fun rest' hrest hfield => ?_⟩
    · cases hfront.symm.trans htable
      simpa using h
    · cases hfront.symm.trans hfield
      cases hinner : front? rest with
      | none => simp [hrest, hinner] at h
      | some p => exact ⟨p.1, p.2, rfl, fun hname => by simpa [hrest, hinner, hname] using h⟩
  · intro h
    by_cases hb : b = block
    · subst hb
      by_cases hrest : rest = []
      · subst hrest
        simpa using h.table hfront
      · obtain ⟨name', more, hinner, hmore⟩ := h.field rest hrest hfront
        simpa [hrest, hinner, or_iff_not_imp_left] using hmore
    · simp [hb]

instance (block name : String) (e : String × Value) : Decidable (Whole block name e) :=
  decidable_of_iff _ isWhole_iff

instance (layer : Layer) : Decidable (Plain layer) :=
  decidable_of_iff ((∀ p ∈ readNames, ∀ e ∈ layer, Whole p.1 p.2 e) ∧
      (∀ p ∈ readNames, (given p.1 p.2 layer).length ≤ 1) ∧
      ∀ p ∈ secondNames, given "slack" p.2 layer = [])
    ⟨fun ⟨whole, once, first⟩ => ⟨whole, once, first⟩,
      fun ⟨whole, once, first⟩ => ⟨whole, once, first⟩⟩

instance (layer : Layer) : Decidable (Filled layer) :=
  inferInstanceAs (Decidable (∀ p ∈ readNames, ∀ v ∈ given p.1 p.2 layer, v ≠ .table []))

/-! ## What stands in the place of a setting -/

/-- Two values that are the same, or are tables both. -/
def Agree (o o' : Option Value) : Prop :=
  o = o' ∨ ∃ t t', o = some t ∧ o' = some t' ∧ t.IsTable ∧ t'.IsTable

theorem agree_merged {v : Value} (h : v ≠ .table []) (here : Option Value) :
    Agree (some (merged here v)) (some v) := by
  match v, h with
  | .table [], h => exact absurd rfl h
  | .table (e :: rest), _ =>
      refine .inr ⟨_, _, rfl, rfl, ?_, ⟨_, rfl⟩⟩
      rw [merged, mergeEntries, mergeAt_eq]
      exact isTable_mergeEntries ⟨_, rfl⟩ rest
  | .nothing, _ | .bool _, _ | .whole _, _ | .real _, _ | .text _, _ | .moment _, _ | .list _, _ =>
      exact .inl rfl

theorem getLast?_append_or {α : Type} (l l' : List α) (o : Option α) :
    (l ++ l').getLast?.or o = l'.getLast?.or (l.getLast?.or o) := by
  rw [List.getLast?_append, Option.or_assoc]

/-- Entries merged into a block. -/
theorem agree_mergeEntries {name : String} {entries : List (String × Value)}
    (hfull : ∀ v ∈ fieldsNamed name entries, v ≠ .table []) {target : Value} {o : Option Value}
    (h : Agree (target.get? name) o) :
    Agree ((mergeEntries target entries).get? name) ((fieldsNamed name entries).getLast?.or o) := by
  induction entries generalizing target o with
  | nil =>
      rw [mergeEntries]
      exact h
  | cons e rest ih =>
      rw [mergeEntries]
      by_cases hname : lowerString e.1 = name
      · have hcons : fieldsNamed name (e :: rest) = [e.2] ++ fieldsNamed name rest := by
          rw [fieldsNamed, List.filter_cons_of_pos (by simpa using hname)]
          rfl
        rw [hcons] at hfull ⊢
        rw [getLast?_append_or]
        refine ih (fun v hmem => hfull v (List.mem_append_right _ hmem)) ?_
        subst hname
        rw [get?_mergeAt_self]
        exact agree_merged (hfull _ List.mem_cons_self) _
      · have hcons : fieldsNamed name (e :: rest) = fieldsNamed name rest := by
          rw [fieldsNamed, List.filter_cons_of_neg (by simpa using hname)]
          rfl
        rw [hcons] at hfull ⊢
        refine ih hfull ?_
        rw [get?_mergeAt_of_ne (Ne.symm hname)]
        exact h

section OneKey

variable {block name : String} {e : String × Value} {b : String} {rest : List Step}

theorem givenBy_of_ne (hfront : front? (pathOf e.1) = some (b, rest)) (h : b ≠ block) :
    givenBy block name e = [] := by
  rw [givenBy, hfront]
  exact if_pos h

theorem givenBy_block (hfront : front? (pathOf e.1) = some (block, [])) :
    givenBy block name e = fieldsNamed name e.2.entries := by
  rw [givenBy, hfront]
  simp only [ne_eq, not_true_eq_false, if_false, if_true]

theorem givenBy_field (hfront : front? (pathOf e.1) = some (block, rest)) (hrest : rest ≠ []) :
    givenBy block name e = if front? rest = some (name, []) then [e.2] else [] := by
  rw [givenBy, hfront]
  simp only [ne_eq, not_true_eq_false, if_false, hrest]

/-- One more key. -/
theorem agree_assign? {target made : Value} {o : Option Value} (hwhole : Whole block name e)
    (hfull : ∀ v ∈ givenBy block name e, v ≠ .table []) (h : Agree (field? target block name) o)
    (hmade : assign? e.2 target (pathOf e.1) = some made) :
    Agree (field? made block name) ((givenBy block name e).getLast?.or o) := by
  obtain ⟨b, rest, hfront⟩ := exists_front?_pathOf e.1
  by_cases hblock : b = block
  · subst hblock
    by_cases hrest : rest = []
    · subst hrest
      obtain ⟨entries, htable⟩ := hwhole.table hfront
      rw [givenBy_block hfront, htable] at hfull ⊢
      rw [htable] at hmade
      rw [field?_assign?_table hfront hmade]
      refine agree_mergeEntries hfull ?_
      rw [← field?_eq_getD (.table []) rfl]
      exact h
    · obtain ⟨name', more, hinner, hmore⟩ := hwhole.field rest hrest hfront
      rw [givenBy_field hfront hrest, hinner] at hfull ⊢
      by_cases hname : name' = name
      · subst hname
        obtain rfl := hmore rfl
        obtain ⟨w, hw, hget⟩ := field?_assign?_self hfront hinner hmade
        cases hw
        rw [if_pos rfl] at hfull ⊢
        rw [hget]
        exact agree_merged (hfull _ List.mem_cons_self) _
      · rw [if_neg (by rintro ⟨⟩; exact hname rfl),
          field?_assign?_of_ne hfront hinner (Ne.symm hname) hmade]
        exact h
  · rw [givenBy_of_ne hfront hblock, field?, get?_assign?_of_ne hfront (Ne.symm hblock) hmade]
    exact h

end OneKey

theorem given_append (block name : String) (row row' : Layer) :
    given block name (row ++ row') = given block name row ++ given block name row' :=
  List.flatMap_append

/-- A row of keys. -/
theorem agree_overlay? {block name : String} {row : Layer}
    (hwhole : ∀ e ∈ row, Whole block name e) (hfull : ∀ v ∈ given block name row, v ≠ .table [])
    {target made : Value} {o : Option Value} (h : Agree (field? target block name) o)
    (hmade : overlay? target row = some made) :
    Agree (field? made block name) ((given block name row).getLast?.or o) := by
  induction row generalizing target o with
  | nil =>
      cases hmade
      exact h
  | cons e rest ih =>
      rw [overlay?_cons] at hmade
      obtain ⟨next, hnext, hmade⟩ := Option.bind_eq_some_iff.mp hmade
      have hcons : given block name (e :: rest)
          = givenBy block name e ++ given block name rest := rfl
      rw [hcons] at hfull ⊢
      rw [getLast?_append_or]
      refine ih (fun e' he' => hwhole e' (List.mem_cons_of_mem _ he'))
        (fun v hmem => hfull v (List.mem_append_right _ hmem)) ?_ hmade
      exact agree_assign? (hwhole e List.mem_cons_self)
        (fun v hmem => hfull v (List.mem_append_left _ hmem)) h hnext

/-- Where each layer gives a value at most once, the highest layer gives the last of all. -/
theorem highest_eq {block name : String} {ls : List Layer}
    (honce : ∀ layer ∈ ls, (given block name layer).length ≤ 1) :
    highest block name ls = (given block name ls.flatten).getLast? := by
  induction ls with
  | nil => rfl
  | cons layer rest ih =>
      have hvalue : value? block name layer = (given block name layer).getLast? := by
        have hlength := honce layer List.mem_cons_self
        unfold value?
        match given block name layer, hlength with
        | [], _ | [_], _ => rfl
      rw [highest, List.reverse_cons, List.findSome?_append, List.flatten_cons, given_append,
        List.getLast?_append, ← ih fun layer' hmem => honce layer' (List.mem_cons_of_mem _ hmem),
        ← hvalue, List.findSome?_singleton, highest]

/-- What stands under the names that are read, if all layers are plain. -/
theorem agree_highest {ls : List Layer} (hplain : ∀ layer ∈ ls, Plain layer)
    (hfilled : ∀ layer ∈ ls, Filled layer) {made : Value}
    (hmade : overlay? (.table []) ls.flatten = some made) {p : String × String}
    (hp : p ∈ readNames) : Agree (field? made p.1 p.2) (highest p.1 p.2 ls) := by
  have hfull : ∀ v ∈ given p.1 p.2 ls.flatten, v ≠ .table [] := by
    intro v hmem
    obtain ⟨e, he, hmem⟩ := List.mem_flatMap.mp hmem
    obtain ⟨layer, hlayer, he⟩ := List.mem_flatten.mp he
    exact hfilled layer hlayer p hp v (List.mem_flatMap.mpr ⟨e, he, hmem⟩)
  have hwhole : ∀ e ∈ ls.flatten, Whole p.1 p.2 e := by
    intro e he
    obtain ⟨layer, hlayer, he⟩ := List.mem_flatten.mp he
    exact (hplain layer hlayer).whole p hp e he
  have hrow := agree_overlay? hwhole hfull (.inl rfl) hmade
  have hnone : field? (.table []) p.1 p.2 = none := rfl
  rw [hnone, Option.or_none] at hrow
  rw [highest_eq fun layer hlayer => (hplain layer hlayer).once p hp]
  exact hrow

/-! ## Reading -/

/-- What is read for a setting: a text or a list of texts, which may be absent, or a number. -/
inductive Setting where
  | text (s : Option String)
  | texts (l : Option (List String))
  | number (n : Nat)
  deriving DecidableEq, Repr

/-- What a value, or the lack of one, is read as. -/
def Key.decode? : Key → Option Value → Option Setting
  | host, o => (o.bind Value.text?).map fun s => .text (some s)
  | port, o => (o.bind ServerSettings.port?).map .number
  | mountPath, o =>
    (o.elim (some ServerSettings.defaultMountPath) Value.text?).map fun s => .text (some s)
  | token, o | channel, o | secret, o => (readOptional Value.text? o.toList).map .text
  | reasons, o => (readOptional (listOf? Value.text?) o.toList).map .texts

/-- What settings say of a setting. -/
def setting (s : Settings) : Key → Setting
  | .port => .number s.server.port
  | .reasons => .texts (s.credentials.bind Credentials.ignoredReasons)
  | k => .text (textOf? s k)

/-- No setting is read from a table. -/
theorem Agree.decode?_eq {o o' : Option Value} (h : Agree o o') (k : Key) :
    k.decode? o = k.decode? o' := by
  rcases h with rfl | ⟨_, _, rfl, rfl, ⟨_, rfl⟩, ⟨_, rfl⟩⟩
  · rfl
  · cases k <;> rfl

theorem Agree.eq_none {o : Option Value} (h : Agree o none) : o = none := by
  rcases h with rfl | ⟨_, _, -, h, -⟩
  · rfl
  · cases h

theorem Agree.isSome_eq {o o' : Option Value} (h : Agree o o') : o.isSome = o'.isSome := by
  rcases h with rfl | ⟨_, _, rfl, rfl, -⟩ <;> rfl

/-- Where nothing stands under the second name, an optional setting is read from the first. -/
theorem filterMap_first {given : String → Option Value} {first second : String}
    (h : given second = none) : [first, second].filterMap given = (given first).toList := by
  rw [List.filterMap_cons, List.filterMap_cons_none h]
  cases given first <;> rfl

theorem readCredentials_eq_some_iff_first {given : String → Option Value}
    (h : ∀ p ∈ secondNames, given p.2 = none) {c : Credentials} :
    readCredentials given = some c ↔
      readOptional Value.text? (given "slack_token").toList = some c.token ∧
      readOptional Value.text? (given "slack_channel").toList = some c.channel ∧
      readOptional (listOf? Value.text?) (given "errors_ignore_retry").toList
        = some c.ignoredReasons ∧
      readOptional Value.text? (given "signing_secret").toList = some c.secret := by
  have hsecret : ["signing_secret"].filterMap given = (given "signing_secret").toList := by
    rw [List.filterMap_cons]
    cases given "signing_secret" <;> rfl
  rw [readCredentials_eq_some_iff, hsecret,
    filterMap_first (h ("slack_token", "token") (by decide)),
    filterMap_first (h ("slack_channel", "channel") (by decide)),
    filterMap_first (h ("errors_ignore_retry", "errors_to_ignore_on_retry") (by decide))]

/-- What all settings are read as, one by one. -/
theorem forall_decode?_iff {o : Key → Option Value} {s : Settings} {c : Credentials}
    (hc : s.credentials = some c) :
    (∀ k : Key, k.decode? (o k) = some (setting s k)) ↔
      ((o .host).bind Value.text? = some s.server.host ∧
        (o .port).bind ServerSettings.port? = some s.server.port ∧
        (o .mountPath).elim (some ServerSettings.defaultMountPath) Value.text?
          = some s.server.mountPath) ∧
      readOptional Value.text? (o .token).toList = some c.token ∧
      readOptional Value.text? (o .channel).toList = some c.channel ∧
      readOptional (listOf? Value.text?) (o .reasons).toList = some c.ignoredReasons ∧
      readOptional Value.text? (o .secret).toList = some c.secret := by
  obtain ⟨server, credentials⟩ := s
  cases hc
  have htext : (Setting.text).Injective := fun _ _ h => Setting.text.inj h
  have htexts : (Setting.texts).Injective := fun _ _ h => Setting.texts.inj h
  have hnumber : (Setting.number).Injective := fun _ _ h => Setting.number.inj h
  have hsome : (fun s => Setting.text (some s)).Injective :=
    htext.comp (Option.some_injective String)
  constructor
  · intro h
    refine ⟨⟨?_, ?_, ?_⟩, ?_, ?_, ?_, ?_⟩
    · exact Option.map_injective hsome (h .host)
    · exact Option.map_injective hnumber (h .port)
    · exact Option.map_injective hsome (h .mountPath)
    · exact Option.map_injective htext (h .token)
    · exact Option.map_injective htext (h .channel)
    · exact Option.map_injective htexts (h .reasons)
    · exact Option.map_injective htext (h .secret)
  · rintro ⟨⟨hhost, hport, hpath⟩, htoken, hchannel, hreasons, hsecret⟩ k
    cases k with
    | host => exact congrArg (Option.map _) hhost
    | port => exact congrArg (Option.map _) hport
    | mountPath => exact congrArg (Option.map _) hpath
    | token => exact congrArg (Option.map _) htoken
    | channel => exact congrArg (Option.map _) hchannel
    | reasons => exact congrArg (Option.map _) hreasons
    | secret => exact congrArg (Option.map _) hsecret

/-- Settings are read one by one, where both blocks are there and no second name is used. -/
theorem ofSource?_eq_some_iff {made b c : Value} (hkeyed : Keyed made) (htable : made.IsTable)
    (hb : made.get? "server" = some b) (hbtable : b.IsTable) (hc : made.get? "slack" = some c)
    (hctable : c.IsTable) (hsecond : ∀ p ∈ secondNames, field? made "slack" p.2 = none)
    {s : Settings} :
    Settings.ofSource? made = some s ↔
      s.credentials.isSome ∧
        ∀ k : Key, k.decode? (field? made k.block k.name) = some (setting s k) := by
  have hserver : field? made "server" = b.get? := by
    funext name
    rw [field?, hb, Option.bind_some]
  have hslack : field? made "slack" = c.get? := by
    funext name
    rw [field?, hc, Option.bind_some]
  rw [ofSource?_settings hkeyed htable, readSettings_eq_some_iff, hb, Option.bind_some,
    ofSource?_server (hkeyed.get? hb) hbtable, ← hserver, readServer_eq_some_iff,
    List.filterMap_cons_some hc, List.filterMap_nil, readOptional_of_isTable _ hctable,
    Option.map_eq_some_iff,
    ofSource?_credentials (hkeyed.get? hc) hctable, ← hslack]
  constructor
  · rintro ⟨hread, creds, hcreds, hsome⟩
    exact ⟨hsome ▸ rfl, (forall_decode?_iff hsome.symm).mpr
      ⟨hread, (readCredentials_eq_some_iff_first hsecond).mp hcreds⟩⟩
  · rintro ⟨hsome, hread⟩
    obtain ⟨creds, hcreds⟩ := Option.isSome_iff_exists.mp hsome
    obtain ⟨hread, hslack⟩ := (forall_decode?_iff hcreds).mp hread
    exact ⟨hread, creds, (readCredentials_eq_some_iff_first hsecond).mpr hslack, hcreds.symm⟩

/-- Where every setting can be read, there are the settings that are read. -/
theorem exists_settings {o : Key → Option Value} (h : ∀ k : Key, k.decode? (o k) ≠ none) :
    ∃ s : Settings, s.credentials.isSome ∧ ∀ k : Key, k.decode? (o k) = some (setting s k) := by
  have hread : ∀ {α : Type} {read : Option α} {f : α → Setting}, read.map f ≠ none →
      ∃ x, read = some x := fun hne =>
    Option.ne_none_iff_exists'.mp fun hnone => hne (by rw [hnone]; rfl)
  obtain ⟨host, hhost⟩ := hread (h .host)
  obtain ⟨port, hport⟩ := hread (h .port)
  obtain ⟨path, hpath⟩ := hread (h .mountPath)
  obtain ⟨token, htoken⟩ := hread (h .token)
  obtain ⟨channel, hchannel⟩ := hread (h .channel)
  obtain ⟨reasons, hreasons⟩ := hread (h .reasons)
  obtain ⟨secret, hsecret⟩ := hread (h .secret)
  exact ⟨⟨⟨host, port, path⟩, some ⟨token, channel, reasons, secret⟩⟩, rfl,
    (forall_decode?_iff rfl).mpr
      ⟨⟨hhost, hport, hpath⟩, htoken, hchannel, hreasons, hsecret⟩⟩

/-! ## Loading -/

/-- A step that is a name, or an index that every list has or can grow to have. -/
def Step.Fits : Step → Prop
  | .name _ => True
  | .index i => 0 ≤ i ∧ i.toNat < longestList

instance (step : Step) : Decidable step.Fits :=
  match step with
  | .name _ => .isTrue trivial
  | .index i => inferInstanceAs (Decidable (0 ≤ i ∧ i.toNat < longestList))

theorem isSome_assign? {v target : Value} {path : List Step}
    (h : ∀ step ∈ path, step.Fits) : (assign? v target path).isSome := by
  induction target, path using assign?.induct with
  | case1 => rfl
  | case2 => rfl
  | case3 target name rest hrest =>
      rename_i ih
      rw [assign?.eq_3 _ _ _ _ hrest, Option.isSome_map]
      exact ih fun step hstep => h step (List.mem_cons_of_mem _ hstep)
  | case4 target i rest spot hspot =>
      rename_i ih
      rw [assign?, hspot, Option.isSome_map]
      exact ih fun step hstep => h step (List.mem_cons_of_mem _ hstep)
  | case5 target i rest hspot =>
      obtain ⟨hpos, hlt⟩ : (Step.index i).Fits := h _ List.mem_cons_self
      rw [place?, if_pos hpos, if_pos hlt] at hspot
      cases hspot

theorem isSome_overlay? {row : Layer}
    (h : ∀ e ∈ row, ∀ step ∈ pathOf e.1, step.Fits) (target : Value) :
    (overlay? target row).isSome := by
  induction row generalizing target with
  | nil => rfl
  | cons e rest ih =>
      obtain ⟨made, hmade⟩ : ∃ made, assign? e.2 target (pathOf e.1) = some made :=
        Option.isSome_iff_exists.mp (isSome_assign? (h e List.mem_cons_self))
      rw [overlay?_cons, hmade]
      exact ih (fun e' he' => h e' (List.mem_cons_of_mem _ he')) made

theorem plain_defaults : Plain defaults ∧ Filled defaults := by decide +kernel

/-- The blocks of settings are there, since what is built in gives some of them. -/
theorem exists_block {ls : List Layer} (hplain : ∀ layer ∈ defaults :: ls, Plain layer)
    (hfilled : ∀ layer ∈ defaults :: ls, Filled layer) {made : Value}
    (hmade : overlay? (.table []) (defaults :: ls).flatten = some made)
    {p : String × String} (hp : p ∈ [("server", "host"), ("slack", "errors_ignore_retry")]) :
    ∃ b, made.get? p.1 = some b ∧ b.IsTable := by
  have hread : p ∈ readNames := by
    revert p
    decide
  have hgiven : (value? p.1 p.2 defaults).isSome := by
    revert p
    decide +kernel
  have hhighest : (highest p.1 p.2 (defaults :: ls)).isSome := by
    rw [highest, List.reverse_cons, List.findSome?_append, List.findSome?_singleton,
      Option.isSome_or, hgiven, Bool.or_true]
  rw [← (agree_highest hplain hfilled hmade hread).isSome_eq] at hhighest
  obtain ⟨v, hv⟩ := Option.isSome_iff_exists.mp hhighest
  obtain ⟨b, hb, hv⟩ := Option.bind_eq_some_iff.mp hv
  exact ⟨b, hb, isTable_of_get? hv⟩

theorem fits_defaults : ∀ e ∈ defaults, ∀ step ∈ pathOf e.1, step.Fits := by decide +kernel

theorem mem_readNames (k : Key) : (k.block, k.name) ∈ readNames := by
  cases k <;> decide

theorem mem_readNames_of_secondNames {p : String × String} (hp : p ∈ secondNames) :
    ("slack", p.2) ∈ readNames := by
  revert p
  decide

/-- What plain layers make is read setting by setting, each from what the highest layer gives. -/
theorem ofSource?_of_plain {ls : List Layer} (hplain : ∀ layer ∈ defaults :: ls, Plain layer)
    (hfilled : ∀ layer ∈ defaults :: ls, Filled layer) {made : Value}
    (hmade : overlay? (.table []) (defaults :: ls).flatten = some made)
    {s : Settings} :
    Settings.ofSource? made = some s ↔ s.credentials.isSome ∧
      ∀ k : Key, k.decode? (highest k.block k.name (defaults :: ls)) = some (setting s k) := by
  obtain ⟨b, hb, hbtable⟩ := exists_block hplain hfilled hmade (p := ("server", "host")) (by decide)
  obtain ⟨c, hc, hctable⟩ :=
    exists_block hplain hfilled hmade (p := ("slack", "errors_ignore_retry")) (by decide)
  have hsecond : ∀ p ∈ secondNames, field? made "slack" p.2 = none := by
    intro p hp
    have hnone : highest "slack" p.2 (defaults :: ls) = none := by
      rw [highest, List.findSome?_eq_none_iff]
      intro layer hlayer
      rw [value?, (hplain layer (List.mem_reverse.mp hlayer)).first p hp]
    have hagree := agree_highest hplain hfilled hmade (mem_readNames_of_secondNames hp)
    rw [hnone] at hagree
    exact hagree.eq_none
  have hdecode : ∀ k : Key, k.decode? (field? made k.block k.name)
      = k.decode? (highest k.block k.name (defaults :: ls)) :=
    fun k => (agree_highest hplain hfilled hmade (mem_readNames k)).decode?_eq k
  rw [ofSource?_eq_some_iff (keyed_overlay? (.leaf rfl) hmade) (isTable_overlay? ⟨[], rfl⟩ hmade)
    hb hbtable hc hctable hsecond]
  simp only [hdecode]

/-- Plain layers load as settings that are read, each of them, from what the highest layer gives,
and fail to load just if this cannot be read for one of them.  No key of a layer, even one that leads to
no setting, may have an index that its list cannot have. -/
theorem load_of_plain {env : Environment} {files : Files} {shared staged own : Layer}
    (hshared : fileLayer files "config/default" = .ok shared)
    (hstaged : fileLayer files ("config/" ++ stage env) = .ok staged)
    (hown : fileLayer files "config/local" = .ok own)
    (hplain : ∀ layer ∈ [shared, staged, own, env.layer], Plain layer)
    (hfilled : ∀ layer ∈ [shared, staged, own, env.layer], Filled layer) :
    let counts (k : Key) := highest k.block k.name [defaults, shared, staged, own, env.layer]
    (load env files ≠ .error .index →
      (∀ s, load env files = .ok s ↔
        s.credentials.isSome ∧ ∀ k : Key, k.decode? (counts k) = some (setting s k)) ∧
      (load env files = .error .unfit ↔ ∃ k : Key, k.decode? (counts k) = none)) ∧
    ((∀ layer ∈ [shared, staged, own, env.layer], ∀ e ∈ layer, ∀ step ∈ pathOf e.1,
      step.Fits) → load env files ≠ .error .index) := by
  intro counts
  have hlayers : layers env files = [defaults, shared, staged, own, env.layer].map .ok := by
    rw [layers, fileNames, List.map_cons, List.map_cons, List.map_cons, hshared, hstaged, hown]
    rfl
  have hplain' : ∀ layer ∈ [defaults, shared, staged, own, env.layer], Plain layer :=
    List.forall_mem_cons.mpr ⟨plain_defaults.1, hplain⟩
  have hfilled' : ∀ layer ∈ [defaults, shared, staged, own, env.layer], Filled layer :=
    List.forall_mem_cons.mpr ⟨plain_defaults.2, hfilled⟩
  cases hmade : overlay? (.table []) [defaults, shared, staged, own, env.layer].flatten with
  | none =>
      have hload : load env files = .error .index := by
        rw [load_of_layers hlayers, hmade]
        rfl
      refine ⟨fun hne => absurd hload hne, fun hindex => ?_⟩
      have hfits : ∀ e ∈ [defaults, shared, staged, own, env.layer].flatten,
          ∀ step ∈ pathOf e.1, step.Fits := by
        intro e he
        obtain ⟨layer, hlayer, he⟩ := List.mem_flatten.mp he
        rcases List.mem_cons.mp hlayer with rfl | hlayer
        · exact fits_defaults e he
        · exact hindex layer hlayer e he
      have hsome := isSome_overlay? hfits (.table [])
      rw [hmade] at hsome
      cases hsome
  | some made =>
      have hload : load env files
          = (Settings.ofSource? made).elim (.error .unfit) .ok := by
        rw [load_of_layers hlayers, hmade]
        rfl
      have hread : ∀ s, Settings.ofSource? made = some s ↔ s.credentials.isSome ∧
          ∀ k : Key, k.decode? (counts k) = some (setting s k) := fun s =>
        ofSource?_of_plain hplain' hfilled' hmade
      have hindex : load env files ≠ .error .index := by
        rw [hload]
        cases Settings.ofSource? made <;> simp
      refine ⟨fun _ => ⟨fun s => ?_, ?_⟩, fun _ => hindex⟩
      · rw [← hread s, hload]
        cases Settings.ofSource? made <;> simp
      · rw [hload]
        cases hs : Settings.ofSource? made with
        | none =>
            refine ⟨fun _ => ?_, fun _ => rfl⟩
            by_contra hall
            obtain ⟨s, hs'⟩ := exists_settings fun k hk => hall ⟨k, hk⟩
            cases hs.symm.trans ((hread s).mpr hs')
        | some s =>
            refine ⟨by simp, ?_⟩
            rintro ⟨k, hk⟩
            cases hk.symm.trans (((hread s).mp hs).2 k)

/-- A token in a file gives way to the one in the environment. -/
theorem environment_counts :
    load [("PARLEY_SLACK__SLACK_TOKEN", "xoxb-env")]
        [tokenFile "config/local.toml" "slack_token" "xoxb-file"]
      = .ok ⟨⟨"0.0.0.0", 5005, "/webhooks/slack"⟩,
          some ⟨some "xoxb-env", none, some ["http_timeout"], none⟩⟩ := by
  have hown : fileLayer [tokenFile "config/local.toml" "slack_token" "xoxb-file"] "config/local"
      = .ok [("slack", .table [("slack_token", .text "xoxb-file")])] :=
    eq_of_soleText? (by decide +kernel)
  obtain ⟨hread, hindex⟩ := @load_of_plain [("PARLEY_SLACK__SLACK_TOKEN", "xoxb-env")] _ _ _ _
    (fileLayer_of_absent (by decide +kernel)) (fileLayer_of_absent (by decide +kernel)) hown
    (by decide +kernel) (by decide +kernel)
  refine ((hread (hindex (by decide +kernel))).1 _).mpr ⟨rfl, fun k => ?_⟩
  cases k <;> decide +kernel

/-- A file that gives an empty table for the host. -/
def emptyHost : Files := [("config/local.json", "\x7b\"server\": \x7b\"host\": \x7b\x7d\x7d\x7d")]

/-- A variable with an index that an empty list cannot have, for a name that is not read. -/
def oddIndex : Environment := [("PARLEY_X[-1]", "1")]

/-- An empty table for the host leaves the host as it is, although it cannot be read; and an index
in the name of a variable that is no setting keeps all settings from being loaded. -/
theorem plain_is_not_enough :
    (∃ own, fileLayer emptyHost "config/local" = .ok own ∧ Plain own ∧
      Key.host.decode? (highest "server" "host" [defaults, [], [], own, []]) = none ∧
      ∃ s, load [] emptyHost = .ok s ∧ s.server.host = "0.0.0.0") ∧
    Plain oddIndex.layer ∧
      (∀ k : Key,
        k.decode? (highest k.block k.name [defaults, [], [], [], oddIndex.layer]) ≠ none) ∧
      load oddIndex [] = .error .index := by
  refine ⟨?_, by decide +kernel, fun k => by cases k <;> decide +kernel, by decide +kernel⟩
  obtain ⟨own, hown, htest⟩ := exists_ok_of_any (x := fileLayer emptyHost "config/local")
    (p := fun own => decide (Plain own ∧
      Key.host.decode? (highest "server" "host" [defaults, [], [], own, []]) = none))
    (by decide +kernel)
  obtain ⟨s, hload, hhost⟩ := exists_ok_of_any (x := load [] emptyHost)
    (p := fun s => s.server.host == "0.0.0.0") (by decide +kernel)
  obtain ⟨hplain, hnone⟩ := of_decide_eq_true htest
  exact ⟨own, hown, hplain, hnone, s, hload, eq_of_beq hhost⟩

end Switchboard.Settings
