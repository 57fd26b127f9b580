/-
# Settings as they stand in tables

A record finds a field under any of its names, and fails to be read where it finds two.  In a table
that holds each key once (`Keyed`), what it finds is told by what stands under the names:
`slots?_eq`.
-/
import Mathlib.Data.List.Perm.Basic
import Switchboard.Proofs.Settings.Merge
import Switchboard.Settings.Schema

namespace Switchboard.Settings

open Record

/-- The slot of a field whose names stand for these values. -/
def slotOf? {α : Type} : List α → Option (Slot α)
  | [] => some .unnamed
  | [v] => some (.given v)
  | _ => none

theorem slotOf?_of_perm {α : Type} {l l' : List α} (h : l.Perm l') : slotOf? l = slotOf? l' := by
  match l, l', h.length_eq with
  | [], [], _ => rfl
  | [v], [w], _ => rw [List.singleton_perm_singleton.mp h]
  | _ :: _ :: _, _ :: _ :: _, _ => rfl

theorem namedSlot?_eq_slotOf? {α : Type} (members : List (String × α)) (names : Names) :
    namedSlot? members names
      = slotOf? ((members.filter fun m => names.contains m.1).map Prod.snd) := by
  unfold namedSlot?
  cases members.filter fun m => names.contains m.1 with
  | nil => rfl
  | cons m rest =>
      cases rest with
      | nil => rfl
      | cons m' rest => rfl

theorem lookup_cons_of_ne {α : Type} {name key : String} (h : key ≠ name) (v : α)
    (rest : List (String × α)) : lookup name ((key, v) :: rest) = lookup name rest := by
  rw [lookup, if_neg h]

theorem lookup_eq_none {α : Type} {name : String} {entries : List (String × α)}
    (h : name ∉ entries.map Prod.fst) : lookup name entries = none := by
  induction entries with
  | nil => rfl
  | cons e rest ih =>
      obtain ⟨key, v⟩ := e
      have hkey : key ≠ name := by
        rintro rfl
        exact h List.mem_cons_self
      rw [lookup_cons_of_ne hkey, ih fun hmem => h (List.mem_cons_of_mem _ hmem)]

/-- Where every key is there once, the members that have one of some names are what stands under the
names. -/
theorem filter_perm_filterMap {α : Type} {names : Names} (hnames : names.Nodup) :
    ∀ {members : List (String × α)}, (members.map Prod.fst).Nodup →
      ((members.filter fun m => names.contains m.1).map Prod.snd).Perm
        (names.filterMap fun name => lookup name members) := by
  intro members
  induction members with
  | nil =>
      intro _
      have hnone : (names.filterMap fun name => lookup (α := α) name []) = [] :=
        List.filterMap_eq_nil_iff.mpr fun _ _ => rfl
      rw [hnone]
      exact .nil
  | cons m rest ih =>
      intro hmembers
      obtain ⟨key, v⟩ := m
      obtain ⟨hout, hrest⟩ := List.nodup_cons.mp hmembers
      have hothers : ∀ l : Names, key ∉ l →
          l.filterMap (fun name => lookup name ((key, v) :: rest))
            = l.filterMap fun name => lookup name rest := by
        intro l hl
        refine List.filterMap_congr fun name hname => lookup_cons_of_ne ?_ v rest
        rintro rfl
        exact hl hname
      by_cases hkey : key ∈ names
      · -- The key stands at one place among the names, and nothing stands under it in the rest.
        have hperm := ih hrest
        obtain ⟨before, after, rfl⟩ := List.append_of_mem hkey
        have hnotMem := (List.nodup_cons.mp (List.nodup_middle.mp hnames)).1
        obtain ⟨hbefore, hafter⟩ := not_or.mp fun h => hnotMem (List.mem_append.mpr h)
        rw [List.filterMap_append, List.filterMap_cons, lookup_eq_none hout] at hperm
        rw [List.filter_cons, if_pos (List.contains_iff_mem.mpr hkey), List.map_cons,
          List.filterMap_append, List.filterMap_cons, hothers before hbefore, hothers after hafter,
          lookup, if_pos rfl]
        exact (hperm.cons v).trans List.perm_middle.symm
      · rw [List.filter_cons, if_neg fun h => hkey (List.contains_iff_mem.mp h), hothers names hkey]
        exact ih hrest

/-- The slots of fields in a table that holds each key once. -/
theorem slots?_table {fields : List Names} (hfields : ∀ names ∈ fields, names.Nodup)
    {entries : List (String × Value)} (h : Keyed (.table entries)) :
    slots? fields (Value.table entries)
      = fields.mapM fun names => slotOf? (names.filterMap (Value.table entries).get?) := by
  have hslot : ∀ names ∈ fields, namedSlot? entries names
      = slotOf? (names.filterMap (Value.table entries).get?) := by
    intro names hnames
    rw [namedSlot?_eq_slotOf?]
    exact slotOf?_of_perm (filter_perm_filterMap (hfields names hnames) h.nodup)
  show fields.mapM (namedSlot? entries) = _
  clear hfields
  induction fields with
  | nil => rfl
  | cons names rest ih =>
      rw [List.mapM_cons, List.mapM_cons, hslot names List.mem_cons_self,
        ih fun names' hmem => hslot names' (List.mem_cons_of_mem _ hmem)]

/-! ## Blocks -/

/-- The slot of a field with one name, by what stands under it. -/
def slotAt : Option Value → Slot Value
  | some v => .given v
  | none => .unnamed

theorem slotOf?_one (given : String → Option Value) (name : String) :
    slotOf? ([name].filterMap given) = some (slotAt (given name)) := by
  rw [List.filterMap_cons]
  cases given name <;> rfl

theorem required_slotAt {β : Type} (read : Value → Option β) (o : Option Value) :
    (slotAt o).required read = o.bind read := by
  cases o <;> rfl

/-- A setting that may be left out, of what stands under its names. -/
def readOptional {β : Type} (read : Value → Option β) (given : List Value) : Option (Option β) :=
  (slotOf? given).bind (Slot.omissible read)

/-- The settings of the server, of what stands under their names. -/
def readServer (given : String → Option Value) : Option ServerSettings := do
  some ⟨← (given "host").bind Value.text?, ← (given "port").bind ServerSettings.port?,
    ← (given "mount_path").elim (some ServerSettings.defaultMountPath) Value.text?⟩

/-- The credentials, of what stands under their names. -/
def readCredentials (given : String → Option Value) : Option Credentials := do
  some ⟨← readOptional Value.text? (["slack_token", "token"].filterMap given),
    ← readOptional Value.text? (["slack_channel", "channel"].filterMap given),
    ← readOptional (listOf? Value.text?)
      (["errors_ignore_retry", "errors_to_ignore_on_retry"].filterMap given),
    ← readOptional Value.text? (["signing_secret"].filterMap given)⟩

theorem ofSource?_server {t : Value} (h : Keyed t) (ht : t.IsTable) :
    ServerSettings.ofSource? t = readServer t.get? := by
  obtain ⟨entries, rfl⟩ := ht
  unfold ServerSettings.ofSource? readServer
  rw [slots?_table (by decide) h]
  simp only [List.mapM_cons, List.mapM_nil, slotOf?_one, Option.pure_def, Option.bind_eq_bind,
    Option.bind_some, required_slotAt]
  cases (Value.table entries).get? "mount_path" <;> rfl

theorem ofSource?_credentials {t : Value} (h : Keyed t) (ht : t.IsTable) :
    Credentials.ofSource? t = readCredentials t.get? := by
  obtain ⟨entries, rfl⟩ := ht
  unfold Credentials.ofSource? readCredentials Credentials.names readOptional
  rw [slots?_table (by decide) h]
  simp only [List.mapM_cons, List.mapM_nil, Option.pure_def, Option.bind_eq_bind]
  -- A field with two names in the table leaves no slots at all, and no credentials either.
  cases slotOf? (["slack_token", "token"].filterMap (Value.table entries).get?) <;>
    cases slotOf? (["slack_channel", "channel"].filterMap (Value.table entries).get?) <;>
    cases slotOf? (["errors_ignore_retry", "errors_to_ignore_on_retry"].filterMap
      (Value.table entries).get?) <;>
    cases slotOf? (["signing_secret"].filterMap (Value.table entries).get?) <;>
    simp only [Option.bind_some, Option.bind_none, Option.bind_fun_none]
  rfl

/-! ## All settings -/

/-- The settings are read block by block; the credentials may be null or absent. -/
def readSettings (given : String → Option Value) : Option Settings := do
  some ⟨← (given "server").bind ServerSettings.ofSource?,
    ← readOptional Credentials.ofSource? (["slack"].filterMap given)⟩

theorem ofSource?_settings {t : Value} (h : Keyed t) (ht : t.IsTable) :
    Settings.ofSource? t = readSettings t.get? := by
  obtain ⟨entries, rfl⟩ := ht
  unfold Settings.ofSource? readSettings readOptional
  rw [slots?_table (by decide) h]
  simp only [List.mapM_cons, List.mapM_nil, slotOf?_one, Option.pure_def, Option.bind_eq_bind,
    Option.bind_some, required_slotAt]

/-- The settings, each of which is a field of one of two blocks. -/
inductive Key where
  | host
  | port
  | mountPath
  | token
  | channel
  | reasons
  | secret
  deriving DecidableEq, Repr

namespace Key

/-- The block that holds a setting. -/
def block : Key → String
  | host | port | mountPath => "server"
  | token | channel | reasons | secret => "slack"

/-- The name of a setting in its block; another name may stand for it as well. -/
def name : Key → String
  | host => "host"
  | port => "port"
  | mountPath => "mount_path"
  | token => "slack_token"
  | channel => "slack_channel"
  | reasons => "errors_ignore_retry"
  | secret => "signing_secret"

/-- The settings that are texts. -/
def texts : List Key := [token, channel, secret, host, mountPath]

end Key

/-- The text of a setting that is one, if it is there. -/
def textOf? (s : Settings) : Key → Option String
  | .host => some s.server.host
  | .mountPath => some s.server.mountPath
  | .token => s.credentials.bind Credentials.token
  | .channel => s.credentials.bind Credentials.channel
  | .secret => s.credentials.bind Credentials.secret
  | .port | .reasons => none

/-- A value that stands alone among those under the names of an optional setting, and is not null, is
what the setting is read from. -/
theorem readOptional_of_mem {β : Type} {read : Value → Option β} {given : List Value} {v : Value}
    (hv : v ∈ given) (hnull : v ≠ .nothing) {o : Option β}
    (h : readOptional read given = some o) : ∃ x, read v = some x ∧ o = some x := by
  match given, hv with
  | [w], hv =>
      obtain rfl := List.mem_singleton.mp hv
      have hread : (if Source.isNull v then some none else (read v).map some) = some o := h
      rw [if_neg (by cases v <;> simp_all [Source.isNull])] at hread
      obtain ⟨x, hx, rfl⟩ := Option.map_eq_some_iff.mp hread
      exact ⟨x, hx, rfl⟩
  | _ :: _ :: _, _ => cases h

theorem readServer_eq_some_iff {given : String → Option Value} {server : ServerSettings} :
    readServer given = some server ↔
      (given "host").bind Value.text? = some server.host ∧
      (given "port").bind ServerSettings.port? = some server.port ∧
      (given "mount_path").elim (some ServerSettings.defaultMountPath) Value.text?
        = some server.mountPath := by
  simp only [readServer, Option.bind_eq_bind, Option.bind_eq_some_iff, Option.some.injEq]
  constructor
  · rintro ⟨host, hhost, port, hport, path, hpath, rfl⟩
    exact ⟨hhost, hport, hpath⟩
  · rintro ⟨hhost, hport, hpath⟩
    exact ⟨_, hhost, _, hport, _, hpath, rfl⟩

theorem readCredentials_eq_some_iff {given : String → Option Value} {c : Credentials} :
    readCredentials given = some c ↔
      readOptional Value.text? (["slack_token", "token"].filterMap given) = some c.token ∧
      readOptional Value.text? (["slack_channel", "channel"].filterMap given) = some c.channel ∧
      readOptional (listOf? Value.text?)
        (["errors_ignore_retry", "errors_to_ignore_on_retry"].filterMap given)
          = some c.ignoredReasons ∧
      readOptional Value.text? (["signing_secret"].filterMap given) = some c.secret := by
  simp only [readCredentials, Option.bind_eq_bind, Option.bind_eq_some_iff, Option.some.injEq]
  constructor
  · rintro ⟨token, htoken, channel, hchannel, reasons, hreasons, secret, hsecret, rfl⟩
    exact ⟨htoken, hchannel, hreasons, hsecret⟩
  · rintro ⟨htoken, hchannel, hreasons, hsecret⟩
    exact ⟨_, htoken, _, hchannel, _, hreasons, _, hsecret, rfl⟩

theorem readSettings_eq_some_iff {given : String → Option Value} {s : Settings} :
    readSettings given = some s ↔
      (given "server").bind ServerSettings.ofSource? = some s.server ∧
      readOptional Credentials.ofSource? (["slack"].filterMap given) = some s.credentials := by
  simp only [readSettings, Option.bind_eq_bind, Option.bind_eq_some_iff, Option.some.injEq]
  constructor
  · rintro ⟨server, hserver, credentials, hcredentials, rfl⟩
    exact ⟨hserver, hcredentials⟩
  · rintro ⟨hserver, hcredentials⟩
    exact ⟨_, hserver, _, hcredentials, rfl⟩

/-- Only a table holds anything under a name. -/
theorem isTable_of_get? {v w : Value} {name : String} (h : v.get? name = some w) : v.IsTable := by
  cases v with
  | table entries => exact ⟨entries, rfl⟩
  | _ => cases h

theorem ne_nothing_of_isTable {v : Value} (h : v.IsTable) : v ≠ .nothing := by
  obtain ⟨entries, rfl⟩ := h
  exact Value.noConfusion

/-- A table is no null. -/
theorem readOptional_of_isTable {β : Type} (read : Value → Option β) {v : Value}
    (h : v.IsTable) : readOptional read [v] = (read v).map some := by
  obtain ⟨entries, rfl⟩ := h
  rfl

/-- What stands in the place of a text among settings that can be read is read as this text. -/
theorem text_of_field? {t v : Value} {s : Settings} {k : Key} (hk : k ∈ Key.texts)
    (h : Keyed t) (ht : t.IsTable) (hs : Settings.ofSource? t = some s)
    (hv : (t.get? k.block).bind (fun b => b.get? k.name) = some v) (hnull : v ≠ .nothing) :
    ∃ text, v.text? = some text ∧ textOf? s k = some text := by
  obtain ⟨b, hb, hv⟩ := Option.bind_eq_some_iff.mp hv
  have hkeyed : Keyed b := h.get? hb
  have htable : b.IsTable := isTable_of_get? hv
  rw [ofSource?_settings h ht] at hs
  obtain ⟨hserver, hslack⟩ := readSettings_eq_some_iff.mp hs
  have hcredentials : k.block = "slack" →
      ∃ c, readCredentials b.get? = some c ∧ s.credentials = some c := by
    intro hblock
    rw [hblock] at hb
    obtain ⟨c, hc, hcredentials⟩ := readOptional_of_mem
      (List.mem_filterMap.mpr ⟨_, List.mem_cons_self, hb⟩) (ne_nothing_of_isTable htable) hslack
    rw [ofSource?_credentials hkeyed htable] at hc
    exact ⟨c, hc, hcredentials⟩
  have hread : k.block = "server" → readServer b.get? = some s.server := by
    intro hblock
    rw [hblock] at hb
    rw [hb, Option.bind_some, ofSource?_server hkeyed htable] at hserver
    exact hserver
  have hoptional : ∀ {names : List String} {o : Option String},
      readOptional Value.text? ((k.name :: names).filterMap b.get?) = some o →
      ∃ text, v.text? = some text ∧ o = some text := fun ho =>
    readOptional_of_mem (List.mem_filterMap.mpr ⟨_, List.mem_cons_self, hv⟩) hnull ho
  simp only [Key.texts, List.mem_cons, List.not_mem_nil, or_false] at hk
  rcases hk with rfl | rfl | rfl | rfl | rfl
  · obtain ⟨c, hc, hcredentials⟩ := hcredentials rfl
    obtain ⟨text, htext, hset⟩ := hoptional (readCredentials_eq_some_iff.mp hc).1
    exact ⟨text, htext, by rw [textOf?, hcredentials, Option.bind_some, hset]⟩
  · obtain ⟨c, hc, hcredentials⟩ := hcredentials rfl
    obtain ⟨text, htext, hset⟩ := hoptional (readCredentials_eq_some_iff.mp hc).2.1
    exact ⟨text, htext, by rw [textOf?, hcredentials, Option.bind_some, hset]⟩
  · obtain ⟨c, hc, hcredentials⟩ := hcredentials rfl
    obtain ⟨text, htext, hset⟩ := hoptional (readCredentials_eq_some_iff.mp hc).2.2.2
    exact ⟨text, htext, by rw [textOf?, hcredentials, Option.bind_some, hset]⟩
  · have htext := (readServer_eq_some_iff.mp (hread rfl)).1
    rw [show b.get? "host" = some v from hv] at htext
    exact ⟨_, htext, rfl⟩
  · have htext := (readServer_eq_some_iff.mp (hread rfl)).2.2
    rw [show b.get? "mount_path" = some v from hv] at htext
    exact ⟨_, htext, rfl⟩

end Switchboard.Settings
