/-
# Layers as one row of keys

The layers are laid over one another from the lowest on, and each of them key by key, so all layers
together are one long row of keys with their values (`build_eq_ok_iff`).  What every single key
preserves, the whole row preserves (`overlay?_invariant`).

A setting is a field of a section.  `field?` is what stands in its place, and the lemmas about it say
what one key makes of it: nothing, unless the key leads to this field or replaces the section.
-/
import Switchboard.Proofs.Settings.Merge
import Switchboard.Settings.Load

namespace Switchboard.Settings

open Text (lowerString)

/-! ## Rows of keys -/

theorem overlay?_cons (target : Value) (e : String × Value) (rest : Layer) :
    overlay? target (e :: rest)
      = (assign? e.2 target (pathOf e.1)).bind fun made => overlay? made rest := rfl

theorem overlay?_append (target : Value) (before after : Layer) :
    overlay? target (before ++ after)
      = (overlay? target before).bind fun made => overlay? made after :=
  List.foldlM_append

/-- What each key of a row preserves, the row preserves. -/
theorem overlay?_invariant {P : Value → Prop} {layer : Layer}
    (hstep : ∀ e ∈ layer, ∀ target made, P target →
      assign? e.2 target (pathOf e.1) = some made → P made)
    {target made : Value} (h : P target) (hmade : overlay? target layer = some made) : P made := by
  induction layer generalizing target with
  | nil =>
      cases hmade
      exact h
  | cons e rest ih =>
      obtain ⟨next, hnext, hrest⟩ := Option.bind_eq_some_iff.mp hmade
      exact ih (fun e' he' => hstep e' (List.mem_cons_of_mem _ he'))
        (hstep e List.mem_cons_self target next h hnext) hrest

theorem keyed_overlay? {layer : Layer} {target made : Value} (h : Keyed target)
    (hmade : overlay? target layer = some made) : Keyed made := by
  refine overlay?_invariant (P := Keyed) (fun e _ target made h hmade => ?_) h hmade
  obtain ⟨name, rest, hfront⟩ := exists_front?_pathOf e.1
  refine keyed_assign? e.2 (fun hnil => ?_) h hmade
  rw [hnil] at hfront
  cases hfront

/-- Layers that can all be read are laid as one row. -/
theorem foldlM_lay_ok (ls : List Layer) (target : Value) :
    (ls.map Except.ok).foldlM (fun target (layer : Except LoadError Layer) =>
        layer.bind (lay target)) target
      = (match overlay? target ls.flatten with
        | some made => .ok made
        | none => .error .index) := by
  induction ls generalizing target with
  | nil => rfl
  | cons layer rest ih =>
      rw [List.map_cons, List.foldlM_cons, List.flatten_cons, overlay?_append]
      show (lay target layer).bind _ = _
      unfold lay
      cases overlay? target layer with
      | none => rfl
      | some made => exact ih made

/-- Layers are laid only if they can all be read. -/
theorem exists_of_foldlM_lay {rows : List (Except LoadError Layer)} {target made : Value}
    (h : rows.foldlM (fun target layer => layer.bind (lay target)) target = .ok made) :
    ∃ ls : List Layer, rows = ls.map .ok := by
  induction rows generalizing target with
  | nil => exact ⟨[], rfl⟩
  | cons row rest ih =>
      rw [List.foldlM_cons] at h
      cases row with
      | error e => cases h
      | ok layer =>
          cases hlay : lay target layer with
          | error e =>
              rw [Except.bind, hlay] at h
              cases h
          | ok next =>
              rw [Except.bind, hlay] at h
              obtain ⟨ls, rfl⟩ := ih h
              exact ⟨layer :: ls, rfl⟩

theorem build_of_layers {env : Environment} {files : Files} {ls : List Layer}
    (h : layers env files = ls.map .ok) :
    build env files = (match overlay? (.table []) ls.flatten with
      | some made => .ok made
      | none => .error .index) := by
  rw [build, h, foldlM_lay_ok]

theorem build_eq_ok_iff {env : Environment} {files : Files} {made : Value} :
    build env files = .ok made ↔
      ∃ ls : List Layer, layers env files = ls.map .ok ∧
        overlay? (.table []) ls.flatten = some made := by
  constructor
  · intro h
    obtain ⟨ls, hls⟩ := exists_of_foldlM_lay h
    rw [build_of_layers hls] at h
    cases hmade : overlay? (.table []) ls.flatten with
    | none =>
        rw [hmade] at h
        cases h
    | some _ =>
        rw [hmade] at h
        cases h
        exact ⟨ls, hls, hmade⟩
  · rintro ⟨ls, hls, hmade⟩
    rw [build_of_layers hls, hmade]

theorem keyed_of_build {env : Environment} {files : Files} {made : Value}
    (h : build env files = .ok made) : Keyed made := by
  obtain ⟨ls, -, hmade⟩ := build_eq_ok_iff.mp h
  exact keyed_overlay? (.leaf rfl) hmade

theorem isTable_overlay? {layer : Layer} {target made : Value} (h : target.IsTable)
    (hmade : overlay? target layer = some made) : made.IsTable := by
  refine overlay?_invariant (P := Value.IsTable) (fun e _ target made _ hmade => ?_) h hmade
  obtain ⟨name, rest, hfront⟩ := exists_front?_pathOf e.1
  rw [assign?_of_front? hfront] at hmade
  obtain ⟨w, -, rfl⟩ := Option.map_eq_some_iff.mp hmade
  exact ⟨_, rfl⟩

theorem isTable_of_build {env : Environment} {files : Files} {made : Value}
    (h : build env files = .ok made) : made.IsTable := by
  obtain ⟨ls, -, hmade⟩ := build_eq_ok_iff.mp h
  exact isTable_overlay? ⟨[], rfl⟩ hmade

/-- The environment is laid last. -/
theorem exists_overlay?_environment {env : Environment} {files : Files} {made : Value}
    (h : build env files = .ok made) : ∃ below, overlay? below env.layer = some made := by
  obtain ⟨ls, hls, hmade⟩ := build_eq_ok_iff.mp h
  obtain ⟨lower, top, rfl, -, htop⟩ := List.append_eq_map_iff.mp hls
  obtain ⟨layer, rest, rfl, hlayer, hrest⟩ := List.map_eq_cons_iff.mp htop
  obtain rfl := List.map_eq_nil_iff.mp hrest
  obtain rfl := Except.ok.inj hlayer
  rw [List.flatten_append, List.flatten_singleton, overlay?_append] at hmade
  obtain ⟨below, -, hmade⟩ := Option.bind_eq_some_iff.mp hmade
  exact ⟨below, hmade⟩

theorem load_of_layers {env : Environment} {files : Files} {ls : List Layer}
    (h : layers env files = ls.map .ok) :
    load env files = (overlay? (.table []) ls.flatten).elim (.error .index) fun made =>
      (Settings.ofSource? made).elim (.error .unfit) .ok := by
  unfold load
  rw [build_of_layers h]
  cases overlay? (.table []) ls.flatten with
  | none => rfl
  | some made =>
      dsimp only [Option.elim]
      cases Settings.ofSource? made <;> rfl

theorem load_eq_ok_iff {env : Environment} {files : Files} {s : Settings} :
    load env files = .ok s ↔
      ∃ made, build env files = .ok made ∧ Settings.ofSource? made = some s := by
  unfold load
  cases build env files with
  | error e => simp
  | ok made => cases hs : Settings.ofSource? made <;> simp [hs]

/-- A result that passes a test is one. -/
theorem exists_ok_of_any {ε α : Type} {x : Except ε α} {p : α → Bool}
    (h : x.toOption.any p = true) : ∃ a, x = .ok a ∧ p a = true := by
  cases x with
  | error e => cases h
  | ok a => exact ⟨a, rfl, h⟩

/-! ## Fields -/

/-- What stands in the place of a field of a block. -/
def field? (target : Value) (block name : String) : Option Value :=
  (target.get? block).bind fun t => t.get? name

section Field

variable {v target made : Value} {path rest : List Step} {block name other : String}

/-- What stands under a name depends on what stands in the block, and in an absent block stands
nothing. -/
theorem field?_eq_getD (default : Value) (h : default.entries = []) :
    field? target block name = ((target.get? block).getD default).get? name := by
  unfold field?
  cases target.get? block with
  | none =>
      rw [Option.getD_none, Value.get?, h]
      rfl
  | some t => rfl

/-- A key that leads to another block changes no field of this one. -/
theorem get?_assign?_of_ne (hfront : front? path = some (other, rest)) (hother : block ≠ other)
    (hmade : assign? v target path = some made) : made.get? block = target.get? block := by
  rw [assign?_of_front? hfront] at hmade
  obtain ⟨w, -, rfl⟩ := Option.map_eq_some_iff.mp hmade
  exact Value.get?_set_of_ne hother w

/-- What a key makes of the block to which it leads. -/
theorem get?_assign?_self (hfront : front? path = some (block, rest))
    (hmade : assign? v target path = some made) :
    ∃ w, reach? v (target.get? block) rest = some w ∧ made.get? block = some w := by
  rw [assign?_of_front? hfront] at hmade
  obtain ⟨w, hw, rfl⟩ := Option.map_eq_some_iff.mp hmade
  exact ⟨w, hw, Value.get?_set_self target block w⟩

/-- What a key makes of a block, if it leads to a field of it. -/
theorem reach?_of_front? (hfront : front? path = some (name, rest)) (v : Value)
    (here : Option Value) :
    reach? v here path
      = (reach? v ((here.getD .nothing).get? name) rest).map ((here.getD .nothing).set name) := by
  rw [← assign?_of_front? hfront]
  cases path with
  | nil => cases hfront
  | cons step path => rfl

/-- A key that leads to another field leaves this one as it is. -/
theorem field?_assign?_of_ne {inner : List Step} (hfront : front? path = some (block, inner))
    (hinner : front? inner = some (other, rest)) (hother : name ≠ other)
    (hmade : assign? v target path = some made) :
    field? made block name = field? target block name := by
  obtain ⟨w, hw, hblock⟩ := get?_assign?_self hfront hmade
  rw [reach?_of_front? hinner] at hw
  obtain ⟨u, -, rfl⟩ := Option.map_eq_some_iff.mp hw
  rw [field?, hblock, Option.bind_some, Value.get?_set_of_ne hother,
    ← field?_eq_getD .nothing rfl]

/-- What a key makes of the field to which it leads. -/
theorem field?_assign?_self {inner : List Step} (hfront : front? path = some (block, inner))
    (hinner : front? inner = some (name, rest)) (hmade : assign? v target path = some made) :
    ∃ w, reach? v (field? target block name) rest = some w ∧ field? made block name = some w := by
  obtain ⟨w, hw, hblock⟩ := get?_assign?_self hfront hmade
  rw [reach?_of_front? hinner, ← field?_eq_getD .nothing rfl] at hw
  obtain ⟨u, hu, rfl⟩ := Option.map_eq_some_iff.mp hw
  exact ⟨u, hu, by rw [field?, hblock, Option.bind_some, Value.get?_set_self]⟩

/-- What a key makes of a field, if it gives a table for the block. -/
theorem field?_assign?_table {entries : List (String × Value)}
    (hfront : front? path = some (block, []))
    (hmade : assign? (.table entries) target path = some made) :
    field? made block name
      = (mergeEntries ((target.get? block).getD (.table [])) entries).get? name := by
  obtain ⟨w, hw, hblock⟩ := get?_assign?_self hfront hmade
  cases hw
  rw [field?, hblock, Option.bind_some, merged]

end Field

end Switchboard.Settings
