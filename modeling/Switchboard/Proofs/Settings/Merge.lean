/-
# What is where after merging

Layers are laid over one another key by key.  What stands under a name afterwards depends on what
stood under this name before, and on the keys that lead there: the lemmas of this module say so for
the four ways in which a value is put somewhere.  Beside them goes an invariant, `Keyed`: tables that
have come about by merging hold each key once, so a record finds in them what `Value.get?` finds.
-/
import Mathlib.Data.List.Nodup
import Switchboard.Settings.Path

namespace Switchboard.Settings

open Text (lowerString)

namespace Value

/-- What stands under a name.  Under a name of anything but a table stands nothing. -/
def get? (v : Value) (name : String) : Option Value := lookup name v.entries

/-- The table with another value under a name. -/
def set (v : Value) (name : String) (w : Value) : Value := .table (put name w v.entries)

theorem get?_set_self (v : Value) (name : String) (w : Value) :
    (v.set name w).get? name = some w :=
  lookup_put_self name w v.entries

theorem get?_set_of_ne {v : Value} {name other : String} (h : other ≠ name) (w : Value) :
    (v.set name w).get? other = v.get? other :=
  lookup_put_of_ne h w v.entries

end Value

/-! ## Names and entries -/

/-- A value merged into what stands in its place. -/
def merged (here : Option Value) : Value → Value
  | .table entries => mergeEntries (here.getD (.table [])) entries
  | v => v

theorem mergeAt_eq (target : Value) (name : String) (v : Value) :
    mergeAt target name v
      = target.set (lowerString name) (merged (target.get? (lowerString name)) v) := by
  cases v <;> simp only [mergeAt, merged, Value.set, Value.get?]

theorem get?_mergeAt_self (target : Value) (name : String) (v : Value) :
    (mergeAt target name v).get? (lowerString name)
      = some (merged (target.get? (lowerString name)) v) := by
  rw [mergeAt_eq, Value.get?_set_self]

theorem get?_mergeAt_of_ne {name other : String} (h : other ≠ lowerString name)
    (target v : Value) : (mergeAt target name v).get? other = target.get? other := by
  rw [mergeAt_eq, Value.get?_set_of_ne h]

theorem mergeEntries_append (target : Value) (before after : List (String × Value)) :
    mergeEntries target (before ++ after) = mergeEntries (mergeEntries target before) after := by
  induction before generalizing target with
  | nil => rw [mergeEntries, List.nil_append]
  | cons e rest ih => rw [List.cons_append, mergeEntries, mergeEntries, ih]

/-- Whether a value is a table. -/
def Value.IsTable (v : Value) : Prop := ∃ entries, v = .table entries

theorem isTable_mergeEntries {target : Value} (h : target.IsTable)
    (entries : List (String × Value)) : (mergeEntries target entries).IsTable := by
  induction entries generalizing target with
  | nil =>
      rw [mergeEntries]
      exact h
  | cons e rest ih =>
      rw [mergeEntries, mergeAt_eq]
      exact ih ⟨_, rfl⟩

/-! ## Paths -/

/-- The name under which a path starts, in the letters in which it is kept, and the steps behind
it. -/
def front? : List Step → Option (String × List Step)
  | [.name name] => some (lowerString name, [])
  | .name name :: rest => some (name, rest)
  | _ => none

/-- What is put under the first name of a path, if the steps behind the name can be gone. -/
def reach? (v : Value) (here : Option Value) : List Step → Option Value
  | [] => some (merged here v)
  | step :: rest => assign? v (here.getD .nothing) (step :: rest)

/-- A path changes nothing but what stands under its first name. -/
theorem assign?_of_front? {path rest : List Step} {name : String}
    (h : front? path = some (name, rest)) (v target : Value) :
    assign? v target path = (reach? v (target.get? name) rest).map (target.set name) := by
  match path, h with
  | [.name _], rfl =>
      rw [assign?, mergeAt_eq]
      rfl
  | .name _ :: _ :: _, rfl =>
      rfl

/-- The steps that have been read stay in front. -/
theorem exists_of_stepsFrom {done : List Step} {s : List Char} :
    ∀ {path : List Step}, stepsFrom done s = some path → ∃ rest, path = done.reverse ++ rest := by
  fun_induction stepsFrom done s with
  | case1 done =>
      intro path h
      cases h
      exact ⟨[], by simp⟩
  | case3 =>
      rename_i name _ ih
      intro path h
      obtain ⟨more, rfl⟩ := ih h
      exact ⟨.name (String.ofList name) :: more, by simp⟩
  | case4 done rest i head after hafter hi hc ih =>
      intro path h
      obtain ⟨more, rfl⟩ := ih h
      exact ⟨.index i :: more, by simp⟩
  | case2 | case5 | case6 => simp

theorem exists_of_path? {key : String} {path : List Step} (h : path? key = some path) :
    ∃ name rest, path = .name name :: rest := by
  obtain ⟨-, h⟩ := Option.ite_none_left_eq_some.mp h
  obtain ⟨rest, rfl⟩ := exists_of_stepsFrom h
  exact ⟨_, rest, rfl⟩

theorem exists_front?_name (name : String) (rest : List Step) :
    ∃ name' rest', front? (.name name :: rest) = some (name', rest') := by
  cases rest with
  | nil => exact ⟨_, _, rfl⟩
  | cons step rest => exact ⟨_, _, rfl⟩

/-- The path of a key starts with a name. -/
theorem exists_front?_pathOf (key : String) :
    ∃ name rest, front? (pathOf key) = some (name, rest) := by
  unfold pathOf
  cases hpath : path? (lowerString key) with
  | none => exact exists_front?_name key []
  | some path =>
      obtain ⟨name, rest, rfl⟩ := exists_of_path? hpath
      exact exists_front?_name name rest

/-! ## Keys of tables -/

/-- A value in which every table, at any depth of tables, holds each key once. -/
inductive Keyed : Value → Prop where
  | leaf {v : Value} (h : v.entries = []) : Keyed v
  | table {entries : List (String × Value)} (nodup : (entries.map Prod.fst).Nodup)
      (inner : ∀ e ∈ entries, Keyed e.2) : Keyed (.table entries)

theorem mem_of_lookup {α : Type} {name : String} {entries : List (String × α)} {v : α}
    (h : lookup name entries = some v) : (name, v) ∈ entries := by
  induction entries with
  | nil => cases h
  | cons e rest ih =>
      rw [lookup] at h
      split at h
      · rename_i hk
        cases h
        exact hk ▸ List.mem_cons_self
      · exact List.mem_cons_of_mem _ (ih h)

theorem mem_put {α : Type} {name : String} {v : α} {entries : List (String × α)}
    {e : String × α} (h : e ∈ put name v entries) : e = (name, v) ∨ e ∈ entries := by
  induction entries with
  | nil => exact .inl (List.mem_singleton.mp h)
  | cons e' rest ih =>
      rw [put] at h
      split at h
      · rcases List.mem_cons.mp h with h | h
        · exact .inl h
        · exact .inr (List.mem_cons_of_mem _ h)
      · rcases List.mem_cons.mp h with rfl | h
        · exact .inr List.mem_cons_self
        · exact (ih h).imp_right (List.mem_cons_of_mem _)

theorem nodup_put {α : Type} {entries : List (String × α)}
    (h : (entries.map Prod.fst).Nodup) (name : String) (v : α) :
    ((put name v entries).map Prod.fst).Nodup := by
  induction entries with
  | nil => exact List.nodup_singleton _
  | cons e rest ih =>
      obtain ⟨hout, hrest⟩ := List.nodup_cons.mp h
      rw [put]
      split
      · rename_i hk
        exact List.nodup_cons.mpr ⟨hk ▸ hout, hrest⟩
      · rename_i hk
        refine List.nodup_cons.mpr ⟨fun hmem => ?_, ih hrest⟩
        obtain ⟨e', he', hkey⟩ := List.mem_map.mp hmem
        rcases mem_put he' with rfl | he'
        · exact hk hkey.symm
        · exact hout (List.mem_map.mpr ⟨e', he', hkey⟩)

namespace Keyed

variable {v w : Value} {name : String}

theorem nodup (h : Keyed v) : (v.entries.map Prod.fst).Nodup := by
  cases h with
  | leaf h =>
      rw [h]
      exact List.nodup_nil
  | table nodup _ => exact nodup

theorem of_mem (h : Keyed v) {e : String × Value} (he : e ∈ v.entries) : Keyed e.2 := by
  cases h with
  | leaf h =>
      rw [h] at he
      cases he
  | table _ inner => exact inner e he

theorem get? (h : Keyed v) (hw : v.get? name = some w) : Keyed w :=
  h.of_mem (mem_of_lookup hw)

theorem getD (h : Keyed v) {default : Value} (hdefault : default.entries = []) :
    Keyed ((v.get? name).getD default) := by
  cases hw : v.get? name with
  | none => exact .leaf hdefault
  | some w => exact h.get? hw

theorem set (h : Keyed v) (hw : Keyed w) : Keyed (v.set name w) := by
  refine .table (nodup_put h.nodup name w) fun e he => ?_
  rcases mem_put he with rfl | he
  · exact hw
  · exact h.of_mem he

end Keyed

mutual

theorem keyed_mergeAt (target : Value) (name : String) (h : Keyed target) :
    ∀ v : Value, Keyed (mergeAt target name v)
  | .table entries => by
      rw [mergeAt]
      exact h.set (keyed_mergeEntries _ (h.getD rfl) entries)
  | .nothing | .bool _ | .whole _ | .real _ | .text _ | .moment _ | .list _ => by
      rw [mergeAt_eq]
      exact h.set (.leaf rfl)

theorem keyed_mergeEntries (target : Value) (h : Keyed target) :
    ∀ entries : List (String × Value), Keyed (mergeEntries target entries)
  | [] => by
      rw [mergeEntries]
      exact h
  | (name, v) :: rest => by
      rw [mergeEntries]
      exact keyed_mergeEntries _ (keyed_mergeAt target name h v) rest

end

theorem keyed_assign? (v : Value) {target made : Value} {path : List Step} (hpath : path ≠ [])
    (h : Keyed target) (hmade : assign? v target path = some made) : Keyed made := by
  induction target, path using assign?.induct generalizing made with
  | case1 => exact absurd rfl hpath
  | case2 target name =>
      cases hmade
      exact keyed_mergeAt target name h v
  | case3 target name rest hrest =>
      rename_i ih
      rw [assign?.eq_3 _ _ _ _ hrest] at hmade
      obtain ⟨w, hw, rfl⟩ := Option.map_eq_some_iff.mp hmade
      exact h.set (ih hrest (h.getD rfl) hw)
  | case4 target i rest spot hspot =>
      rw [assign?, hspot] at hmade
      obtain ⟨w, -, rfl⟩ := Option.map_eq_some_iff.mp hmade
      exact .leaf rfl
  | case5 target i rest hspot =>
      rw [assign?, hspot] at hmade
      cases hmade

end Switchboard.Settings
