/-
# Setting values

The values that layers of settings are made of, whatever they were read from.  A table keeps one
entry for each key, in the order in which the keys came up.
-/

namespace Switchboard.Settings

/-- A value of a setting; `nothing` stands for a value that is given as absent, and a moment is a
date or time by its text. -/
inductive Value where
  | nothing
  | bool (b : Bool)
  | whole (n : Int)
  | real (x : Float)
  | text (s : String)
  | moment (s : String)
  | list (items : List Value)
  | table (entries : List (String × Value))

instance : Inhabited Value := ⟨.nothing⟩

/-- The value under a key. -/
def lookup {κ α : Type} [DecidableEq κ] (key : κ) : List (κ × α) → Option α
  | [] => none
  | (k, v) :: rest => if k = key then some v else lookup key rest

/-- The entries with a value under a key: in the place of the one before, or at the end. -/
def put {κ α : Type} [DecidableEq κ] (key : κ) (v : α) : List (κ × α) → List (κ × α)
  | [] => [(key, v)]
  | (k, w) :: rest => if k = key then (key, v) :: rest else (k, w) :: put key v rest

theorem lookup_put_self {κ α : Type} [DecidableEq κ] (key : κ) (v : α) (entries : List (κ × α)) :
    lookup key (put key v entries) = some v := by
  induction entries with
  | nil => simp [put, lookup]
  | cons e rest ih => unfold put; split <;> simp_all [lookup]

theorem lookup_put_of_ne {κ α : Type} [DecidableEq κ] {key other : κ} (h : other ≠ key) (v : α)
    (entries : List (κ × α)) : lookup other (put key v entries) = lookup other entries := by
  induction entries with
  | nil => simp [put, lookup, h.symm]
  | cons e rest ih =>
    unfold put
    split
    · rename_i hk; subst hk; simp [lookup, h.symm]
    · simp [lookup, ih]

/-- The entries of a table; any other value has none. -/
def Value.entries : Value → List (String × Value)
  | .table entries => entries
  | _ => []

/-- The items of a list; any other value has none. -/
def Value.items : Value → List Value
  | .list items => items
  | _ => []

end Switchboard.Settings
