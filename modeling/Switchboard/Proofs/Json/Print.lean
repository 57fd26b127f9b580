/-
# Printed values

Every value is printed as something: there is no value whose printed form is empty.
-/
import Switchboard.Json.Printer

namespace Switchboard.Json

open Switchboard.Number

theorem plain_ne_nil_of_neg {d : Decimal} (h : ¬ 0 ≤ d.exponent) : d.plain ≠ [] := by
  simp only [Decimal.plain, if_neg h]
  split
  · exact List.cons_ne_nil _ _
  · exact List.append_ne_nil_of_right_ne_nil _ (List.cons_ne_nil _ _)

theorem doubleDigits_ne_nil (d : Decimal) : doubleDigits d ≠ [] := by
  simp only [doubleDigits]
  split
  · split
    · exact List.append_ne_nil_of_right_ne_nil _ (List.cons_ne_nil _ _)
    · next h => exact plain_ne_nil_of_neg h
  · exact List.append_ne_nil_of_left_ne_nil
      (List.append_ne_nil_of_right_ne_nil _ (List.cons_ne_nil _ _)) _

theorem double_ne_nil (x : Float) : Json.double x ≠ [] := by
  simp only [Json.double]
  split
  · exact List.append_ne_nil_of_right_ne_nil _ (List.cons_ne_nil _ _)
  · exact List.append_ne_nil_of_right_ne_nil _ (doubleDigits_ne_nil _)
  · exact List.cons_ne_nil _ _

theorem whole_ne_nil (n : Int) : (toString n).toList ≠ [] := by
  cases n with
  | ofNat n =>
      show (Nat.repr n).toList ≠ []
      rw [Nat.toList_repr]
      exact Nat.toDigits_ne_nil
  | negSucc n =>
      show ("-" ++ Nat.repr (n + 1)).toList ≠ []
      rw [String.toList_append]
      exact List.cons_ne_nil _ _

theorem number_ne_nil : ∀ n : Json.Number, n.chars ≠ []
  | .whole n => whole_ne_nil n
  | .double x => double_ne_nil x

/-- What has been written is never taken back, and a value adds to it. -/
theorem writeOnto_ne_nil (out : List Char) (v : Json) : writeOnto out v ≠ [] := by
  cases v with
  | null => exact List.cons_ne_nil _ _
  | bool b => cases b <;> exact List.cons_ne_nil _ _
  | number n =>
      exact List.append_ne_nil_of_left_ne_nil (List.reverse_ne_nil_iff.mpr (number_ne_nil n)) _
  | text s =>
      exact List.append_ne_nil_of_left_ne_nil
        (List.reverse_ne_nil_iff.mpr (List.cons_ne_nil _ _)) _
  | array items => cases items <;> exact List.cons_ne_nil _ _
  | object members => cases members <;> exact List.cons_ne_nil _ _

theorem print_ne_empty (v : Json) : v.print ≠ "" := by
  intro h
  have hchars : v.chars = [] := by
    simpa [print] using congrArg String.toList h
  exact writeOnto_ne_nil [] v (List.reverse_eq_nil_iff.mp hchars)

end Switchboard.Json
