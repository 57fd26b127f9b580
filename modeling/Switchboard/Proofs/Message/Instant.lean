/-
# Moments of a clock

Which moment a clock shows, and when the calendar has a date for it.
-/
import Switchboard.Message.Instant

namespace Switchboard.Instant

theorem ofClock?_eq_some_iff {now : Int} {moment : Nat} :
    ofClock? now = some moment ↔ now = moment := by
  cases now with
  | ofNat n => simp only [ofClock?, Option.some.injEq, Int.ofNat_eq_natCast, Int.ofNat_inj]
  | negSucc n => simp [ofClock?]

theorem ofClock?_eq_none_iff {now : Int} : ofClock? now = none ↔ now < 0 := by
  cases now with
  | ofNat n => simp [ofClock?]
  | negSucc n => simp [ofClock?, Int.negSucc_lt_zero]

theorem dated?_eq_some_iff {now : Int} {moment : Nat} :
    dated? now = some moment ↔ now = moment ∧ moment ≤ lastMoment := by
  simp only [dated?, Option.filter_eq_some_iff, ofClock?_eq_some_iff, decide_eq_true_eq]

theorem dated?_isSome_iff {now : Int} : (dated? now).isSome ↔ 0 ≤ now ∧ now ≤ lastMoment := by
  constructor
  · intro h
    obtain ⟨moment, hm⟩ := Option.isSome_iff_exists.mp h
    obtain ⟨rfl, hle⟩ := dated?_eq_some_iff.mp hm
    exact ⟨Int.natCast_nonneg moment, Int.ofNat_le.mpr hle⟩
  · rintro ⟨hnonneg, hle⟩
    obtain ⟨moment, rfl⟩ := Int.eq_ofNat_of_zero_le hnonneg
    exact Option.isSome_iff_exists.mpr
      ⟨moment, dated?_eq_some_iff.mpr ⟨rfl, Int.ofNat_le.mp hle⟩⟩

end Switchboard.Instant
