import AlertDelivery.Time.Instant

/-!
# Laws of instants

A number of microseconds is that of an instant if it lies within the calendar,
so a shift is missing only if it would leave the calendar.
-/

namespace AlertDelivery.Instant

variable {t u : Instant} {n d : Int}

theorem ofMicros?_eq_some : ofMicros? n = some u ↔ (u.micros : Int) = n := by
  unfold ofMicros?
  split
  · rename_i h
    rw [Option.some.injEq]
    constructor
    · rintro rfl
      exact Int.toNat_of_nonneg h.1
    · intro hu
      rcases u with ⟨micros, hin⟩
      simp only [Instant.mk.injEq]
      simp only at hu
      omega
  · rename_i h
    have := u.inRange
    simp only [reduceCtorEq, false_iff]
    omega

theorem ofMicros?_eq_none : ofMicros? n = none ↔ n < 0 ∨ (limit : Int) ≤ n := by
  unfold ofMicros?
  split
  · rename_i h
    simp only [reduceCtorEq, false_iff]
    omega
  · rename_i h
    simp only [true_iff]
    omega

theorem shift?_eq_some : t.shift? d = some u ↔ (u.micros : Int) = t.micros + d :=
  ofMicros?_eq_some

theorem shift?_eq_none :
    t.shift? d = none ↔ (t.micros : Int) + d < 0 ∨ (limit : Int) ≤ t.micros + d :=
  ofMicros?_eq_none

end AlertDelivery.Instant
