import AlertDelivery.Backoff
import AlertDelivery.Proofs.InstantLaws
import Mathlib.Algebra.Group.Nat.Defs
import Mathlib.Data.Int.Order.Basic
import Mathlib.Data.Nat.Basic
import Mathlib.Order.MinMax

/-!
# Delays before the next attempt

The delay of a strategy is the value of its formula, cut at an hour. The
doubling stops early, at an exponent whose power has passed the hour already,
so stopping it changes no delay. The next attempt is due after exactly the
delay, and has no date only if that is past the last year.
-/

namespace AlertDelivery.Backoff

variable {b : Backoff} {n k : Int} {m ceiling : Nat} {now due : Instant}

theorem read_name (b : Backoff) : read (.text b.name) = .ok b := by
  cases b <;> rfl

-- ---------------------------------------------------------------------------
-- The formula
-- ---------------------------------------------------------------------------

/-- The delay in minutes after a number of retries if nothing bounded it. -/
def growth : Backoff → Nat → Nat
  | .linear, m => linearStep * m
  | .exponential, m => 2 ^ m

theorem growth_monotone (b : Backoff) : Monotone b.growth := by
  intro m m' h
  cases b with
  | linear => exact Nat.mul_le_mul_left linearStep h
  | exponential => exact Nat.pow_le_pow_right Nat.two_pos h

theorem growth_pos (b : Backoff) (h : 0 < m) : 0 < b.growth m := by
  cases b with
  | linear => exact Nat.mul_pos (by decide) h
  | exponential => exact Nat.two_pow_pos m

/-- Growth that stops where it has passed the maximum is cut to the same
delay as growth that goes on. -/
theorem min_growth_stopped (h : maxMinutes ≤ b.growth ceiling) (m : Nat) :
    min (b.growth (min m ceiling)) maxMinutes = min (b.growth m) maxMinutes :=
  calc min (b.growth (min m ceiling)) maxMinutes
      = min (min (b.growth m) (b.growth ceiling)) maxMinutes := by rw [b.growth_monotone.map_min]
    _ = min (b.growth m) (min (b.growth ceiling) maxMinutes) := min_assoc ..
    _ = min (b.growth m) maxMinutes := by rw [min_eq_right h]

theorem maxMinutes_le_growth_ceiling : maxMinutes ≤ exponential.growth exponentCeiling := by
  decide

-- ---------------------------------------------------------------------------
-- The delay
-- ---------------------------------------------------------------------------

theorem minutes_eq (b : Backoff) (n : Int) :
    b.minutes n = min (b.growth n.toNat) maxMinutes := by
  cases b with
  | linear => rw [growth, Nat.mul_comm, minutes]
  | exponential => exact min_growth_stopped maxMinutes_le_growth_ceiling n.toNat

theorem minutes_le (b : Backoff) (n : Int) : b.minutes n ≤ maxMinutes := by
  rw [minutes_eq]
  exact min_le_right _ _

theorem minutes_mono (b : Backoff) (h : n ≤ k) : b.minutes n ≤ b.minutes k := by
  rw [minutes_eq, minutes_eq]
  exact min_le_min_right maxMinutes (b.growth_monotone (Int.toNat_le_toNat h))

theorem minutes_pos (b : Backoff) (h : 0 < n) : 0 < b.minutes n := by
  have hretries : 0 < n.toNat := by omega
  rw [minutes_eq]
  exact lt_min (b.growth_pos hretries) (by decide)

-- ---------------------------------------------------------------------------
-- The next attempt
-- ---------------------------------------------------------------------------

theorem nextRetry?_eq_some : b.nextRetry? n now = some due ↔
    (due.micros : Int) = now.micros + b.minutes n * Instant.microsPerMinute :=
  Instant.shift?_eq_some

theorem nextRetry?_eq_none : b.nextRetry? n now = none ↔
    (Instant.limit : Int) ≤ now.micros + b.minutes n * Instant.microsPerMinute := by
  rw [Backoff.nextRetry?, Instant.shift?_eq_none]
  simp only [Instant.microsPerMinute]
  omega

/-- Whatever the number of retries, the delay is the formula of its strategy,
cut at sixty minutes; a negative number counts as none. It never falls as the
retries grow, and is a minute at least once there is one. The next attempt is
due that many minutes later whenever there is such an instant. -/
theorem delays_exact (n : Int) :
    read (.text "exponential") = .ok exponential ∧ read (.text "linear") = .ok linear ∧
    exponential.minutes n = min (2 ^ (max 0 n).toNat) 60 ∧
    linear.minutes n = min (5 * (max 0 n).toNat) 60 ∧
    ∀ b : Backoff, b.minutes n ≤ 60 ∧
      (∀ k, n ≤ k → b.minutes n ≤ b.minutes k) ∧
      (1 ≤ n → 1 ≤ b.minutes n) ∧
      ∀ now,
        (∀ due, b.nextRetry? n now = some due ↔
          (due.micros : Int) - now.micros = b.minutes n * Instant.microsPerMinute) ∧
        (b.nextRetry? n now = none ↔
          (Instant.limit : Int) ≤ now.micros + b.minutes n * Instant.microsPerMinute) := by
  have hretries : (max 0 n).toNat = n.toNat := by omega
  rw [hretries]
  refine ⟨read_name exponential, read_name linear, minutes_eq exponential n, minutes_eq linear n,
    fun b => ⟨b.minutes_le n, fun k => b.minutes_mono, b.minutes_pos,
      fun now => ⟨fun due => ?_, nextRetry?_eq_none⟩⟩⟩
  rw [nextRetry?_eq_some]
  omega

/-- The fifth retry is the last whose doubling is not cut, and the sixth the
first that is due after a whole hour. -/
theorem delays_exact_handover : (1 : Int) ≤ 5 ∧ (5 : Int) ≤ 6 ∧
    1 ≤ exponential.minutes 5 ∧ exponential.minutes 5 ≤ exponential.minutes 6 ∧
    exponential.minutes 5 = 32 ∧ exponential.minutes 6 = 60 ∧
    exponential.nextRetry? 6 .clockStart = some ⟨63907966800000000, by decide⟩ := by
  have hone : (1 : Int) ≤ 5 := by decide
  have hnext : (5 : Int) ≤ 6 := by decide
  obtain ⟨-, -, hfive, -, hlaws⟩ := delays_exact 5
  obtain ⟨-, -, hsix, -, hlaws'⟩ := delays_exact 6
  obtain ⟨-, hmono, hpos, -⟩ := hlaws exponential
  obtain ⟨hdue, -⟩ := (hlaws' exponential).2.2.2 .clockStart
  exact ⟨hone, hnext, hpos hone, hmono 6 hnext, hfive.trans (by decide), hsix.trans (by decide),
    (hdue _).mpr (by decide)⟩

end AlertDelivery.Backoff
