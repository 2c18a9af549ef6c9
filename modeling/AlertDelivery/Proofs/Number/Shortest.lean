import AlertDelivery.Number.Decimal
import AlertDelivery.Proofs.Number.Rounding
import Mathlib.Data.List.DropRight
import Mathlib.Tactic.FieldSimp

/-!
# The fewest digits that read back

The search for the digits of a number ends with a decimal that lies among the
reals that round to the number, so that the decimal is read as that number
again. Seventeen places after the first always suffice.
-/

namespace AlertDelivery.Binary64

-- ---------------------------------------------------------------------------
-- The reals that round to a number
-- ---------------------------------------------------------------------------

theorem tenPow_eq (e : ℤ) : tenPow e = (10 : ℚ) ^ e := by
  unfold tenPow power
  split
  next h =>
    obtain ⟨n, rfl⟩ := Int.eq_ofNat_of_zero_le h
    simp
  next h =>
    obtain ⟨n, hn⟩ := Int.eq_ofNat_of_zero_le (show 0 ≤ -e by omega)
    obtain rfl : e = -n := by omega
    simp [Rat.mkRat_eq_div]

/-- An integer is the nearest one if it is at most a half away, and even if
it is exactly a half away. -/
theorem roundHalfEven_eq {x : ℚ} {m : ℤ} (hnear : |x - m| ≤ 1 / 2)
    (htie : |x - m| = 1 / 2 → m % 2 = 0) : roundHalfEven x = m := by
  have hhalf : mkRat 1 2 = (1 / 2 : ℚ) := by norm_num [Rat.mkRat_eq_div]
  obtain ⟨hlow, hhigh⟩ := abs_le.mp hnear
  rcases le_or_gt (m : ℚ) x with hle | hlt
  · have hfloor : x.floor = m := Int.floor_eq_iff.mpr ⟨hle, by linarith⟩
    simp only [roundHalfEven, hfloor, hhalf]
    split_ifs with hless hmore heven
    · rfl
    · linarith
    · rfl
    · have hhalf' : |x - m| = 1 / 2 := by rw [abs_of_nonneg] <;> linarith
      exact absurd (htie hhalf') heven
  · have hfloor : x.floor = m - 1 :=
      (Int.floor_eq_iff (a := x)).mpr ⟨by push_cast; linarith, by push_cast; linarith⟩
    simp only [roundHalfEven, hfloor, hhalf]
    push_cast
    split_ifs with hless hmore heven
    · linarith
    · ring
    · have hhalf' : |x - m| = 1 / 2 := by rw [abs_of_neg] <;> linarith
      have := htie hhalf'
      omega
    · ring

theorem roundHalfEven_near (x : ℚ) : |x - roundHalfEven x| ≤ 1 / 2 := by
  have hhalf : mkRat 1 2 = (1 / 2 : ℚ) := by norm_num [Rat.mkRat_eq_div]
  have hfloor : (x.floor : ℚ) ≤ x := Rat.floor_le x
  have hnext : x < x.floor + 1 := by exact_mod_cast Rat.lt_floor_add_one x
  unfold roundHalfEven
  dsimp only
  rw [hhalf, abs_le]
  split_ifs <;> push_cast <;> constructor <;> linarith

theorem lastPlace_eq {q : ℚ} {e : ℤ} (hq : 0 < q) (he : -1074 ≤ e)
    (hlow : e = -1074 ∨ (2 : ℚ) ^ (e + 52) ≤ q) (hhigh : q < (2 : ℚ) ^ (e + 53)) :
    lastPlace q = e := by
  have hle := lastPlace_le hq hhigh he
  rcases hlow with rfl | hlow
  · have := lastPlace_ge q
    omega
  · have := two_zpow_lt_iff.mp (hlow.trans_lt (lastPlace_spec hq).2)
    omega

/-- A held rational in units of its last place: an integer of at most 53
bits, and of exactly 53 above the least grid. -/
theorem IsHeld.mantissa {q : ℚ} (hq : 0 < q) (h : IsHeld q) :
    ∃ m : ℤ, q = m * 2 ^ lastPlace q ∧ 0 < m ∧ m < 2 ^ 53 ∧
      (lastPlace q = -1074 ∨ 2 ^ 52 ≤ m) := by
  have hunit : (0 : ℚ) < 2 ^ lastPlace q := by positivity
  obtain ⟨hlow, hhigh⟩ := lastPlace_spec hq
  obtain ⟨m, hm⟩ : ∃ m : ℤ, q = m * 2 ^ lastPlace q := ⟨_, (roundedSize_of_held hq h).symm⟩
  rw [zpow_add₀ two_ne_zero] at hlow hhigh
  generalize (2 : ℚ) ^ lastPlace q = unit at hm hunit hlow hhigh
  subst hm
  refine ⟨m, rfl, ?_, ?_, hlow.imp_right fun hlow => ?_⟩
  · exact_mod_cast pos_of_mul_pos_left hq hunit.le
  · have : (m : ℚ) < 2 ^ (53 : ℤ) := by
      rw [mul_comm unit] at hhigh
      exact lt_of_mul_lt_mul_right hhigh hunit.le
    exact_mod_cast this
  · have : (2 : ℚ) ^ (52 : ℤ) ≤ m := by
      rw [mul_comm unit] at hlow
      exact le_of_mul_le_mul_right hlow hunit
    exact_mod_cast this

theorem nearest_of_place {v q : ℚ} {m e : ℤ} (hv : 0 < v) (he : -1074 ≤ e)
    (hlow : e = -1074 ∨ (2 : ℚ) ^ (e + 52) ≤ v) (hhigh : v < (2 : ℚ) ^ (e + 53))
    (hnear : |v / 2 ^ e - m| ≤ 1 / 2) (htie : |v / 2 ^ e - m| = 1 / 2 → m % 2 = 0)
    (hq : q = m * 2 ^ e) (hbounded : q < 2 ^ (1024 : ℤ)) : nearest v = .finite q := by
  have hsize : roundedSize v = q := by
    rw [roundedSize, lastPlace_eq hv he hlow hhigh, roundHalfEven_eq hnear htie, hq]
  rw [nearest_of_pos hv, hsize, if_neg (not_le.mpr hbounded)]

end AlertDelivery.Binary64

namespace AlertDelivery.Decimal

open Binary64 (IsHeld lastPlace nearest twoPow_eq lastPlace_ge nearest_of_place)

theorem inside_iff {low high x : ℚ} {closed : Bool} :
    inside (low, high, closed) x = true ↔
      low ≤ x ∧ x ≤ high ∧ (closed = false → low ≠ x ∧ x ≠ high) := by
  cases closed with
  | true => simp [inside]
  | false =>
    simp only [inside, Bool.false_eq_true, if_false, Bool.and_eq_true, decide_eq_true_eq,
      true_implies]
    constructor
    · exact fun ⟨hlow, hhigh⟩ => ⟨hlow.le, hhigh.le, hlow.ne, hhigh.ne⟩
    · exact fun ⟨hlow, hhigh, hne, hne'⟩ => ⟨lt_of_le_of_ne hlow hne, lt_of_le_of_ne hhigh hne'⟩

theorem interval_eq {m : ℤ} {q unit : ℚ} (hunit : unit = 2 ^ lastPlace q) (hq : q = m * unit) :
    interval q = ((m - if m = 2 ^ 52 ∧ -1074 < lastPlace q then 1 / 4 else 1 / 2) * unit,
      (m + 1 / 2) * unit, m % 2 == 0) := by
  have hpos : (0 : ℚ) < unit := by rw [hunit]; positivity
  have hfloor : (q / unit).floor = m := by
    rw [hq, mul_div_cancel_right₀ _ hpos.ne', Rat.floor_intCast]
  have hhalf : mkRat 1 2 = (1 / 2 : ℚ) := by norm_num [Rat.mkRat_eq_div]
  have hquarter : mkRat 1 4 = (1 / 4 : ℚ) := by norm_num [Rat.mkRat_eq_div]
  have hleast : leastMantissa = 2 ^ 52 := by norm_num [leastMantissa]
  simp only [interval, twoPow_eq, ← hunit, hfloor, hhalf, hquarter, hleast]
  rw [sub_mul, add_mul, ← hq]

theorem nearest_of_inside {q v : ℚ} (hq : 0 < q) (h : IsHeld q)
    (hin : inside (interval q) v = true) : nearest v = .finite q := by
  obtain ⟨m, hm, hmpos, hmlt, hleast⟩ := h.mantissa hq
  have hplace := lastPlace_ge q
  have hbounded : q < 2 ^ (1024 : ℤ) := (le_abs_self q).trans_lt h.bounded
  rw [interval_eq rfl hm, inside_iff] at hin
  have hunit : (0 : ℚ) < 2 ^ lastPlace q := by positivity
  generalize lastPlace q = e at hm hleast hplace hin hunit
  obtain ⟨x, rfl⟩ : ∃ x, v = x * 2 ^ e := ⟨v / 2 ^ e, (div_mul_cancel₀ v hunit.ne').symm⟩
  simp only [mul_le_mul_iff_left₀ hunit, ne_eq, mul_eq_mul_right_iff, hunit.ne', or_false] at hin
  obtain ⟨hlow, hhigh, hopen⟩ := hin
  have hone : (1 : ℚ) ≤ m := by exact_mod_cast hmpos
  have hmlt' : (m : ℚ) + 1 ≤ 2 ^ 53 := by exact_mod_cast hmlt
  have hbelow : (m : ℚ) - 1 / 2 ≤ x := by
    refine le_trans ?_ hlow
    split_ifs <;> linarith
  have hxpos : 0 < x * 2 ^ e := mul_pos (by linarith) hunit
  have hgrid (k : ℤ) : (2 : ℚ) ^ (e + k) = 2 ^ k * 2 ^ e := by
    rw [zpow_add₀ two_ne_zero, mul_comm]
  by_cases hsame : e = -1074 ∨ (2 : ℚ) ^ 52 ≤ x
  · refine nearest_of_place hxpos hplace ?_ ?_ ?_ ?_ hm hbounded
    · exact hsame.imp_right fun hx => by
        rw [hgrid]
        exact mul_le_mul_of_nonneg_right (by exact_mod_cast hx) hunit.le
    · rw [hgrid]
      exact mul_lt_mul_of_pos_right (by norm_num at hmlt' ⊢; linarith) hunit
    · rw [mul_div_cancel_right₀ _ hunit.ne', abs_le]
      constructor <;> linarith
    · rw [mul_div_cancel_right₀ _ hunit.ne']
      intro htie
      by_contra hodd
      obtain ⟨hlow', hhigh'⟩ := hopen (beq_eq_false_iff_ne.mpr hodd)
      have hother : ¬ (m = 2 ^ 52 ∧ -1074 < e) := by
        rintro ⟨rfl, -⟩
        exact hodd (by norm_num)
      rw [if_neg hother] at hlow'
      rcases eq_or_eq_neg_of_abs_eq htie with htie | htie
      · exact hhigh' (by linarith)
      · exact hlow' (by linarith)
  · -- below the least mantissa the format has one place more
    obtain ⟨hfine, hx⟩ := not_or.mp hsame
    have hm52 : m = 2 ^ 52 := by
      have hge := hleast.resolve_left hfine
      have hle : (m : ℚ) < 2 ^ 52 + 1 := by linarith
      have hle' : m < 2 ^ 52 + 1 := by exact_mod_cast hle
      omega
    have he : -1074 < e := lt_of_le_of_ne hplace (Ne.symm hfine)
    rw [if_pos ⟨hm52, he⟩, hm52] at hlow
    push_cast at hlow
    have htwice : x * 2 ^ e / 2 ^ (e - 1) = 2 * x := by
      rw [zpow_sub_one₀ two_ne_zero]
      field_simp
    have hrest : |2 * x - ((2 ^ 53 : ℤ) : ℚ)| ≤ 1 / 2 := by
      push_cast
      rw [abs_le]
      constructor <;> linarith
    refine nearest_of_place (m := 2 ^ 53) (e := e - 1) hxpos (by omega) (.inr ?_) ?_
      (by rwa [htwice]) (fun _ => by norm_num) ?_ hbounded
    · rw [show e - 1 + 52 = e + 51 by ring, hgrid]
      exact mul_le_mul_of_nonneg_right (by norm_num at hlow ⊢; linarith) hunit.le
    · rw [show e - 1 + 53 = e + 52 by ring, hgrid]
      exact mul_lt_mul_of_pos_right (by norm_num at hx ⊢; linarith) hunit
    · rw [hm, hm52, zpow_sub_one₀ two_ne_zero]
      push_cast
      ring

-- ---------------------------------------------------------------------------
-- The first digit
-- ---------------------------------------------------------------------------

theorem lt_pow_length (n : ℕ) : n < 10 ^ length n := by
  induction n using length.induct with
  | case1 => positivity
  | case2 n hn ih =>
    rw [length, dif_neg hn, pow_succ]
    omega

theorem pow_length_le {n : ℕ} (hn : n ≠ 0) : 10 ^ (length n - 1) ≤ n := by
  induction n using length.induct with
  | case1 => exact absurd rfl hn
  | case2 n _ ih =>
    rw [length, dif_neg hn, Nat.add_sub_cancel]
    by_cases hten : n / 10 = 0
    · rw [hten, length, dif_pos rfl]
      exact Nat.one_le_iff_ne_zero.mpr hn
    · have hpos : length (n / 10) = length (n / 10) - 1 + 1 := by
        rw [length, dif_neg hten, Nat.add_sub_cancel]
      have hle := ih hten
      rw [hpos, pow_succ]
      omega

theorem leading_le {q : ℚ} (hq : 0 < q) : (10 : ℚ) ^ leading q ≤ q := by
  unfold leading
  split_ifs with hone
  · have hfloor : 1 ≤ q.floor := Rat.le_floor_iff.mpr (by exact_mod_cast hone)
    obtain ⟨n, hn⟩ := Int.eq_ofNat_of_zero_le (show 0 ≤ q.floor by omega)
    have hne : n ≠ 0 := by omega
    have hlength : length n ≠ 0 := by
      rw [length, dif_neg hne]
      omega
    rw [hn, Int.toNat_natCast, show (length n : ℤ) - 1 = (length n - 1 : ℕ) by omega, zpow_natCast]
    calc (10 : ℚ) ^ (length n - 1) ≤ n := by exact_mod_cast pow_length_le hne
      _ = q.floor := by rw [hn, Int.cast_natCast]
      _ ≤ q := Rat.floor_le q
  · have hceil : 1 / q ≤ (1 / q).ceil := Rat.le_ceil
    have hpow : (1 / q).ceil ≤ (10 ^ length ((1 / q).ceil.toNat - 1) : ℕ) := by
      have hlt := lt_pow_length ((1 / q).ceil.toNat - 1)
      omega
    rw [zpow_neg, zpow_natCast, inv_le_comm₀ (by positivity) hq, ← one_div]
    exact hceil.trans (by exact_mod_cast hpow)

-- ---------------------------------------------------------------------------
-- The search
-- ---------------------------------------------------------------------------

theorem inside_of_onGrid {q : ℚ} {range : ℚ × ℚ × Bool} {scale : ℤ} {n : ℕ}
    (hpos : ∀ x, inside range x = true → 0 < x) (h : onGrid q range scale = some n) :
    0 < n ∧ inside range (n * 10 ^ scale) = true := by
  have hstep : (0 : ℚ) < 10 ^ scale := by positivity
  have hcast {i : ℤ} (hin : inside range (i * 10 ^ scale) = true) :
      0 < i.toNat ∧ inside range (i.toNat * 10 ^ scale) = true := by
    have hi : 0 < i := by exact_mod_cast pos_of_mul_pos_left (hpos _ hin) hstep.le
    obtain ⟨k, rfl⟩ := Int.eq_ofNat_of_zero_le hi.le
    exact ⟨by omega, by simpa using hin⟩
  simp only [onGrid, Binary64.tenPow_eq] at h
  split_ifs at h with hnear hlow hother hother <;> cases h
  · exact hcast hnear
  · exact hcast hother
  · exact hcast hother

/-- Seventeen places after the first digit, every number has a decimal in its
interval. -/
theorem inside_of_last {q : ℚ} (hq : 0 < q) (h : IsHeld q) :
    inside (interval q) ((Binary64.roundHalfEven (q / 10 ^ (leading q - 17)) : ℚ) *
      10 ^ (leading q - 17)) = true := by
  obtain ⟨m, hm, hmpos, hmlt, -⟩ := h.mantissa hq
  have hunit : (0 : ℚ) < 2 ^ lastPlace q := by positivity
  have hstep : (0 : ℚ) < 10 ^ (leading q - 17) := by positivity
  have hfine : (10 : ℚ) ^ (leading q - 17) * 10 ^ 17 ≤ q := by
    calc (10 : ℚ) ^ (leading q - 17) * 10 ^ 17 = 10 ^ leading q := by
          rw [zpow_sub₀ (by norm_num)]
          field_simp
      _ ≤ q := leading_le hq
  have hnear := Binary64.roundHalfEven_near (q / 10 ^ (leading q - 17))
  rw [interval_eq rfl hm, inside_iff]
  have hmlt' : (m : ℚ) < 2 ^ 53 := by exact_mod_cast hmlt
  generalize (10 : ℚ) ^ (leading q - 17) = step at hnear hstep hfine ⊢
  generalize (2 : ℚ) ^ lastPlace q = unit at hm hunit ⊢
  have hnear' : |q - Binary64.roundHalfEven (q / step) * step| ≤ 1 / 2 * step := by
    calc |q - Binary64.roundHalfEven (q / step) * step|
        = |q / step - Binary64.roundHalfEven (q / step)| * step := by
          rw [← abs_of_pos hstep, ← abs_mul, abs_of_pos hstep, sub_mul,
            div_mul_cancel₀ _ hstep.ne']
      _ ≤ 1 / 2 * step := mul_le_mul_of_nonneg_right hnear hstep.le
  have hquarter : 1 / 2 * step < 1 / 4 * unit := by
    have hqlt : q < 2 ^ 53 * unit := by
      rw [hm]
      exact mul_lt_mul_of_pos_right hmlt' hunit
    norm_num at hqlt hfine
    linarith
  obtain ⟨hlow, hhigh⟩ := abs_le.mp hnear'
  generalize (Binary64.roundHalfEven (q / step) : ℚ) * step = v at hlow hhigh ⊢
  have hbelow : (m - if m = 2 ^ 52 ∧ -1074 < lastPlace q then 1 / 4 else 1 / 2) * unit < v := by
    split_ifs <;> linarith
  have habove : v < (m + 1 / 2) * unit := by linarith
  exact ⟨hbelow.le, habove.le, fun _ => ⟨hbelow.ne, habove.ne⟩⟩

theorem pos_of_inside {q v : ℚ} (hq : 0 < q) (h : IsHeld q)
    (hin : inside (interval q) v = true) : 0 < v := by
  obtain ⟨m, hm, hmpos, -, -⟩ := h.mantissa hq
  have hunit : (0 : ℚ) < 2 ^ lastPlace q := by positivity
  have hone : (1 : ℚ) ≤ m := by exact_mod_cast hmpos
  rw [interval_eq rfl hm, inside_iff] at hin
  refine lt_of_lt_of_le (mul_pos ?_ hunit) hin.1
  split_ifs <;> linarith

theorem search_found {q : ℚ} (hq : 0 < q) (h : IsHeld q) (fuel count : ℕ)
    (hsum : fuel + count = 17) :
    ∃ n scale, search q (interval q) (leading q) fuel count = Digits.ofScaled n scale ∧ 0 < n ∧
      inside (interval q) (n * 10 ^ scale) = true := by
  induction fuel generalizing count with
  | zero =>
    obtain rfl : count = 17 := by omega
    have hin := inside_of_last hq h
    have hi : 0 < Binary64.roundHalfEven (q / 10 ^ (leading q - 17)) := by
      exact_mod_cast pos_of_mul_pos_left (pos_of_inside hq h hin) (by positivity)
    obtain ⟨n, hn⟩ := Int.eq_ofNat_of_zero_le hi.le
    refine ⟨n, leading q - 17, ?_, by omega, by simpa [hn] using hin⟩
    rw [search, Binary64.tenPow_eq]
    push_cast
    rw [hn, Int.toNat_natCast]
  | succ fuel ih =>
    rw [search]
    split
    next n hn =>
      exact ⟨n, leading q - count, rfl, inside_of_onGrid (fun _ => pos_of_inside hq h) hn⟩
    next => exact ih (count + 1) (by omega)

/-- The fewest digits are those of a decimal that rounds to the number. -/
theorem shortest_found {q : ℚ} (hq : 0 < q) (h : IsHeld q) :
    ∃ n scale, shortest q = Digits.ofScaled n scale ∧ 0 < n ∧
      nearest (n * 10 ^ scale) = .finite q := by
  obtain ⟨n, scale, hfound, hn, hin⟩ := search_found hq h 17 0 rfl
  exact ⟨n, scale, hfound, hn, nearest_of_inside hq h hin⟩

end AlertDelivery.Decimal
