import AlertDelivery.Number.Numeral
import Mathlib.Algebra.Order.Field.Power
import Mathlib.Data.Nat.Log
import Mathlib.Data.Rat.Floor
import Mathlib.Tactic.Linarith
import Mathlib.Tactic.Positivity
import Mathlib.Tactic.Ring

/-!
# Rounding to the format

`IsHeld` tells which rationals the format holds. Rounding gives such a
rational, and gives one back as it is; so a number that was rounded once is
not changed by being rounded again.
-/

namespace AlertDelivery.Binary64

/-- The format holds a rational: an integer of at most 53 bits on a grid no
finer than the least one, and below the overflow. -/
structure IsHeld (q : ℚ) : Prop where
  onGrid : ∃ m e : ℤ, q = m * 2 ^ e ∧ |m| < 2 ^ 53 ∧ -1074 ≤ e
  bounded : |q| < 2 ^ (1024 : ℤ)

def IsProper : Binary64 → Prop
  | .finite q => IsHeld q
  | _ => True

theorem IsHeld.zero : IsHeld 0 := ⟨⟨0, 0, by norm_num⟩, by rw [abs_zero]; positivity⟩

theorem IsHeld.one : IsHeld 1 :=
  ⟨⟨1, 0, by norm_num⟩, by rw [abs_one]; exact one_lt_zpow₀ one_lt_two (by norm_num)⟩

theorem IsHeld.neg {q : ℚ} (h : IsHeld q) : IsHeld (-q) := by
  obtain ⟨m, e, rfl, hm, he⟩ := h.onGrid
  exact ⟨⟨-m, e, by push_cast; ring, by rwa [abs_neg], he⟩, by rw [abs_neg]; exact h.bounded⟩

theorem twoPow_eq (e : ℤ) : twoPow e = (2 : ℚ) ^ e := by
  unfold twoPow power
  split
  next h =>
    obtain ⟨n, rfl⟩ := Int.eq_ofNat_of_zero_le h
    simp
  next h =>
    obtain ⟨n, hn⟩ := Int.eq_ofNat_of_zero_le (show 0 ≤ -e by omega)
    obtain rfl : e = -n := by omega
    simp [Rat.mkRat_eq_div]

-- ---------------------------------------------------------------------------
-- The nearest integer
-- ---------------------------------------------------------------------------

theorem roundHalfEven_cases (q : ℚ) :
    (roundHalfEven q = q.floor) ∨ (roundHalfEven q = q.floor + 1 ∧ (q.floor : ℚ) ≠ q) := by
  have hhalf : mkRat 1 2 = (1 / 2 : ℚ) := by norm_num [Rat.mkRat_eq_div]
  by_cases hint : (q.floor : ℚ) = q
  · refine .inl ?_
    have hrest : q - q.floor = 0 := by rw [hint, sub_self]
    simp only [roundHalfEven, hrest, hhalf]
    norm_num
  · unfold roundHalfEven
    dsimp only
    split_ifs
    · exact .inl rfl
    · exact .inr ⟨rfl, hint⟩
    · exact .inl rfl
    · exact .inr ⟨rfl, hint⟩

theorem roundHalfEven_intCast (n : ℤ) : roundHalfEven n = n := by
  rcases roundHalfEven_cases n with h | ⟨-, h⟩
  · rw [h, Rat.floor_intCast]
  · exact absurd (by rw [Rat.floor_intCast]) h

theorem roundHalfEven_nonneg {q : ℚ} (h : 0 ≤ q) : 0 ≤ roundHalfEven q := by
  have hf : 0 ≤ q.floor := Rat.le_floor_iff.mpr (by exact_mod_cast h)
  rcases roundHalfEven_cases q with h | ⟨h, -⟩ <;> omega

theorem roundHalfEven_le {q : ℚ} {n : ℤ} (h : q < n) : roundHalfEven q ≤ n := by
  have hf : q.floor < n := by
    have hle : (q.floor : ℚ) ≤ q := Rat.floor_le q
    exact_mod_cast lt_of_le_of_lt hle h
  rcases roundHalfEven_cases q with h | ⟨h, -⟩ <;> omega

-- ---------------------------------------------------------------------------
-- The last place
-- ---------------------------------------------------------------------------

theorem two_zpow_lt_iff {a b : ℤ} : (2 : ℚ) ^ a < 2 ^ b ↔ a < b :=
  zpow_lt_zpow_iff_right₀ one_lt_two

theorem log2_quotient_bounds {q : ℚ} (hq : 0 < q) :
    (2 : ℚ) ^ ((Nat.log2 q.num.natAbs : ℤ) - Nat.log2 q.den - 1) ≤ q ∧
      q < (2 : ℚ) ^ ((Nat.log2 q.num.natAbs : ℤ) - Nat.log2 q.den + 1) := by
  have hn : q.num.natAbs ≠ 0 := Int.natAbs_ne_zero.mpr (Rat.num_pos.mpr hq).ne'
  have hval : q = (q.num.natAbs : ℚ) / q.den := by
    have habs : ((q.num.natAbs : ℤ) : ℚ) = q.num := by
      rw [Int.natAbs_of_nonneg (Rat.num_pos.mpr hq).le]
    rw [← Int.cast_natCast, habs, Rat.num_div_den]
  have hlow : (2 : ℚ) ^ (Nat.log2 q.num.natAbs) ≤ q.num.natAbs := by
    exact_mod_cast Nat.log2_self_le hn
  have hhigh : (q.num.natAbs : ℚ) < 2 ^ (Nat.log2 q.num.natAbs + 1) := by
    exact_mod_cast Nat.lt_log2_self
  have hdlow : (2 : ℚ) ^ (Nat.log2 q.den) ≤ q.den := by
    exact_mod_cast Nat.log2_self_le q.den_nz
  have hdhigh : (q.den : ℚ) < 2 ^ (Nat.log2 q.den + 1) := by
    exact_mod_cast Nat.lt_log2_self
  have hd : (0 : ℚ) < q.den := by exact_mod_cast q.den_pos
  generalize Nat.log2 q.num.natAbs = a at hlow hhigh
  generalize Nat.log2 q.den = b at hdlow hdhigh
  constructor
  · calc (2 : ℚ) ^ ((a : ℤ) - b - 1)
        = 2 ^ a / 2 ^ (b + 1) := by
          rw [show (a : ℤ) - b - 1 = a - (b + 1 : ℕ) by push_cast; ring,
            zpow_sub₀ two_ne_zero, zpow_natCast, zpow_natCast]
      _ ≤ q.num.natAbs / q.den := div_le_div₀ (by positivity) hlow hd hdhigh.le
      _ = q := hval.symm
  · calc q = q.num.natAbs / q.den := hval
      _ < 2 ^ (a + 1) / 2 ^ b := div_lt_div₀ hhigh hdlow (by positivity) (by positivity)
      _ = (2 : ℚ) ^ ((a : ℤ) - b + 1) := by
          rw [show (a : ℤ) - b + 1 = (a + 1 : ℕ) - b by push_cast; ring,
            zpow_sub₀ two_ne_zero, zpow_natCast, zpow_natCast]

theorem lastPlace_ge (q : ℚ) : -1074 ≤ lastPlace q := le_max_right _ _

/-- Above the least grid, the last place is 52 binary places below the
first. -/
theorem lastPlace_spec {q : ℚ} (hq : 0 < q) :
    (lastPlace q = -1074 ∨ (2 : ℚ) ^ (lastPlace q + 52) ≤ q) ∧
      q < (2 : ℚ) ^ (lastPlace q + 53) := by
  obtain ⟨hlow, hhigh⟩ := log2_quotient_bounds hq
  generalize hk : (Nat.log2 q.num.natAbs : ℤ) - Nat.log2 q.den = k at hlow hhigh
  -- the place without the lower limit of the format
  obtain ⟨p, hp, hple, hplt⟩ : ∃ p : ℤ, lastPlace q = max p (-1074) ∧
      (2 : ℚ) ^ (p + 52) ≤ q ∧ q < (2 : ℚ) ^ (p + 53) := by
    by_cases hlt : q < (2 : ℚ) ^ k
    · refine ⟨k - 53, ?_, by convert hlow using 2; ring, by convert hlt using 2; ring⟩
      simp only [lastPlace, hk, twoPow_eq, sub_add_cancel, if_pos hlt]
      congr 1
      ring
    · refine ⟨k - 52, ?_, by rwa [sub_add_cancel, ← not_lt],
        by convert hhigh using 2; ring⟩
      simp only [lastPlace, hk, twoPow_eq, sub_add_cancel, if_neg hlt]
  rw [hp]
  rcases le_total p (-1074) with hle | hle
  · rw [max_eq_right hle]
    refine ⟨.inl rfl, hplt.trans_le ?_⟩
    exact zpow_le_zpow_right₀ one_le_two (by omega)
  · rw [max_eq_left hle]
    exact ⟨.inr hple, hplt⟩

theorem lastPlace_le {q : ℚ} {e : ℤ} (hq : 0 < q) (hlt : q < (2 : ℚ) ^ (e + 53))
    (he : -1074 ≤ e) : lastPlace q ≤ e := by
  rcases (lastPlace_spec hq).1 with h | h
  · omega
  · have := two_zpow_lt_iff.mp (h.trans_lt hlt)
    omega

-- ---------------------------------------------------------------------------
-- Rounding twice
-- ---------------------------------------------------------------------------

def roundedSize (q : ℚ) : ℚ := (roundHalfEven (q / 2 ^ lastPlace q) : ℚ) * 2 ^ lastPlace q

theorem nearest_of_pos {q : ℚ} (hq : 0 < q) :
    nearest q = if 2 ^ (1024 : ℤ) ≤ roundedSize q then .posInf else .finite (roundedSize q) := by
  have hzero : (if roundedSize q = 0 then finite 0 else finite (roundedSize q)) =
      finite (roundedSize q) := by
    split
    next hz => rw [hz]
    next => rfl
  simp only [nearest, hq.ne', hq.le.not_gt, if_false, twoPow_eq]
  rw [← roundedSize, hzero]

theorem nearest_of_neg {q : ℚ} (hq : q < 0) :
    nearest q = if 2 ^ (1024 : ℤ) ≤ roundedSize (-q) then .negInf
      else if roundedSize (-q) = 0 then .negZero else .finite (-roundedSize (-q)) := by
  simp only [nearest, hq.ne, hq, if_false, if_true, twoPow_eq]
  rw [← roundedSize]

theorem roundedSize_nonneg {q : ℚ} (hq : 0 < q) : 0 ≤ roundedSize q := by
  have h := roundHalfEven_nonneg (div_nonneg hq.le (zpow_nonneg zero_le_two (lastPlace q)))
  exact mul_nonneg (by exact_mod_cast h) (zpow_nonneg zero_le_two _)

theorem roundedSize_held {q : ℚ} (hq : 0 < q) (hlt : roundedSize q < 2 ^ (1024 : ℤ)) :
    IsHeld (roundedSize q) := by
  refine ⟨?_, by rwa [abs_of_nonneg (roundedSize_nonneg hq)]⟩
  have hpos : (0 : ℚ) < 2 ^ lastPlace q := by positivity
  have hscaled : q / 2 ^ lastPlace q < ((2 ^ 53 : ℤ) : ℚ) := by
    rw [div_lt_iff₀ hpos]
    calc q < (2 : ℚ) ^ (lastPlace q + 53) := (lastPlace_spec hq).2
      _ = ((2 ^ 53 : ℤ) : ℚ) * 2 ^ lastPlace q := by
        rw [zpow_add₀ two_ne_zero, mul_comm]; norm_num
  have hle := roundHalfEven_le hscaled
  have hnn := roundHalfEven_nonneg (div_nonneg hq.le hpos.le)
  rcases hle.lt_or_eq with h | h
  · exact ⟨_, _, rfl, by rwa [abs_of_nonneg hnn], lastPlace_ge q⟩
  · -- carried into a new first bit, which stands one place higher
    refine ⟨2 ^ 52, lastPlace q + 1, ?_, by norm_num, by have := lastPlace_ge q; omega⟩
    rw [roundedSize, h, zpow_add₀ two_ne_zero]
    push_cast
    ring

theorem roundedSize_of_held {q : ℚ} (hq : 0 < q) (h : IsHeld q) : roundedSize q = q := by
  obtain ⟨m, e, hval, hm, he⟩ := h.onGrid
  have hplace : lastPlace q ≤ e := by
    refine lastPlace_le hq ?_ he
    calc q = m * 2 ^ e := hval
      _ < ((2 ^ 53 : ℤ) : ℚ) * 2 ^ e :=
        mul_lt_mul_of_pos_right (by exact_mod_cast (le_abs_self m).trans_lt hm) (by positivity)
      _ = (2 : ℚ) ^ (e + 53) := by rw [zpow_add₀ two_ne_zero, mul_comm]; norm_num
  obtain ⟨n, hn⟩ := Int.eq_ofNat_of_zero_le (sub_nonneg.mpr hplace)
  have hscaled : q / 2 ^ lastPlace q = ((m * 2 ^ n : ℤ) : ℚ) := by
    rw [hval, mul_div_assoc, ← zpow_sub₀ two_ne_zero, ← hval, hn]
    push_cast
    rw [← zpow_natCast]
  rw [roundedSize, hscaled, roundHalfEven_intCast, ← hscaled,
    div_mul_cancel₀ _ (by positivity)]

theorem nearest_proper (q : ℚ) : (nearest q).IsProper := by
  rcases lt_trichotomy q 0 with hq | rfl | hq
  · rw [nearest_of_neg hq]
    split_ifs with hlim
    · trivial
    · trivial
    · exact (roundedSize_held (neg_pos.mpr hq) (not_le.mp hlim)).neg
  · exact IsHeld.zero
  · rw [nearest_of_pos hq]
    split_ifs with hlim
    · trivial
    · exact roundedSize_held hq (not_le.mp hlim)

theorem nearest_of_held {q : ℚ} (h : IsHeld q) : nearest q = .finite q := by
  rcases lt_trichotomy q 0 with hq | rfl | hq
  · have hneg := neg_pos.mpr hq
    have hb : ¬ 2 ^ (1024 : ℤ) ≤ -q := not_le.mpr ((neg_le_abs q).trans_lt h.bounded)
    rw [nearest_of_neg hq, roundedSize_of_held hneg h.neg, if_neg hb, if_neg hneg.ne', neg_neg]
  · rfl
  · have hb : ¬ 2 ^ (1024 : ℤ) ≤ q := not_le.mpr ((le_abs_self q).trans_lt h.bounded)
    rw [nearest_of_pos hq, roundedSize_of_held hq h, if_neg hb]

theorem IsProper.neg {x : Binary64} (h : x.IsProper) : x.neg.IsProper := by
  cases x with
  | finite q =>
    unfold Binary64.neg
    dsimp only
    split
    · trivial
    · exact IsHeld.neg h
  | negZero => exact IsHeld.zero
  | posInf | negInf | nan => trivial

theorem ofInt?_proper {i : ℤ} {x : Binary64} (h : ofInt? i = some x) : x.IsProper := by
  have hp := nearest_proper (i : ℚ)
  unfold ofInt? at h
  split at h <;> cases h
  exact hp

/-- A whole number of the format survives the way over the integers. -/
theorem integral?_ofInt? {x : Binary64} {i : ℤ} (h : x.IsProper) (hi : x.integral? = some i) :
    ∃ y, ofInt? i = some y ∧ y.integral? = some i := by
  have hof {q : ℚ} (hq : IsHeld q) (hden : q.den = 1) (hnum : q.num = i) :
      ∃ y, ofInt? i = some y ∧ y.integral? = some i := by
    have hval : (i : ℚ) = q := by rw [← hnum, Rat.coe_int_num_of_den_eq_one hden]
    refine ⟨.finite q, ?_, by simp only [integral?, hden, if_true, hnum]⟩
    unfold ofInt?
    rw [show nearest ((i : ℤ) : ℚ) = .finite q by rw [hval, nearest_of_held hq]]
  cases x with
  | finite q =>
    by_cases hden : q.den = 1
    · simp only [integral?, hden, if_true, Option.some.injEq] at hi
      exact hof h hden hi
    · simp only [integral?, hden, if_false, reduceCtorEq] at hi
  | negZero =>
    cases hi
    exact hof IsHeld.zero rfl rfl
  | posInf | negInf | nan => cases hi

end AlertDelivery.Binary64

namespace AlertDelivery.Numeral

open Binary64 (IsProper IsHeld nearest_proper)

theorem scaled_proper (n : ℕ) (e : ℤ) : (scaled n e).IsProper := by
  unfold scaled
  dsimp only
  split_ifs
  · exact IsHeld.zero
  · trivial
  · exact IsHeld.zero
  · exact nearest_proper _

theorem readSize?_proper {cs : List Char} {x : Binary64} (h : readSize? cs = some x) :
    x.IsProper := by
  unfold readSize? at h
  dsimp only at h
  split_ifs at h
  · cases h; trivial
  · cases h; trivial
  · obtain ⟨e, -, rfl⟩ := Option.map_eq_some_iff.mp h
    exact scaled_proper _ _

theorem readReal?_proper {s : String} {x : Binary64} (h : readReal? s = some x) : x.IsProper := by
  unfold readReal? at h
  dsimp only at h
  obtain ⟨size, hsize, rfl⟩ := Option.map_eq_some_iff.mp h
  by_cases hm : (takeSign (plainChars s)).1 = true
  · rw [if_pos hm]
    exact (readSize?_proper hsize).neg
  · rw [if_neg hm]
    exact readSize?_proper hsize

end AlertDelivery.Numeral
