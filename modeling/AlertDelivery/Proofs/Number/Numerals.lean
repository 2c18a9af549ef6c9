import AlertDelivery.Number.Numeral
import AlertDelivery.Proofs.Number.Shortest

/-!
# Digits and the number they stand for

A numeral is read as the binary64 number nearest to its value, however far
from the format that value is; the digits that the search gives for a number
have a value that is read as that number.
-/

namespace AlertDelivery.Binary64

-- ---------------------------------------------------------------------------
-- Beyond the format
-- ---------------------------------------------------------------------------

theorem le_roundHalfEven {q : ℚ} {n : ℤ} (h : n ≤ q) : n ≤ roundHalfEven q := by
  have hf : n ≤ q.floor := Rat.le_floor_iff.mpr h
  rcases roundHalfEven_cases q with h | ⟨h, -⟩ <;> omega

theorem nearest_of_large {q : ℚ} (h : 2 ^ (1024 : ℤ) ≤ q) : nearest q = .posInf := by
  have hq : 0 < q := lt_of_lt_of_le (by positivity) h
  obtain ⟨hlow, hhigh⟩ := lastPlace_spec hq
  have hplace := two_zpow_lt_iff.mp (h.trans_lt hhigh)
  have hunit : (0 : ℚ) < 2 ^ lastPlace q := by positivity
  have hmantissa : 2 ^ 52 ≤ roundHalfEven (q / 2 ^ lastPlace q) := by
    refine le_roundHalfEven ?_
    rw [le_div_iff₀ hunit]
    calc ((2 ^ 52 : ℤ) : ℚ) * 2 ^ lastPlace q = 2 ^ (lastPlace q + 52) := by
          rw [zpow_add₀ two_ne_zero, mul_comm]
          norm_num
      _ ≤ q := hlow.resolve_left (by omega)
  have hsize : 2 ^ (1024 : ℤ) ≤ roundedSize q := by
    calc (2 : ℚ) ^ (1024 : ℤ) ≤ 2 ^ (52 + lastPlace q) :=
          zpow_le_zpow_right₀ one_le_two (by omega)
      _ = ((2 ^ 52 : ℤ) : ℚ) * 2 ^ lastPlace q := by
          rw [zpow_add₀ two_ne_zero]
          norm_num
      _ ≤ roundedSize q := mul_le_mul_of_nonneg_right (by exact_mod_cast hmantissa) hunit.le
  rw [nearest_of_pos hq, if_pos hsize]

theorem nearest_of_small {q : ℚ} (hq : 0 < q) (h : q < 2 ^ (-1075 : ℤ)) :
    nearest q = .finite 0 := by
  have hhigh : q < 2 ^ (-1074 + 53 : ℤ) :=
    h.trans_le (zpow_le_zpow_right₀ one_le_two (by norm_num))
  have hrest : q / 2 ^ (-1074 : ℤ) < 1 / 2 := by
    rw [div_lt_iff₀ (by positivity)]
    calc q < 2 ^ (-1075 : ℤ) := h
      _ = 1 / 2 * 2 ^ (-1074 : ℤ) := by
        rw [show (-1075 : ℤ) = -1074 - 1 by norm_num, zpow_sub_one₀ two_ne_zero]
        ring
  have hnonneg : 0 ≤ q / 2 ^ (-1074 : ℤ) := by positivity
  refine nearest_of_place (m := 0) hq le_rfl (.inl rfl) hhigh ?_ (fun _ => rfl) (by simp)
    (by positivity)
  rw [Int.cast_zero, sub_zero, abs_of_nonneg hnonneg]
  exact hrest.le

end AlertDelivery.Binary64

namespace AlertDelivery.Numeral

open Binary64 (nearest tenPow_eq nearest_of_large nearest_of_small)
open Decimal (zeros)

-- ---------------------------------------------------------------------------
-- The value of digits
-- ---------------------------------------------------------------------------

theorem digitsValue_append (a b : List Char) :
    digitsValue (a ++ b) = digitsValue a * 10 ^ b.length + digitsValue b := by
  calc digitsValue (a ++ b) = Nat.ofDigitChars 10 b (digitsValue a) := Nat.ofDigitChars_append 0
    _ = 10 ^ b.length * digitsValue a + digitsValue b := Nat.ofDigitChars_eq_ofDigitChars_zero
    _ = digitsValue a * 10 ^ b.length + digitsValue b := by rw [mul_comm]

theorem digitsValue_zeros (n : ℕ) : digitsValue (zeros n) = 0 :=
  Nat.ofDigitChars_replicate_zero.trans (mul_zero _)

theorem toList_toString (n : ℕ) : (toString n).toList = Nat.toDigits 10 n := by
  rw [Nat.toString_eq_ofList_toDigits, String.toList_ofList]

theorem digitsValue_toString (n : ℕ) : digitsValue (toString n).toList = n := by
  rw [toList_toString]
  exact Nat.ofDigitChars_ten_toDigits

theorem isPlainDigit_toString (n : ℕ) : ∀ c ∈ (toString n).toList, Text.isPlainDigit c = true := by
  rw [toList_toString]
  exact fun c hc => Nat.isDigit_of_mem_toDigits (by decide) (by decide) hc

theorem toString_ne_nil (n : ℕ) : (toString n).toList ≠ [] := by
  rw [toList_toString]
  exact Nat.toDigits_ne_nil

theorem length_toString_le_iff {n k : ℕ} (hk : 0 < k) : (toString n).length ≤ k ↔ n < 10 ^ k := by
  rw [← String.length_toList, toList_toString]
  exact Nat.length_toDigits_le_iff (by decide) hk

theorem lt_pow_toString (n : ℕ) : n < 10 ^ (toString n).length := by
  refine (length_toString_le_iff ?_).mp le_rfl
  rw [← String.length_toList]
  exact List.length_pos_iff.mpr (toString_ne_nil n)

theorem pow_toString_le {n : ℕ} (hn : 0 < n) : 10 ^ ((toString n).length - 1) ≤ n := by
  by_contra hlt
  rcases Nat.eq_zero_or_pos ((toString n).length - 1) with hzero | hpos
  · rw [hzero] at hlt
    omega
  · have := (length_toString_le_iff hpos).mpr (not_le.mp hlt)
    omega

theorem head_toString {n : ℕ} (hn : 0 < n) :
    ∃ c rest, (toString n).toList = c :: rest ∧ c ≠ '0' := by
  have hdigit : ∀ d < 10, 0 < d → Nat.digitChar d ≠ '0' := by decide
  rw [toList_toString]
  induction n using Nat.strongRecOn with
  | ind n ih =>
    rw [Nat.toDigits_eq_if (by decide)]
    split_ifs with hlt
    · exact ⟨_, _, rfl, hdigit n hlt hn⟩
    · obtain ⟨c, rest, hrest, hc⟩ := ih (n / 10) (by omega) (by omega)
      exact ⟨c, _, by rw [hrest, List.cons_append], hc⟩

-- ---------------------------------------------------------------------------
-- Reading at any scale
-- ---------------------------------------------------------------------------

/-- The short cuts for values far outside the format change nothing. -/
theorem scaled_eq (n : ℕ) (e : ℤ) : scaled n e = nearest (n * 10 ^ e) := by
  rcases Nat.eq_zero_or_pos n with rfl | hn
  · simp [scaled, nearest]
  have hpow : (0 : ℚ) < 10 ^ e := by positivity
  have hsize : (1 : ℤ) ≤ (toString n).length := by
    have := List.length_pos_iff.mpr (toString_ne_nil n)
    rw [String.length_toList] at this
    omega
  have hbelow : (10 : ℚ) ^ ((toString n).length - 1 + e : ℤ) ≤ n * 10 ^ e := by
    rw [zpow_add₀ (by norm_num)]
    refine mul_le_mul_of_nonneg_right ?_ hpow.le
    rw [show ((toString n).length : ℤ) - 1 = ((toString n).length - 1 : ℕ) by omega, zpow_natCast]
    exact_mod_cast pow_toString_le hn
  have habove : (n : ℚ) * 10 ^ e < 10 ^ ((toString n).length + e : ℤ) := by
    rw [zpow_add₀ (by norm_num), zpow_natCast]
    exact mul_lt_mul_of_pos_right (by exact_mod_cast lt_pow_toString n) hpow
  unfold scaled
  simp only [hn.ne', if_false, tenPow_eq]
  split_ifs with hlarge hsmall
  · refine (nearest_of_large (le_trans ?_ hbelow)).symm
    calc (2 : ℚ) ^ (1024 : ℤ) ≤ 10 ^ (310 : ℤ) := by
          exact_mod_cast (show 2 ^ 1024 ≤ 10 ^ 310 by decide +kernel)
      _ ≤ 10 ^ ((toString n).length - 1 + e : ℤ) :=
          zpow_le_zpow_right₀ (by norm_num) (by omega)
  · refine (nearest_of_small (by positivity) (habove.trans_le ?_)).symm
    calc (10 : ℚ) ^ ((toString n).length + e : ℤ) ≤ 10 ^ (-331 : ℤ) :=
          zpow_le_zpow_right₀ (by norm_num) (by omega)
      _ ≤ 2 ^ (-1075 : ℤ) := by
          rw [zpow_neg, zpow_neg]
          refine inv_anti₀ (by positivity) ?_
          exact_mod_cast (show 2 ^ 1075 ≤ 10 ^ 331 by decide +kernel)
  · rfl

end AlertDelivery.Numeral

namespace AlertDelivery.Decimal

open Binary64 (IsHeld nearest)
open Numeral (digitsValue digitsValue_append digitsValue_zeros)

-- ---------------------------------------------------------------------------
-- What digits stand for
-- ---------------------------------------------------------------------------

def Digits.value (d : Digits) : ℚ :=
  digitsValue d.digits * 10 ^ (d.exponent + 1 - d.digits.length)

structure Digits.IsNormal (d : Digits) : Prop where
  plain : ∀ c ∈ d.digits, Text.isPlainDigit c = true
  first : ∃ c rest, d.digits = c :: rest ∧ c ≠ '0'

/-- The zeros at the end, of which an integer loses the digits. -/
theorem exists_zeros (n : ℕ) :
    ∃ k, (toString n).toList = (toString n).toList.rdropWhile (· == '0') ++ zeros k := by
  have hzero : ∀ c ∈ (toString n).toList.rtakeWhile (· == '0'), c = '0' := fun c hc => by
    simpa using List.mem_rtakeWhile_imp hc
  have hzeros : (toString n).toList.rtakeWhile (· == '0') = zeros _ :=
    List.eq_replicate_iff.mpr ⟨rfl, hzero⟩
  exact ⟨_, by rw [← hzeros, List.rdropWhile_append_rtakeWhile]⟩

theorem ofScaled_normal {n : ℕ} (hn : 0 < n) (scale : ℤ) :
    (Digits.ofScaled n scale).IsNormal ∧ (Digits.ofScaled n scale).value = n * 10 ^ scale := by
  obtain ⟨k, hk⟩ := exists_zeros n
  obtain ⟨c, rest, hhead, hc⟩ := Numeral.head_toString hn
  have hplain := Numeral.isPlainDigit_toString n
  have hvalue := Numeral.digitsValue_toString n
  have hdigits : Digits.ofScaled n scale =
      ⟨if ((toString n).toList.rdropWhile (· == '0')).isEmpty then ['0']
        else (toString n).toList.rdropWhile (· == '0'),
        scale + ((toString n).toList.length : ℤ) - 1⟩ := rfl
  rw [hdigits]
  generalize (toString n).toList.rdropWhile (· == '0') = kept at hk ⊢
  rw [hk] at hhead hplain hvalue ⊢
  rw [digitsValue_append, digitsValue_zeros, add_zero] at hvalue
  cases kept with
  | nil =>
    rw [show digitsValue [] = 0 from rfl, zero_mul] at hvalue
    omega
  | cons d ds =>
    rw [List.cons_append, List.cons.injEq] at hhead
    refine ⟨⟨fun x hx => hplain x (List.mem_append_left _ hx), d, ds, rfl, hhead.1 ▸ hc⟩, ?_⟩
    have hlength : (zeros k).length = k := List.length_replicate
    simp only [List.isEmpty_cons, Bool.false_eq_true, if_false, Digits.value,
      List.length_append, hlength] at hvalue ⊢
    rw [← hvalue]
    push_cast
    rw [mul_assoc, ← zpow_natCast (10 : ℚ) k, ← zpow_add₀ (by norm_num)]
    congr 2
    ring

theorem shortest_reads {q : ℚ} (hq : 0 < q) (h : IsHeld q) :
    (shortest q).IsNormal ∧ nearest (shortest q).value = .finite q := by
  obtain ⟨n, scale, hfound, hn, hnear⟩ := shortest_found hq h
  obtain ⟨hnormal, hvalue⟩ := ofScaled_normal hn scale
  rw [hfound, hvalue]
  exact ⟨hnormal, hnear⟩

end AlertDelivery.Decimal
