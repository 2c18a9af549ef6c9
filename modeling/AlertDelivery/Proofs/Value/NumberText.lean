import AlertDelivery.Value.Json
import AlertDelivery.Proofs.Number.Numerals

/-!
# Numbers in JSON text

A number that was written is read as itself, whatever the layout of its digits
and whatever follows it inside a document.
-/

namespace AlertDelivery.Json

open Text (isPlainDigit)
open Numeral (digitsValue digitsValue_append scaled_eq)
open Binary64 (nearest)
open Decimal (Digits zeros plainLayout exponentText)

/-- What follows a value in a document: nothing, or a comma or a closing
bracket first. -/
def Ends (rest : List Char) : Prop := ∀ c ∈ rest.head?, c = ',' ∨ c = ']' ∨ c = '\x7d'

theorem ends_nil : Ends [] := fun _ h => by cases h

theorem ends_cons {c : Char} (h : c = ',' ∨ c = ']' ∨ c = '\x7d') (rest : List Char) :
    Ends (c :: rest) := fun _ hc => by cases hc; exact h

def NoDigit (rest : List Char) : Prop := ∀ c ∈ rest.head?, isPlainDigit c = false

variable {ds places rest left : List Char} {c : Char} {e : ℤ} {d : Digits}

theorem Ends.noDigit (h : Ends rest) : NoDigit rest := by
  intro c hc
  rcases h c hc with rfl | rfl | rfl <;> rfl

theorem Ends.no_fraction (h : Ends rest) : fraction? rest = none := by
  cases rest with
  | nil => rfl
  | cons c rest => rcases h c rfl with rfl | rfl | rfl <;> rfl

theorem Ends.no_exponent (h : Ends rest) : exponent? rest = none := by
  cases rest with
  | nil => rfl
  | cons c rest => rcases h c rfl with rfl | rfl | rfl <;> rfl

-- ---------------------------------------------------------------------------
-- The parts of a number
-- ---------------------------------------------------------------------------

theorem digitRun_append (hds : ∀ c ∈ ds, isPlainDigit c = true) (hrest : NoDigit rest) :
    digitRun (ds ++ rest) = (ds, rest) := by
  have htake : rest.takeWhile isPlainDigit = [] := by
    cases rest with
    | nil => rfl
    | cons c rest => rw [List.takeWhile_cons_of_neg (by simp [hrest c rfl])]
  have hdrop : rest.dropWhile isPlainDigit = rest := by
    cases rest with
    | nil => rfl
    | cons c rest => rw [List.dropWhile_cons_of_neg (by simp [hrest c rfl])]
  rw [digitRun, List.takeWhile_append_of_pos hds, List.dropWhile_append_of_pos hds, htake, hdrop,
    List.append_nil]

/-- The digits before the point: a zero alone, or the longest run. -/
def whole? (cs : List Char) : Option (List Char × List Char) :=
  match cs with
  | '0' :: rest => some (['0'], rest)
  | c :: _ => if isPlainDigit c then some (digitRun cs) else none
  | [] => none

/-- The number and its negative, from the digits before the point on. -/
def afterWhole (ds rest : List Char) : (Value × Value) × List Char :=
  let (places, rest, pointed) := match fraction? rest with
    | some (places, left) => (places, left, true)
    | none => ([], rest, false)
  let (e, rest, raised) := match exponent? rest with
    | some (e, left) => (e, left, true)
    | none => (0, rest, false)
  if pointed || raised then
    let x := Numeral.scaled (Numeral.digitsValue (ds ++ places)) (e - places.length)
    ((.real x, .real x.neg), rest)
  else
    let n := Numeral.digitsValue ds
    ((.int n, .int (-(n : Int))), rest)

theorem readSize?_eq (cs : List Char) :
    readSize? cs = (whole? cs).map fun p => afterWhole p.1 p.2 := rfl

theorem whole?_run (hds : ∀ c ∈ ds, isPlainDigit c = true)
    (hfirst : ∃ c cs, ds = c :: cs ∧ c ≠ '0') (hrest : NoDigit rest) :
    whole? (ds ++ rest) = some (ds, rest) := by
  obtain ⟨c, cs, rfl, hc⟩ := hfirst
  have hrun := digitRun_append hds hrest
  have hdigit : isPlainDigit c = true := hds c List.mem_cons_self
  rw [List.cons_append] at hrun ⊢
  simp only [whole?, hdigit, if_true, hrun]

theorem fraction?_places (hplain : ∀ c ∈ places, isPlainDigit c = true) (hne : places ≠ [])
    (hrest : NoDigit rest) : fraction? ('.' :: (places ++ rest)) = some (places, rest) := by
  obtain ⟨c, cs, rfl⟩ := List.exists_cons_of_ne_nil hne
  have hrun := digitRun_append hplain hrest
  have hdigit : isPlainDigit c = true := hplain c List.mem_cons_self
  rw [List.cons_append] at hrun ⊢
  simp only [fraction?, hdigit, if_true, hrun]

theorem exponent?_text (e : ℤ) (hrest : NoDigit rest) :
    exponent? ((exponentText e).toList ++ rest) = some (e, rest) := by
  obtain ⟨ds, hds, hne, hplain, hvalue⟩ : ∃ ds, (exponentText e).toList =
      'e' :: (if e < 0 then '-' else '+') :: ds ∧ ds ≠ [] ∧
        (∀ c ∈ ds, isPlainDigit c = true) ∧ digitsValue ds = e.natAbs := by
    have hplain := Numeral.isPlainDigit_toString e.natAbs
    have hvalue := Numeral.digitsValue_toString e.natAbs
    have hne := Numeral.toString_ne_nil e.natAbs
    have hmark : (if e < 0 then "e-" else "e+").toList = ['e', if e < 0 then '-' else '+'] := by
      split <;> rfl
    rw [exponentText, String.toList_append, hmark]
    generalize toString e.natAbs = size at hplain hvalue hne ⊢
    by_cases hshort : size.length < 2
    · refine ⟨'0' :: size.toList, ?_, by simp, List.forall_mem_cons.mpr ⟨rfl, hplain⟩, hvalue⟩
      rw [if_pos hshort, String.toList_append]
      rfl
    · refine ⟨size.toList, ?_, hne, hplain, hvalue⟩
      rw [if_neg hshort]
      rfl
  obtain ⟨c, cs, rfl⟩ := List.exists_cons_of_ne_nil hne
  have hrun := digitRun_append hplain hrest
  rw [hds]
  rw [List.cons_append] at hrun
  by_cases hneg : e < 0
  · have hsign : Numeral.takeSign ('-' :: c :: (cs ++ rest)) = (true, c :: (cs ++ rest)) := rfl
    have he : -(e.natAbs : ℤ) = e := by omega
    simp only [exponent?, List.cons_append, hneg, hsign, hrun, hvalue, he, if_true,
      beq_self_eq_true, Bool.true_or]
  · have hsign : Numeral.takeSign ('+' :: c :: (cs ++ rest)) = (false, c :: (cs ++ rest)) := rfl
    have he : (e.natAbs : ℤ) = e := by omega
    simp only [exponent?, List.cons_append, hneg, hsign, hrun, hvalue, he, if_true, if_false,
      beq_self_eq_true, Bool.true_or, Bool.false_eq_true]

theorem afterWhole_plain (hf : fraction? rest = none) (he : exponent? rest = none) :
    afterWhole ds rest =
      ((.int (digitsValue ds), .int (-(digitsValue ds : ℤ))), rest) := by
  simp [afterWhole, hf, he]

def realPair (v : ℚ) : Value × Value := (.real (nearest v), .real (nearest v).neg)

theorem afterWhole_fraction (hf : fraction? rest = some (places, left))
    (he : exponent? left = none) :
    afterWhole ds rest =
      (realPair (digitsValue (ds ++ places) * 10 ^ (-places.length : ℤ)), left) := by
  simp [afterWhole, realPair, hf, he, scaled_eq]

theorem afterWhole_exponent (hf : fraction? rest = none) (he : exponent? rest = some (e, left)) :
    afterWhole ds rest = (realPair (digitsValue ds * 10 ^ e), left) := by
  simp [afterWhole, realPair, hf, he, scaled_eq]

theorem afterWhole_both {more : List Char} (hf : fraction? rest = some (places, more))
    (he : exponent? more = some (e, left)) :
    afterWhole ds rest =
      (realPair (digitsValue (ds ++ places) * 10 ^ (e - places.length)), left) := by
  simp [afterWhole, realPair, hf, he, scaled_eq]

-- ---------------------------------------------------------------------------
-- The layouts
-- ---------------------------------------------------------------------------

def IsWhole (ds : List Char) : Prop :=
  ∀ rest, NoDigit rest → whole? (ds ++ rest) = some (ds, rest)

theorem isWhole_zero : IsWhole ['0'] := fun _ _ => rfl

/-- A text is read as a number of a given value, up to what follows it. -/
def ReadsAs (v : ℚ) (cs : List Char) : Prop :=
  ∀ rest, Ends rest → readSize? (cs ++ rest) = some (realPair v, rest)

theorem noDigit_cons (h : isPlainDigit c = false) (rest : List Char) : NoDigit (c :: rest) :=
  fun _ hc => by cases hc; exact h

theorem exponentText_head (e : ℤ) : ∃ cs, (exponentText e).toList = 'e' :: cs := by
  rw [exponentText, String.toList_append]
  split <;> exact ⟨_, rfl⟩

theorem readsAs_fraction (hds : IsWhole ds) (hplaces : ∀ c ∈ places, isPlainDigit c = true)
    (hne : places ≠ []) :
    ReadsAs (digitsValue (ds ++ places) * 10 ^ (-places.length : ℤ)) (ds ++ '.' :: places) := by
  intro rest hrest
  rw [List.append_assoc, List.cons_append, readSize?_eq, hds _ (noDigit_cons rfl _),
    Option.map_some, afterWhole_fraction (fraction?_places hplaces hne hrest.noDigit)
      hrest.no_exponent]

theorem readsAs_exponent (hds : IsWhole ds) (e : ℤ) :
    ReadsAs (digitsValue ds * 10 ^ e) (ds ++ (exponentText e).toList) := by
  intro rest hrest
  obtain ⟨cs, hcs⟩ := exponentText_head e
  have he := exponent?_text e hrest.noDigit
  rw [hcs, List.cons_append] at he
  rw [List.append_assoc, hcs, List.cons_append, readSize?_eq, hds _ (noDigit_cons rfl _),
    Option.map_some, afterWhole_exponent rfl he]

theorem readsAs_both (hds : IsWhole ds) (hplaces : ∀ c ∈ places, isPlainDigit c = true)
    (hne : places ≠ []) (e : ℤ) :
    ReadsAs (digitsValue (ds ++ places) * 10 ^ (e - places.length))
      (ds ++ '.' :: places ++ (exponentText e).toList) := by
  intro rest hrest
  obtain ⟨cs, hcs⟩ := exponentText_head e
  have he := exponent?_text e hrest.noDigit
  rw [hcs, List.cons_append] at he
  have hf := fraction?_places hplaces hne (noDigit_cons rfl (cs ++ rest) : NoDigit ('e' :: _))
  rw [List.append_assoc, List.append_assoc, List.cons_append, hcs, List.cons_append,
    readSize?_eq, hds _ (noDigit_cons rfl _), Option.map_some, afterWhole_both hf he]

theorem isWhole_of_first (hds : ∀ c ∈ ds, isPlainDigit c = true)
    (hfirst : ∃ c cs, ds = c :: cs ∧ c ≠ '0') : IsWhole ds :=
  fun _ hrest => whole?_run hds hfirst hrest

theorem isPlainDigit_zeros (n : ℕ) : ∀ c ∈ zeros n, isPlainDigit c = true :=
  fun c hc => by rw [List.eq_of_mem_replicate hc]; rfl

theorem length_zeros (n : ℕ) : (zeros n).length = n := List.length_replicate

theorem toList_plainMark : plainLayout.wholeMark.toList = ['.', '0'] := rfl

theorem value_of_shifted {n k : ℕ} (hn : n = digitsValue d.digits * 10 ^ k)
    (he : e + k = d.exponent + 1 - d.digits.length) : (n : ℚ) * 10 ^ e = d.value := by
  rw [hn, Digits.value, ← he, zpow_add₀ (by norm_num), zpow_natCast]
  push_cast
  ring

/-- Zeros between the point and the digits. -/
theorem readsAs_below (hd : d.IsNormal) (hlow : d.exponent < 0) :
    ReadsAs d.value ('0' :: '.' :: zeros (-d.exponent - 1).toNat ++ d.digits) := by
  obtain ⟨c, cs, hdigits, -⟩ := hd.first
  have hplain : ∀ c ∈ zeros (-d.exponent - 1).toNat ++ d.digits, isPlainDigit c = true :=
    List.forall_mem_append.mpr ⟨isPlainDigit_zeros _, hd.plain⟩
  have hread := readsAs_fraction isWhole_zero hplain (by simp [hdigits])
  rw [value_of_shifted (d := d) (k := 0) ?_ ?_] at hread
  · exact hread
  · rw [digitsValue_append, digitsValue_append, Numeral.digitsValue_zeros, zero_mul, zero_add,
      pow_zero, mul_one, show digitsValue ['0'] = 0 from rfl, zero_mul, zero_add]
  · rw [List.length_append, length_zeros]
    omega

/-- Zeros between the digits and the point. -/
theorem readsAs_integer (hd : d.IsNormal) (hlow : 0 ≤ d.exponent)
    (hshort : d.digits.length ≤ d.exponent.toNat + 1) :
    ReadsAs d.value
      (d.digits ++ zeros (d.exponent.toNat + 1 - d.digits.length) ++ ['.', '0']) := by
  obtain ⟨c, cs, hdigits, hc⟩ := hd.first
  have hplain : ∀ c ∈ d.digits ++ zeros (d.exponent.toNat + 1 - d.digits.length),
      isPlainDigit c = true := List.forall_mem_append.mpr ⟨hd.plain, isPlainDigit_zeros _⟩
  have hwhole := isWhole_of_first hplain ⟨c, cs ++ zeros _, by rw [hdigits, List.cons_append], hc⟩
  have hread := readsAs_fraction hwhole (isPlainDigit_zeros 1) (List.cons_ne_nil _ _)
  rw [value_of_shifted (d := d) (k := d.exponent.toNat + 1 - d.digits.length + 1) ?_ ?_] at hread
  · exact hread
  · rw [digitsValue_append, digitsValue_append, Numeral.digitsValue_zeros,
      Numeral.digitsValue_zeros, length_zeros, length_zeros, pow_succ]
    ring
  · rw [length_zeros]
    omega

theorem readsAs_split (hd : d.IsNormal) {n : ℕ} (hn : n < d.digits.length) (hpos : 0 < n)
    (he : d.exponent + 1 = n) :
    ReadsAs d.value (d.digits.take n ++ '.' :: d.digits.drop n) := by
  obtain ⟨c, cs, hdigits, hc⟩ := hd.first
  obtain ⟨k, rfl⟩ := Nat.exists_eq_succ_of_ne_zero hpos.ne'
  have hwhole : IsWhole (d.digits.take (k + 1)) :=
    isWhole_of_first (fun x hx => hd.plain x (List.mem_of_mem_take hx))
      ⟨c, cs.take k, by rw [hdigits, List.take_succ_cons], hc⟩
  have hne : d.digits.drop (k + 1) ≠ [] := List.drop_eq_nil_iff.not.mpr (by omega)
  have hread := readsAs_fraction hwhole (fun x hx => hd.plain x (List.mem_of_mem_drop hx)) hne
  rw [value_of_shifted (d := d) (k := 0) ?_ ?_] at hread
  · exact hread
  · rw [List.take_append_drop, pow_zero, mul_one]
  · rw [List.length_drop]
    omega

theorem readsAs_scientific (hd : d.IsNormal) :
    ReadsAs d.value (d.digits.take 1 ++
      (if (d.digits.drop 1).isEmpty then [] else '.' :: d.digits.drop 1) ++
      (exponentText d.exponent).toList) := by
  obtain ⟨c, cs, hdigits, hc⟩ := hd.first
  have hplain := hd.plain
  rw [hdigits] at hplain
  have hwhole : IsWhole [c] :=
    isWhole_of_first (fun x hx => hplain x (List.mem_singleton.mp hx ▸ List.mem_cons_self))
      ⟨c, [], rfl, hc⟩
  rw [hdigits, List.take_succ_cons, List.take_zero, List.drop_succ_cons, List.drop_zero]
  cases cs with
  | nil =>
    have hread := readsAs_exponent hwhole d.exponent
    rw [value_of_shifted (d := d) (k := 0) ?_ ?_] at hread
    · exact hread
    · rw [hdigits, pow_zero, mul_one]
    · simp [hdigits]
  | cons x xs =>
    have hread := readsAs_both hwhole (fun y hy => hplain y (List.mem_cons_of_mem _ hy))
      (List.cons_ne_nil x xs) d.exponent
    rw [value_of_shifted (d := d) (k := 0) ?_ ?_] at hread
    · exact hread
    · rw [hdigits, pow_zero, mul_one, List.singleton_append]
    · simp only [hdigits, List.length_cons]
      push_cast
      ring

theorem readsAs_render (hd : d.IsNormal) : ReadsAs d.value (plainLayout.render d).toList := by
  unfold Decimal.Layout.render
  dsimp only
  split
  · split_ifs with hlow hshort
    · rw [String.toList_ofList]
      exact readsAs_below hd hlow
    · rw [String.toList_append, String.toList_ofList, toList_plainMark]
      exact readsAs_integer hd (not_lt.mp hlow) hshort
    · rw [String.toList_ofList]
      exact readsAs_split hd (not_le.mp hshort) (by omega) (by omega)
  · rw [String.toList_append, String.toList_ofList]
    exact readsAs_scientific hd

-- ---------------------------------------------------------------------------
-- Numbers with a sign
-- ---------------------------------------------------------------------------

theorem whole?_head {cs : List Char} {p : List Char × List Char} (h : whole? cs = some p) :
    ∃ c more, cs = c :: more ∧ isPlainDigit c = true := by
  unfold whole? at h
  split at h
  next rest => exact ⟨'0', rest, rfl, rfl⟩
  next c more _ =>
    split_ifs at h with hdigit
    exact ⟨c, more, rfl, hdigit⟩
  next => cases h

/-- A number is not taken for a word, with or without a sign in front. -/
theorem readScalar?_of_size {cs : List Char} {v w : Value}
    (h : readSize? cs = some ((v, w), left)) :
    readScalar? cs = some (v, left) ∧ readScalar? ('-' :: cs) = some (w, left) := by
  obtain ⟨p, hp, -⟩ := Option.map_eq_some_iff.mp (readSize?_eq cs ▸ h)
  obtain ⟨c, more, rfl, hc⟩ := whole?_head hp
  constructor
  · unfold readScalar?
    split
    case h_8 => rw [h]; rfl
    all_goals
      rename_i hword
      obtain ⟨rfl, -⟩ := List.cons.inj hword
      exact absurd hc (by decide)
  · unfold readScalar?
    split
    case h_6 hword =>
      obtain ⟨rfl, -⟩ := List.cons.inj (List.cons.inj hword).2
      exact absurd hc (by decide)
    case h_7 hword =>
      obtain ⟨-, rfl⟩ := List.cons.inj hword
      rw [h]
      rfl
    case h_8 hminus => exact absurd rfl (hminus _)
    all_goals
      rename_i hword
      exact absurd (List.cons.inj hword).1 (by decide)

theorem readScalar?_int (i : ℤ) (hrest : Ends rest) :
    readScalar? ((toString i).toList ++ rest) = some (.int i, rest) := by
  have hread {n : ℕ} (hn : i.natAbs = n) : readSize? ((toString n).toList ++ rest) =
      some ((.int n, .int (-(n : ℤ))), rest) := by
    have hwhole : whole? ((toString n).toList ++ rest) = some ((toString n).toList, rest) := by
      rcases Nat.eq_zero_or_pos n with rfl | hn
      · exact isWhole_zero _ hrest.noDigit
      · exact whole?_run (Numeral.isPlainDigit_toString n) (Numeral.head_toString hn)
          hrest.noDigit
    rw [readSize?_eq, hwhole, Option.map_some, afterWhole_plain hrest.no_fraction
      hrest.no_exponent, Numeral.digitsValue_toString]
  cases i with
  | ofNat n => exact (readScalar?_of_size (hread rfl)).1
  | negSucc n =>
    have htext : (toString (Int.negSucc n)).toList = '-' :: (toString (n + 1)).toList :=
      String.toList_append
    rw [htext]
    exact (readScalar?_of_size (hread rfl)).2

theorem readScalar?_size {q : ℚ} (h : Binary64.IsHeld q) (hq : 0 < q) (hrest : Ends rest) :
    let size := (plainLayout.render (Decimal.shortest q)).toList
    readScalar? (size ++ rest) = some (.real (.finite q), rest) ∧
      readScalar? ('-' :: (size ++ rest)) = some (.real (.finite (-q)), rest) := by
  obtain ⟨hnormal, hnear⟩ := Decimal.shortest_reads hq h
  have hread := readsAs_render hnormal rest hrest
  rw [realPair, hnear, Binary64.neg, if_neg hq.ne'] at hread
  exact readScalar?_of_size hread

theorem readScalar?_zero (hrest : Ends rest) :
    readScalar? ('0' :: '.' :: '0' :: rest) = some (.real (.finite 0), rest) ∧
      readScalar? ('-' :: '0' :: '.' :: '0' :: rest) = some (.real .negZero, rest) := by
  have hread := readsAs_fraction isWhole_zero (isPlainDigit_zeros 1) (List.cons_ne_nil _ _)
    rest hrest
  have hvalue : (digitsValue (['0'] ++ zeros 1) : ℚ) * 10 ^ (-(zeros 1).length : ℤ) = 0 := by
    rw [show digitsValue (['0'] ++ zeros 1) = 0 from rfl, Nat.cast_zero, zero_mul]
  rw [hvalue] at hread
  exact readScalar?_of_size hread

theorem writeReal_finite (q : ℚ) : writeReal (.finite q) =
    if q = 0 then "0.0"
    else if q < 0 then "-" ++ plainLayout.render (Decimal.shortest (-q))
    else plainLayout.render (Decimal.shortest q) := rfl

theorem readScalar?_real {q : ℚ} (h : Binary64.IsHeld q) (hrest : Ends rest) :
    readScalar? ((writeReal (.finite q)).toList ++ rest) = some (.real (.finite q), rest) := by
  rw [writeReal_finite]
  split_ifs with hzero hneg
  · rw [hzero]
    exact (readScalar?_zero hrest).1
  · have hread := (readScalar?_size h.neg (neg_pos.mpr hneg) hrest).2
    rw [neg_neg] at hread
    rw [String.toList_append]
    exact hread
  · exact (readScalar?_size h (lt_of_le_of_ne (not_lt.mp hneg) (Ne.symm hzero)) hrest).1

theorem readScalar?_negZero (hrest : Ends rest) :
    readScalar? ((writeReal .negZero).toList ++ rest) = some (.real .negZero, rest) :=
  (readScalar?_zero hrest).2

end AlertDelivery.Json
