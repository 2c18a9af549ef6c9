import AlertDelivery.Value.Json
import Mathlib.Tactic.IntervalCases

/-!
# Text in JSON

A text is written in printable ASCII, whatever characters it has, and its
escapes are read back as those characters: a character beyond the first plane
takes two units that are joined again.
-/

namespace AlertDelivery.Json

open Text (hexDigit hexDigits hexValue?)

def IsPrintable (c : Char) : Prop := 0x20 ≤ c.toNat ∧ c.toNat ≤ 0x7E

instance (c : Char) : Decidable (IsPrintable c) := inferInstanceAs (Decidable (_ ∧ _))

variable {n : ℕ} {c : Char} {rest done : List Char}

-- ---------------------------------------------------------------------------
-- Units
-- ---------------------------------------------------------------------------

theorem hexValue?_hexDigit (h : n < 16) : hexValue? (hexDigit n) = some n := by
  have hall : ∀ n < 16, hexValue? (hexDigit n) = some n := by decide
  exact hall n h

theorem isPrintable_hexDigit (h : n < 16) : IsPrintable (hexDigit n) := by
  have hall : ∀ n < 16, IsPrintable (hexDigit n) := by decide
  exact hall n h

theorem hexDigits_four (n : ℕ) : hexDigits 4 n =
    [hexDigit (n / 4096 % 16), hexDigit (n / 256 % 16), hexDigit (n / 16 % 16),
      hexDigit (n % 16)] := by
  simp [hexDigits, Nat.div_div_eq_div_mul]

theorem readUnit?_hexDigits (h : n < 0x10000) (rest : List Char) :
    readUnit? (hexDigits 4 n ++ rest) = some (n, rest) := by
  have hvalue : ((n / 4096 % 16 * 16 + n / 256 % 16) * 16 + n / 16 % 16) * 16 + n % 16 = n := by
    omega
  rw [hexDigits_four]
  simp only [List.cons_append, List.nil_append, readUnit?]
  rw [hexValue?_hexDigit (by omega), hexValue?_hexDigit (by omega), hexValue?_hexDigit (by omega),
    hexValue?_hexDigit (by omega)]
  simp only [Option.bind_eq_bind, Option.bind_some, hvalue]

theorem isPrintable_unitEscape (n : ℕ) : ∀ c ∈ unitEscape n, IsPrintable c := by
  rw [unitEscape, hexDigits_four]
  simp only [List.forall_mem_cons]
  have hdigit (k : ℕ) : IsPrintable (hexDigit (k % 16)) := isPrintable_hexDigit (by omega)
  exact ⟨by decide, by decide, hdigit _, hdigit _, hdigit _, hdigit _, fun _ h => by cases h⟩

theorem toNat_ranges (c : Char) :
    c.toNat < 0xD800 ∨ 0xDFFF < c.toNat ∧ c.toNat < 0x110000 := c.valid

theorem readChars_unit (h : n < 0x10000) (fuel : ℕ) (done rest : List Char) :
    readChars (fuel + 1) done (unitEscape n ++ rest) =
      readChars fuel ((joinUnit n rest).1 :: done) (joinUnit n rest).2 := by
  simp only [unitEscape, List.cons_append, readChars, readUnit?_hexDigits h]

theorem joinUnit_char (c : Char) (rest : List Char) : joinUnit c.toNat rest = (c, rest) := by
  have hranges := toNat_ranges c
  unfold joinUnit
  rw [if_neg (by omega), if_neg (by omega), Char.ofNat_toNat]

theorem joinUnit_low {unit low : ℕ} {more left : List Char}
    (hunit : 0xD800 ≤ unit ∧ unit < 0xDC00) (hmore : readUnit? more = some (low, left))
    (hlow : 0xDC00 ≤ low ∧ low < 0xE000) :
    joinUnit unit ('\\' :: 'u' :: more) =
      (Char.ofNat (0x10000 + (unit - 0xD800) * 0x400 + (low - 0xDC00)), left) := by
  unfold joinUnit
  rw [if_pos hunit]
  simp only [hmore]
  rw [if_pos hlow]

theorem joinUnit_pair {high low : ℕ} (hhigh : high < 0x400) (hlow : low < 0x400)
    (rest : List Char) :
    joinUnit (0xD800 + high) (unitEscape (0xDC00 + low) ++ rest) =
      (Char.ofNat (0x10000 + high * 0x400 + low), rest) := by
  have hmore := readUnit?_hexDigits (show 0xDC00 + low < 0x10000 by omega) rest
  rw [unitEscape, List.cons_append, List.cons_append,
    joinUnit_low (by omega) hmore (by omega), Nat.add_sub_cancel_left, Nat.add_sub_cancel_left]

-- ---------------------------------------------------------------------------
-- Characters
-- ---------------------------------------------------------------------------

theorem isPrintable_escapedChar (c : Char) : ∀ x ∈ escapedChar c, IsPrintable x := by
  have hshort (x : Char) (hx : IsPrintable x) : ∀ y ∈ ['\\', x], IsPrintable y := by
    simp only [List.forall_mem_cons]
    exact ⟨by decide, hx, fun _ h => by cases h⟩
  unfold escapedChar
  split_ifs with hquote hfeed hreturn htab hback hform hplain hunit
  · refine hshort c ?_
    rcases hquote with rfl | rfl <;> decide
  · exact hshort 'n' (by decide)
  · exact hshort 'r' (by decide)
  · exact hshort 't' (by decide)
  · exact hshort 'b' (by decide)
  · exact hshort 'f' (by decide)
  · exact fun x hx => List.mem_singleton.mp hx ▸ hplain
  · exact isPrintable_unitEscape _
  · exact List.forall_mem_append.mpr ⟨isPrintable_unitEscape _, isPrintable_unitEscape _⟩

/-- A written character is read as itself. -/
theorem readChars_escapedChar (c : Char) (fuel : ℕ) (done rest : List Char) :
    readChars (fuel + 1) done (escapedChar c ++ rest) = readChars fuel (c :: done) rest := by
  have hshort {x d : Char} (hx : x ≠ 'u') (hd : shortEscape? x = some d) :
      readChars (fuel + 1) done ('\\' :: x :: rest) = readChars fuel (d :: done) rest := by
    rw [readChars, hd]
    exact hx
  have hcode {n : ℕ} (h : c.toNat = n) : c = Char.ofNat n := by rw [← h, Char.ofNat_toNat]
  unfold escapedChar
  split_ifs with hquote hfeed hreturn htab hback hform hplain hunit
  · rcases hquote with rfl | rfl
    · exact hshort (by decide) rfl
    · exact hshort (by decide) rfl
  · exact hfeed ▸ hshort (by decide) rfl
  · exact hreturn ▸ hshort (by decide) rfl
  · exact htab ▸ hshort (by decide) rfl
  · exact hcode hback ▸ hshort (by decide) rfl
  · exact hcode hform ▸ hshort (by decide) rfl
  · obtain ⟨hnoquote, hnoslash⟩ := not_or.mp hquote
    rw [List.singleton_append, readChars, if_neg (by omega)]
    · exact hnoquote
    · exact fun _ h _ => hnoslash h
    · exact fun _ _ h _ => hnoslash h
  · rw [readChars_unit (by omega), joinUnit_char]
  · have hranges := toNat_ranges c
    have hcode : 0x10000 + (c.toNat - 0x10000) / 0x400 * 0x400 + (c.toNat - 0x10000) % 0x400 =
        c.toNat := by omega
    rw [List.append_assoc, readChars_unit (by omega), joinUnit_pair (by omega) (by omega), hcode,
      Char.ofNat_toNat]

theorem readChars_escaped (cs : List Char) {fuel : ℕ} (hfuel : cs.length < fuel)
    (done rest : List Char) :
    readChars fuel done (cs.flatMap escapedChar ++ '"' :: rest) =
      some (String.ofList (done.reverse ++ cs), rest) := by
  induction cs generalizing fuel done with
  | nil =>
    obtain ⟨fuel, rfl⟩ := Nat.exists_eq_succ_of_ne_zero (Nat.ne_of_gt hfuel)
    rw [List.append_nil]
    rfl
  | cons c cs ih =>
    obtain ⟨fuel, rfl⟩ := Nat.exists_eq_succ_of_ne_zero (Nat.ne_of_gt (Nat.zero_lt_of_lt hfuel))
    rw [List.flatMap_cons, List.append_assoc, readChars_escapedChar,
      ih (Nat.lt_of_succ_lt_succ hfuel), List.reverse_cons, List.append_assoc,
      List.singleton_append]

end AlertDelivery.Json
