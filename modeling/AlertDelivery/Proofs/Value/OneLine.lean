import AlertDelivery.Proofs.Value.Escapes
import AlertDelivery.Proofs.Value.NumberText

/-!
# Values on one line

Whatever a value holds, its text is one line of printable ASCII: no character
of a text goes into it as it is unless it is printable itself, and numbers are
digits with a few signs.
-/

namespace AlertDelivery.Json

open Decimal (Digits zeros plainLayout exponentText)

/-- Printable ASCII throughout, and so no line break and no control character. -/
def IsLine (s : String) : Prop := ∀ c ∈ s.toList, IsPrintable c

variable {s t : String} {cs : List Char} {q : ℚ}

instance (s : String) : Decidable (IsLine s) := List.decidableBAll IsPrintable s.toList

theorem IsLine.append (hs : IsLine s) (ht : IsLine t) : IsLine (s ++ t) := by
  unfold IsLine
  rw [String.toList_append]
  exact List.forall_mem_append.mpr ⟨hs, ht⟩

theorem isLine_ofList (h : ∀ c ∈ cs, IsPrintable c) : IsLine (String.ofList cs) := by
  unfold IsLine
  rwa [String.toList_ofList]

theorem isLine_intercalate (h : ∀ s ∈ texts, IsLine s) : IsLine (", ".intercalate texts) := by
  induction texts with
  | nil => decide
  | cons s texts ih =>
    obtain ⟨hs, htexts⟩ := List.forall_mem_cons.mp h
    cases texts with
    | nil => rwa [String.intercalate_singleton]
    | cons t texts =>
      rw [String.intercalate_cons_cons]
      exact (hs.append (by decide)).append (ih htexts)

-- ---------------------------------------------------------------------------
-- Numbers
-- ---------------------------------------------------------------------------

theorem isPrintable_of_digit {c : Char} (h : Text.isPlainDigit c = true) : IsPrintable c := by
  have hcode := Char.isDigit_iff_toNat.mp h
  have hzero : '0'.toNat = 48 := rfl
  have hnine : '9'.toNat = 57 := rfl
  unfold IsPrintable
  omega

theorem isLine_toString (n : ℕ) : IsLine (toString n) :=
  fun c hc => isPrintable_of_digit (Numeral.isPlainDigit_toString n c hc)

theorem isPrintable_ofScaled (n : ℕ) (scale : ℤ) :
    ∀ c ∈ (Digits.ofScaled n scale).digits, IsPrintable c := by
  have hkept : ∀ c ∈ (toString n).toList.rdropWhile (· == '0'), IsPrintable c :=
    fun c hc => isLine_toString n c ((List.rdropWhile_prefix _ _).subset hc)
  unfold Digits.ofScaled
  dsimp only
  split
  · exact List.forall_mem_singleton.mpr (by decide)
  · exact hkept

theorem isPrintable_search (q : ℚ) (range : ℚ × ℚ × Bool) (first : ℤ) (fuel count : ℕ) :
    ∀ c ∈ (Decimal.search q range first fuel count).digits, IsPrintable c := by
  induction fuel generalizing count with
  | zero => exact isPrintable_ofScaled _ _
  | succ fuel ih =>
    rw [Decimal.search]
    split
    · exact isPrintable_ofScaled _ _
    · exact ih (count + 1)

theorem isPrintable_zeros (n : ℕ) : ∀ c ∈ zeros n, IsPrintable c :=
  fun c hc => by rw [List.eq_of_mem_replicate hc]; decide

theorem isLine_exponentText (e : ℤ) : IsLine (exponentText e) := by
  unfold exponentText
  refine IsLine.append ?_ ?_
  · split <;> decide
  · split
    · exact IsLine.append (by decide) (isLine_toString _)
    · exact isLine_toString _

theorem isLine_render {d : Digits} (h : ∀ c ∈ d.digits, IsPrintable c) :
    IsLine (plainLayout.render d) := by
  have hpoint : IsPrintable '.' := by decide
  have htake (n : ℕ) : ∀ c ∈ d.digits.take n, IsPrintable c :=
    fun c hc => h c (List.mem_of_mem_take hc)
  have hdrop (n : ℕ) : ∀ c ∈ '.' :: d.digits.drop n, IsPrintable c :=
    List.forall_mem_cons.mpr ⟨hpoint, fun c hc => h c (List.mem_of_mem_drop hc)⟩
  unfold Decimal.Layout.render
  dsimp only
  split
  · split_ifs with hlow hshort
    · refine isLine_ofList (List.forall_mem_append.mpr ⟨?_, h⟩)
      exact List.forall_mem_cons.mpr
        ⟨by decide, List.forall_mem_cons.mpr ⟨hpoint, isPrintable_zeros _⟩⟩
    · exact (isLine_ofList (List.forall_mem_append.mpr ⟨h, isPrintable_zeros _⟩)).append
        (by decide)
    · exact isLine_ofList (List.forall_mem_append.mpr ⟨htake _, hdrop _⟩)
  · refine (isLine_ofList (List.forall_mem_append.mpr ⟨htake 1, ?_⟩)).append
      (isLine_exponentText _)
    split
    · exact fun _ hc => by cases hc
    · exact hdrop 1

theorem isLine_writeReal (x : Binary64) : IsLine (writeReal x) := by
  have hsize (q : ℚ) : IsLine (plainLayout.render (Decimal.shortest q)) :=
    isLine_render (isPrintable_search _ _ _ _ _)
  cases x with
  | finite q =>
    rw [writeReal_finite]
    split_ifs
    · decide
    · exact IsLine.append (by decide) (hsize _)
    · exact hsize _
  | negZero | posInf | negInf | nan => decide

theorem isLine_int (i : ℤ) : IsLine (toString i) := by
  cases i with
  | ofNat n => exact isLine_toString n
  | negSucc n => exact IsLine.append (by decide) (isLine_toString (n + 1))

-- ---------------------------------------------------------------------------
-- Values
-- ---------------------------------------------------------------------------

theorem isLine_writeText (s : String) : IsLine (writeText s) := by
  have hquote : ∀ c ∈ ['"'], IsPrintable c := List.forall_mem_singleton.mpr (by decide)
  have hchars : ∀ c ∈ s.toList.flatMap escapedChar, IsPrintable c := fun c hc => by
    obtain ⟨d, -, hd⟩ := List.mem_flatMap.mp hc
    exact isPrintable_escapedChar d c hd
  exact isLine_ofList
    (List.forall_mem_append.mpr ⟨List.forall_mem_cons.mpr ⟨by decide, hchars⟩, hquote⟩)

mutual
theorem isLine_write (v : Value) : IsLine (write v) := by
  cases v with
  | null => decide
  | bool b => cases b <;> decide
  | int i => exact isLine_int i
  | real x => exact isLine_writeReal x
  | text s => exact isLine_writeText s
  | list items =>
    exact (IsLine.append (by decide) (isLine_intercalate (isLine_writeItems items))).append
      (by decide)
  | record fields =>
    exact (IsLine.append (by decide) (isLine_intercalate (isLine_writeFields fields))).append
      (by decide)
theorem isLine_writeItems (items : List Value) : ∀ s ∈ writeItems items, IsLine s := by
  cases items with
  | nil => exact fun _ h => by cases h
  | cons v items => exact List.forall_mem_cons.mpr ⟨isLine_write v, isLine_writeItems items⟩
theorem isLine_writeFields (fields : List (String × Value)) :
    ∀ s ∈ writeFields fields, IsLine s := by
  cases fields with
  | nil => exact fun _ h => by cases h
  | cons field fields =>
    obtain ⟨k, v⟩ := field
    refine List.forall_mem_cons.mpr ⟨?_, isLine_writeFields fields⟩
    exact ((isLine_writeText k).append (by decide)).append (isLine_write v)
end

end AlertDelivery.Json
