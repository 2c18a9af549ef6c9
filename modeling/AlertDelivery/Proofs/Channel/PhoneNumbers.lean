import AlertDelivery.Proofs.Channel.Mishaps
import Mathlib.Data.List.TakeWhile

/-!
# Phone numbers

What the gateway for short messages is asked to dial. E.164 has a plus sign and
seven to fifteen ASCII digits, the first of them not zero. The check before a
request takes the decimal digits of every script for digits and lets a line
feed follow, so it lets through more than these.
-/

namespace AlertDelivery.Channel

-- ---------------------------------------------------------------------------
-- Numbers
-- ---------------------------------------------------------------------------

def IsNumber (digit : Char → Bool) (cs : List Char) : Prop :=
  ∃ first rest, cs = '+' :: first :: rest ∧ '1' ≤ first ∧ first ≤ '9' ∧
    6 ≤ rest.length ∧ rest.length ≤ 14 ∧ ∀ c ∈ rest, digit c = true

variable {s : String} {cs ending : List Char} {c : Char} {config : Fields} {m : Message}

theorem IsNumber.imp {digit digit' : Char → Bool}
    (h : ∀ c ∈ cs, digit c = true → digit' c = true) (hn : IsNumber digit cs) :
    IsNumber digit' cs := by
  obtain ⟨first, rest, rfl, hlow, hhigh, hmin, hmax, hdigits⟩ := hn
  refine ⟨first, rest, rfl, hlow, hhigh, hmin, hmax, fun c hc => ?_⟩
  exact h c (List.mem_cons_of_mem _ (List.mem_cons_of_mem _ hc)) (hdigits c hc)

theorem IsNumber.plain (h : IsNumber Text.isPlainDigit cs) :
    ∀ c ∈ cs, c = '+' ∨ Text.isPlainDigit c = true := by
  obtain ⟨first, rest, rfl, hlow, hhigh, -, -, hdigits⟩ := h
  have hzero : '0' ≤ first := Char.le_trans (by decide) hlow
  simp only [List.mem_cons]
  rintro c (rfl | rfl | hc)
  · exact .inl rfl
  · exact .inr (by simp [Text.isPlainDigit, hzero, hhigh])
  · exact .inr (hdigits c hc)

end AlertDelivery.Channel
