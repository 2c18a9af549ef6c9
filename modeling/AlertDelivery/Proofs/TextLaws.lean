import AlertDelivery.Text
import Mathlib.Data.List.DropRight

/-!
# Trimmed texts

What trimming leaves has no character of the class at either end, and so is
left as it is by every narrower trimming.
-/

namespace AlertDelivery.Text

variable {wider narrower : Char → Bool}

theorem trimWhere_eq (drop : Char → Bool) (cs : List Char) :
    trimWhere drop cs = (cs.dropWhile drop).rdropWhile drop := rfl

theorem head_trimWhere (drop : Char → Bool) (cs : List Char) (h : trimWhere drop cs ≠ []) :
    drop ((trimWhere drop cs).head h) = false := by
  have hfront : trimWhere drop cs <+: cs.dropWhile drop := List.rdropWhile_prefix drop _
  rw [hfront.head h]
  exact List.head_dropWhile_not drop _

theorem last_trimWhere (drop : Char → Bool) (cs : List Char) (h : trimWhere drop cs ≠ []) :
    drop ((trimWhere drop cs).getLast h) = false :=
  Bool.eq_false_iff.mpr (List.rdropWhile_last_not drop (cs.dropWhile drop) h)

theorem trimWhere_of_ends {drop : Char → Bool} {cs : List Char}
    (hhead : ∀ h : cs ≠ [], drop (cs.head h) = false)
    (hlast : ∀ h : cs ≠ [], drop (cs.getLast h) = false) : trimWhere drop cs = cs := by
  have hfront : cs.dropWhile drop = cs := by
    refine List.dropWhile_eq_self_iff.mpr fun h => ?_
    rw [← List.head_eq_getElem (List.length_pos_iff.mp h), hhead]
    exact Bool.false_ne_true
  rw [trimWhere_eq, hfront, List.rdropWhile_eq_self_iff]
  intro h
  rw [hlast h]
  exact Bool.false_ne_true

theorem trimWhere_trimmed (h : ∀ c, narrower c = true → wider c = true) (cs : List Char) :
    trimWhere narrower (trimWhere wider cs) = trimWhere wider cs := by
  have hout (c : Char) (hc : wider c = false) : narrower c = false :=
    Bool.eq_false_iff.mpr fun hn => Bool.false_ne_true (hc.symm.trans (h c hn))
  exact trimWhere_of_ends (fun hne => hout _ (head_trimWhere wider cs hne))
    fun hne => hout _ (last_trimWhere wider cs hne)

theorem trimWhere_between {drop : Char → Bool} {front back : List Char}
    (hfront : ∀ c ∈ front, drop c = true) (hback : ∀ c ∈ back, drop c = true) (cs : List Char) :
    trimWhere drop (front ++ cs ++ back) = trimWhere drop cs := by
  have hnone : back.dropWhile drop = [] := List.dropWhile_eq_nil_iff.mpr hback
  have hrest : back.reverse.dropWhile drop = [] :=
    List.dropWhile_eq_nil_iff.mpr fun c hc => hback c (List.mem_reverse.mp hc)
  rw [trimWhere, List.append_assoc, List.dropWhile_append_of_pos hfront, List.dropWhile_append]
  cases h : (cs.dropWhile drop).isEmpty with
  | true => simp [trimWhere, List.isEmpty_iff.mp h, hnone]
  | false => simp [trimWhere, List.dropWhile_append, hrest]

theorem between_trimWhere (drop : Char → Bool) (cs : List Char) :
    ∃ front back, cs = front ++ trimWhere drop cs ++ back ∧
      (∀ c ∈ front, drop c = true) ∧ ∀ c ∈ back, drop c = true := by
  refine ⟨cs.takeWhile drop, (cs.dropWhile drop).rtakeWhile drop, ?_,
    fun c hc => List.mem_takeWhile_imp hc, fun c hc => List.mem_rtakeWhile_imp hc⟩
  rw [trimWhere_eq, List.append_assoc, List.rdropWhile_append_rtakeWhile,
    List.takeWhile_append_dropWhile]

theorem isBlank_of_plain {c : Char} (h : isPlainBlank c = true) : isBlank c = true := by
  simp only [isPlainBlank, Bool.or_eq_true, beq_iff_eq, Bool.and_eq_true, decide_eq_true_eq] at h
  simp only [isBlank, inRanges, blankRanges, List.any_cons, Bool.or_eq_true, Bool.and_eq_true,
    decide_eq_true_eq]
  rcases h with rfl | h
  · exact .inr (.inl (by decide))
  · exact .inl h

theorem toList_trim (s : String) : (trim s).toList = trimWhere isBlank s.toList := by
  rw [trim, String.toList_ofList]

-- ---------------------------------------------------------------------------
-- What is left of a text
-- ---------------------------------------------------------------------------

/-- A text without the blanks that stand around it: nothing else is missing,
and neither end of it is blank. -/
structure Trims (s t : String) : Prop where
  between : ∃ front back, s.toList = front ++ t.toList ++ back ∧
    (∀ c ∈ front, isBlank c = true) ∧ ∀ c ∈ back, isBlank c = true
  head : ∀ h : t.toList ≠ [], isBlank (t.toList.head h) = false
  last : ∀ h : t.toList ≠ [], isBlank (t.toList.getLast h) = false

theorem trims_iff {s t : String} : Trims s t ↔ t = trim s := by
  constructor
  · intro ⟨⟨front, back, hs, hfront, hback⟩, hhead, hlast⟩
    rw [trim, hs, trimWhere_between hfront hback, trimWhere_of_ends hhead hlast,
      String.ofList_toList]
  · rintro rfl
    constructor
    · simpa only [toList_trim] using between_trimWhere isBlank s.toList
    · simpa only [toList_trim] using head_trimWhere isBlank s.toList
    · simpa only [toList_trim] using last_trimWhere isBlank s.toList

theorem trim_eq_empty_iff {s : String} : trim s = "" ↔ ∀ c ∈ s.toList, isBlank c = true := by
  rw [trim, String.ofList_eq_empty_iff]
  constructor
  · intro h
    obtain ⟨front, back, hs, hfront, hback⟩ := between_trimWhere isBlank s.toList
    rw [h, List.append_nil] at hs
    rw [hs]
    exact fun c hc => (List.mem_append.mp hc).elim (hfront c) (hback c)
  · intro h
    have hnone : trimWhere isBlank (s.toList ++ [] ++ []) = [] := trimWhere_between h (by simp) []
    simpa using hnone

end AlertDelivery.Text
