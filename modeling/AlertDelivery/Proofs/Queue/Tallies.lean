import AlertDelivery.Queue.Table
import Mathlib.Algebra.GroupWithZero.Nat
import Mathlib.Data.List.Basic
import Mathlib.Data.List.Induction
import Mathlib.Data.List.Nodup

/-!
# Tallies

A tally has one count for each key that occurs, and its counts add up to
the number of keys.
-/

namespace AlertDelivery.Queue

namespace Table

variable {counts : List (String × Nat)} {keys : List String} {key k : String} {n : Nat}

theorem tally_cons (k : String) (n : Nat) (rest : List (String × Nat)) (key : String) :
    tally ((k, n) :: rest) key = if k = key then (k, n + 1) :: rest else (k, n) :: tally rest key :=
  rfl

theorem lookup_cons (k' : String) (n : Nat) (rest : List (String × Nat)) (k : String) :
    ((k', n) :: rest).lookup k = if k = k' then some n else rest.lookup k := by
  rw [List.lookup_cons]
  by_cases hk : k = k'
  · rw [if_pos hk, beq_iff_eq.mpr hk]
  · rw [if_neg hk, beq_eq_false_iff_ne.mpr hk]

theorem lookup_tally (counts : List (String × Nat)) (key k : String) :
    (tally counts key).lookup k =
      if k = key then some ((counts.lookup k).getD 0 + 1) else counts.lookup k := by
  induction counts with
  | nil => exact lookup_cons key 1 [] k
  | cons count rest ih =>
    obtain ⟨k', n⟩ := count
    rw [tally_cons]
    by_cases hkey : k' = key
    · subst hkey
      rw [if_pos rfl, lookup_cons, lookup_cons]
      by_cases hk : k = k' <;> simp [hk]
    · rw [if_neg hkey, lookup_cons, lookup_cons, ih]
      by_cases hk : k = k'
      · simp [hk, hkey]
      · simp [hk]

theorem keys_tally (counts : List (String × Nat)) (key : String) :
    (tally counts key).map (·.1) = if key ∈ counts.map (·.1) then counts.map (·.1)
      else counts.map (·.1) ++ [key] := by
  induction counts with
  | nil => rfl
  | cons count rest ih =>
    obtain ⟨k, n⟩ := count
    rw [tally_cons]
    by_cases hk : k = key
    · simp [hk]
    · rw [if_neg hk, List.map_cons, ih, List.map_cons]
      by_cases hrest : key ∈ rest.map (·.1)
      · rw [if_pos hrest, if_pos (List.mem_cons_of_mem _ hrest)]
      · have hout : key ∉ k :: rest.map (·.1) := by
          simpa [Ne.symm hk] using hrest
        rw [if_neg hrest, if_neg hout]
        rfl

theorem countTotal_tally (counts : List (String × Nat)) (key : String) :
    countTotal (tally counts key) = countTotal counts + 1 := by
  induction counts with
  | nil => rfl
  | cons count rest ih =>
    obtain ⟨k, n⟩ := count
    rw [tally_cons]
    split
    · simp only [countTotal]
      omega
    · simp only [countTotal, ih]
      omega

theorem countTotal_eq_sum (counts : List (String × Nat)) :
    countTotal counts = (counts.map (·.2)).sum := by
  induction counts with
  | nil => rfl
  | cons count rest ih => simp [countTotal, ih]

theorem mem_iff_lookup (hd : (counts.map (·.1)).Nodup) :
    (k, n) ∈ counts ↔ counts.lookup k = some n := by
  induction counts with
  | nil => simp
  | cons count rest ih =>
    obtain ⟨k', n'⟩ := count
    obtain ⟨hnew, hrest⟩ := List.nodup_cons.mp hd
    rw [List.mem_cons, ih hrest, lookup_cons, Prod.mk.injEq]
    by_cases hk : k = k'
    · subst hk
      have hnone : rest.lookup k ≠ some n := fun h =>
        hnew (List.mem_map.mpr ⟨(k, n), (ih hrest).mpr h, rfl⟩)
      simp [hnone, eq_comm]
    · simp [hk]

theorem tallies_concat (keys : List String) (key : String) :
    tallies (keys ++ [key]) = tally (tallies keys) key := List.foldl_concat ..

theorem lookup_tallies (keys : List String) (k : String) :
    (tallies keys).lookup k = if k ∈ keys then some (keys.count k) else none := by
  induction keys using List.reverseRecOn with
  | nil => rfl
  | append_singleton keys key ih =>
    rw [tallies_concat, lookup_tally, ih, List.count_append]
    by_cases hk : k = key
    · subst hk
      by_cases hmem : k ∈ keys
      · simp [hmem]
      · simp [hmem, List.count_eq_zero_of_not_mem hmem]
    · simp [hk, Ne.symm hk]

theorem getD_lookup_tallies (keys : List String) (k : String) :
    ((tallies keys).lookup k).getD 0 = keys.count k := by
  rw [lookup_tallies]
  split
  · rfl
  next hk => exact (List.count_eq_zero_of_not_mem hk).symm

theorem tallies_nodup (keys : List String) : ((tallies keys).map (·.1)).Nodup := by
  induction keys using List.reverseRecOn with
  | nil => exact List.nodup_nil
  | append_singleton keys key ih =>
    rw [tallies_concat, keys_tally]
    split
    · exact ih
    next hnew => exact List.concat_eq_append ▸ ih.concat hnew

theorem mem_tallies : (k, n) ∈ tallies keys ↔ 0 < n ∧ n = keys.count k := by
  rw [mem_iff_lookup (tallies_nodup keys), lookup_tallies]
  by_cases hk : k ∈ keys
  · have hpos := List.count_pos_iff.mpr hk
    rw [if_pos hk, Option.some.injEq]
    omega
  · have hzero := List.count_eq_zero_of_not_mem hk
    rw [if_neg hk]
    simp only [reduceCtorEq, false_iff]
    omega

theorem countTotal_tallies (keys : List String) : countTotal (tallies keys) = keys.length := by
  induction keys using List.reverseRecOn with
  | nil => rfl
  | append_singleton keys key ih =>
    rw [tallies_concat, countTotal_tally, ih, List.length_append]
    rfl

end Table

end AlertDelivery.Queue
