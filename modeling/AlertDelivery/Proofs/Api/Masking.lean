import AlertDelivery.Proofs.Api.Answers
import AlertDelivery.Proofs.Catalog.Cleaning
import Mathlib.Data.List.Forall2

/-!
# Masked configurations

A masked configuration has the fields of the configuration in their order,
each with its value or with the mask in its place. Putting the stored
values back for the masks therefore gives the configuration itself. The
mask stands for every password that is set, and it comes back as itself
where nothing is stored.
-/

namespace AlertDelivery.Api

variable {stored config acc incoming : Fields} {p q : String × Value} {key type : String}
  {d : ChannelDefinition}

/-- A field and what is shown of it: the same, or the mask in the place of
the value. -/
def Covers (p q : String × Value) : Prop := q.1 = p.1 ∧ (q.2 = p.2 ∨ q.2 = .text mask)

theorem covers_refl (config : Fields) : List.Forall₂ Covers config config :=
  List.forall₂_same.mpr fun _ _ => ⟨rfl, .inl rfl⟩

theorem covers_put (h : List.Forall₂ Covers config acc) (hkey : acc.get? key ≠ none) :
    List.Forall₂ Covers config (acc.put key (.text mask)) := by
  induction h with
  | nil => exact absurd rfl hkey
  | @cons p q config acc hpq hrest ih =>
    obtain ⟨k, v⟩ := q
    rw [Fields.get?_cons] at hkey
    rw [Fields.put_cons]
    by_cases hk : k = key
    · rw [if_pos hk]
      exact .cons ⟨hk ▸ hpq.1, .inr rfl⟩ hrest
    · rw [if_neg hk] at hkey ⊢
      exact .cons hpq (ih hkey)

theorem covers_maskField (h : List.Forall₂ Covers config acc) (f : ConfigField) :
    List.Forall₂ Covers config (maskField acc f) := by
  unfold maskField
  split
  next hset =>
    refine covers_put h fun hnone => ?_
    rw [Fields.getD, hnone] at hset
    exact absurd hset.2 (by decide)
  next => exact h

theorem covers_maskFields (h : List.Forall₂ Covers config acc) (fs : List ConfigField) :
    List.Forall₂ Covers config (fs.foldl maskField acc) := by
  induction fs generalizing acc with
  | nil => exact h
  | cons f rest ih => exact ih (covers_maskField h f)

theorem masked_covers (type : String) (config : Fields) :
    List.Forall₂ Covers config (masked type config) := by
  unfold masked
  split
  · exact covers_refl config
  · exact covers_maskFields (covers_refl config) _

theorem unmaskField_covers (hd : stored.keys.Nodup) (hp : p ∈ stored) (h : Covers p q) :
    unmaskField stored q = p := by
  obtain ⟨k, v⟩ := p
  obtain ⟨k', v'⟩ := q
  obtain ⟨rfl, hv⟩ := h
  have hold : stored.get? k' = some v := Fields.get?_of_mem hd hp
  rcases hv with rfl | rfl
  · unfold unmaskField
    dsimp only
    rw [hold]
    split <;> simp_all
  · simp only [unmaskField, hold, if_true]

theorem map_unmaskField_covers (hd : stored.keys.Nodup) {part shown : Fields}
    (h : List.Forall₂ Covers part shown) (hpart : ∀ p ∈ part, p ∈ stored) :
    shown.map (unmaskField stored) = part := by
  induction h with
  | nil => rfl
  | @cons p q part shown hpq _ ih =>
    rw [List.map_cons, unmaskField_covers hd (hpart p List.mem_cons_self) hpq,
      ih fun p' hp' => hpart p' (List.mem_cons_of_mem p hp')]

/-- What is shown of a configuration stands for all of it. -/
theorem unmasked_masked (hd : stored.keys.Nodup) (type : String) :
    unmasked stored (masked type stored) = stored :=
  map_unmaskField_covers hd (masked_covers type stored) fun _ hp => hp

theorem covers_carried {shown : Fields} (h : List.Forall₂ Covers config shown)
    (hc : areFieldsCarried config = true) : areFieldsCarried shown = true := by
  induction h with
  | nil => rfl
  | @cons p q config shown hpq _ ih =>
    rw [areFieldsCarried_iff, List.forall_mem_cons] at hc
    obtain ⟨⟨hopen, hvalue⟩, hrest⟩ := hc
    have hq : isCarried q.2 = true := by
      rcases hpq.2 with hv | hv
      · rwa [hv]
      · rw [hv]; rfl
    rw [areFieldsCarried_iff, List.forall_mem_cons, hpq.1]
    exact ⟨⟨hopen, hq⟩, areFieldsCarried_iff.mp (ih (areFieldsCarried_iff.mpr hrest))⟩

-- ---------------------------------------------------------------------------
-- What stands under a key
-- ---------------------------------------------------------------------------

theorem get?_maskField (config : Fields) (f : ConfigField) (key : String) :
    (maskField config f).get? key =
      if (f.key = key ∧ f.kind = .password) ∧ (config.getD key).truthy = true
      then some (.text mask) else config.get? key := by
  unfold maskField
  by_cases hset : f.kind = .password ∧ (config.getD f.key).truthy = true
  · rw [if_pos hset, Fields.get?_put]
    by_cases hkey : f.key = key
    · subst hkey
      rw [if_pos rfl, if_pos ⟨⟨rfl, hset.1⟩, hset.2⟩]
    · have hout : ¬((f.key = key ∧ f.kind = .password) ∧ (config.getD key).truthy = true) :=
        fun h => hkey h.1.1
      rw [if_neg hkey, if_neg hout]
  · have hout : ¬((f.key = key ∧ f.kind = .password) ∧ (config.getD key).truthy = true) := by
      rintro ⟨⟨rfl, hkind⟩, ht⟩
      exact hset ⟨hkind, ht⟩
    rw [if_neg hset, if_neg hout]

theorem get?_maskFields (fs : List ConfigField) (config : Fields) (key : String) :
    (fs.foldl maskField config).get? key =
      if (∃ f ∈ fs, f.key = key ∧ f.kind = .password) ∧ (config.getD key).truthy = true
      then some (.text mask) else config.get? key := by
  induction fs generalizing config with
  | nil => rw [if_neg fun h => absurd h.1 (by simp)]; rfl
  | cons f rest ih =>
    -- a mask counts as set, so what was masked once is masked for good
    have hset : ((maskField config f).getD key).truthy = (config.getD key).truthy := by
      rw [Fields.getD, get?_maskField]
      split
      next h => exact (show (Value.text mask).truthy = true by decide).trans h.2.symm
      next => rfl
    rw [List.foldl_cons, ih, hset, get?_maskField]
    by_cases ht : (config.getD key).truthy = true <;>
      by_cases hf : f.key = key ∧ f.kind = .password <;>
      simp [ht, hf]

theorem get?_masked (hd : Catalog.find? type = some d) (config : Fields) (key : String) :
    (masked type config).get? key =
      if d.isSecret key = true ∧ (config.getD key).truthy = true then some (.text mask)
      else config.get? key := by
  simp only [masked, hd, get?_maskFields, ChannelDefinition.isSecret_iff]

theorem keys_masked (type : String) (config : Fields) :
    (masked type config).keys = config.keys := by
  have hcovers := masked_covers type config
  generalize masked type config = shown at hcovers
  induction hcovers with
  | nil => rfl
  | cons hpq _ ih => exact congrArg₂ List.cons hpq.1 ih

theorem unmaskField_key (stored : Fields) (p : String × Value) :
    (unmaskField stored p).1 = p.1 := by
  unfold unmaskField
  split
  · split <;> rfl
  · rfl

theorem keys_unmasked (stored incoming : Fields) :
    (unmasked stored incoming).keys = incoming.keys :=
  Fields.keys_map incoming (unmaskField_key stored)

theorem unmaskField_value (stored : Fields) (key : String) (v : Value) :
    (unmaskField stored (key, v)).2 =
      if v = .text mask then (stored.get? key).getD v else v := by
  cases v with
  | text s =>
    by_cases hs : s = mask <;> cases hold : stored.get? key <;> simp [unmaskField, hold, hs]
  | _ => simp [unmaskField]

/-- A mask that comes back is what is stored there, and itself if nothing is. -/
theorem get?_unmasked (stored incoming : Fields) (key : String) :
    (unmasked stored incoming).get? key = (incoming.get? key).map fun v =>
      if v = .text mask then (stored.get? key).getD v else v := by
  rw [unmasked, Fields.get?_map incoming (unmaskField_key stored)]
  exact Option.map_congr fun v _ => unmaskField_value stored key v

end AlertDelivery.Api
