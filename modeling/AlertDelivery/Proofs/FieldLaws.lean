import AlertDelivery.Value
import Mathlib.Data.List.Nodup

/-!
# Fields of a record

Writing and erasing a field changes what stands under its key and nothing
else. A record whose keys are distinct is known by what stands under each
of them.
-/

namespace AlertDelivery.Fields

variable {fields : Fields} {key k : String} {value v : Value}

theorem get?_cons (rest : Fields) (key k : String) (value : Value) :
    get? ((key, value) :: rest) k = if key = k then some value else get? rest k := by
  by_cases h : key = k <;> simp [get?, h]

theorem put_cons (rest : Fields) (k key : String) (v value : Value) :
    put ((k, v) :: rest) key value =
      if k = key then (key, value) :: rest else (k, v) :: put rest key value := by
  by_cases h : k = key <;> simp [put, h]

theorem get?_put (fields : Fields) (key k : String) (value : Value) :
    get? (put fields key value) k = if key = k then some value else get? fields k := by
  induction fields with
  | nil => exact get?_cons [] key k value
  | cons field rest ih =>
    obtain ⟨k', v⟩ := field
    rw [put_cons]
    by_cases hk : k' = key
    · subst hk
      rw [if_pos rfl, get?_cons, get?_cons]
      split <;> rfl
    · rw [if_neg hk, get?_cons, get?_cons, ih]
      by_cases h : k' = k
      · have hne : key ≠ k := fun he => hk (h.trans he.symm)
        rw [if_pos h, if_pos h, if_neg hne]
      · rw [if_neg h, if_neg h]

theorem get?_erase (fields : Fields) (key k : String) :
    get? (erase fields key) k = if key = k then none else get? fields k := by
  induction fields with
  | nil => split <;> rfl
  | cons field rest ih =>
    obtain ⟨k', v⟩ := field
    by_cases hk : k' = key
    · have herase : erase ((k', v) :: rest) key = erase rest key := by simp [erase, hk]
      rw [herase, ih, get?_cons, hk]
      by_cases h : key = k
      · rw [if_pos h, if_pos h]
      · rw [if_neg h, if_neg h, if_neg h]
    · have herase : erase ((k', v) :: rest) key = (k', v) :: erase rest key := by
        simp [erase, hk]
      rw [herase, get?_cons, get?_cons, ih]
      by_cases h : k' = k
      · have hne : key ≠ k := fun he => hk (h.trans he.symm)
        rw [if_pos h, if_neg hne, if_pos h]
      · rw [if_neg h, if_neg h]

theorem get?_map (fields : Fields) {g : String × Value → String × Value} (hg : ∀ p, (g p).1 = p.1)
    (k : String) : get? (fields.map g) k = (get? fields k).map fun v => (g (k, v)).2 := by
  induction fields with
  | nil => rfl
  | cons field rest ih =>
    obtain ⟨key, value⟩ := field
    have hfield : g (key, value) = (key, (g (key, value)).2) := Prod.ext (hg _) rfl
    rw [List.map_cons, hfield, get?_cons, get?_cons, ih]
    split
    next heq => rw [heq, Option.map_some]
    · rfl

theorem keys_map (fields : Fields) {g : String × Value → String × Value}
    (hg : ∀ p, (g p).1 = p.1) : keys (fields.map g) = keys fields := by
  simp only [keys, List.map_map, Function.comp_def, hg]

theorem mem_of_get? (h : get? fields k = some v) : (k, v) ∈ fields := by
  obtain ⟨p, hp, rfl⟩ := Option.map_eq_some_iff.mp h
  have hk : p.1 = k := by simpa using List.find?_some hp
  exact hk ▸ List.mem_of_find?_eq_some hp

theorem get?_of_mem (hd : fields.keys.Nodup) (h : (k, v) ∈ fields) : get? fields k = some v := by
  induction fields with
  | nil => cases h
  | cons field rest ih =>
    obtain ⟨k', v'⟩ := field
    obtain ⟨hnew, hrest⟩ := List.nodup_cons.mp hd
    rw [get?_cons]
    rcases List.mem_cons.mp h with heq | hmem
    · cases heq
      rw [if_pos rfl]
    · have hne : k' ≠ k := by
        rintro rfl
        exact hnew (List.mem_map.mpr ⟨_, hmem, rfl⟩)
      rw [if_neg hne]
      exact ih hrest hmem

theorem put_self (h : get? fields key = some value) : put fields key value = fields := by
  induction fields with
  | nil => cases h
  | cons field rest ih =>
    obtain ⟨k, v⟩ := field
    rw [get?_cons] at h
    rw [put_cons]
    by_cases hk : k = key
    · rw [if_pos hk] at h ⊢
      cases h
      rw [hk]
    · rw [if_neg hk] at h ⊢
      rw [ih h]

theorem erase_self (h : get? fields key = none) : erase fields key = fields := by
  have hnone := List.find?_eq_none.mp (Option.map_eq_none_iff.mp h)
  exact List.filter_eq_self.mpr fun p hp => by simpa using hnone p hp

theorem mem_put {p : String × Value} (h : p ∈ put fields key value) :
    p = (key, value) ∨ p ∈ fields := by
  induction fields with
  | nil => exact .inl (List.mem_singleton.mp h)
  | cons field rest ih =>
    obtain ⟨k, v⟩ := field
    rw [put_cons] at h
    split at h
    · rcases List.mem_cons.mp h with h | h
      · exact .inl h
      · exact .inr (List.mem_cons_of_mem _ h)
    · rcases List.mem_cons.mp h with h | h
      · exact .inr (h ▸ List.mem_cons_self)
      · exact (ih h).imp_right (List.mem_cons_of_mem _)

theorem nodup_put (h : fields.keys.Nodup) (key : String) (value : Value) :
    (put fields key value).keys.Nodup := by
  induction fields with
  | nil => exact List.nodup_singleton key
  | cons field rest ih =>
    obtain ⟨k, v⟩ := field
    obtain ⟨hnew, hrest⟩ := List.nodup_cons.mp h
    rw [put_cons]
    split
    next hk => exact hk ▸ h
    next hk =>
      refine List.nodup_cons.mpr ⟨fun hmem => ?_, ih hrest⟩
      obtain ⟨p, hp, hpk⟩ := List.mem_map.mp hmem
      rcases mem_put hp with rfl | hp
      · exact hk hpk.symm
      · exact hnew (List.mem_map.mpr ⟨p, hp, hpk⟩)

theorem nodup_erase (h : fields.keys.Nodup) (key : String) : (erase fields key).keys.Nodup :=
  h.sublist (List.filter_sublist.map _)

theorem keys_put (fields : Fields) (key : String) (value : Value) :
    (put fields key value).keys =
      if key ∈ fields.keys then fields.keys else fields.keys ++ [key] := by
  induction fields with
  | nil => rfl
  | cons field rest ih =>
    obtain ⟨k, v⟩ := field
    rw [put_cons]
    by_cases hk : k = key
    · rw [if_pos hk, if_pos (hk ▸ List.mem_cons_self)]
      simp [keys, hk]
    · have hmem : key ∈ keys ((k, v) :: rest) ↔ key ∈ keys rest := by
        simp [keys, Ne.symm hk]
      rw [if_neg hk, keys, List.map_cons, ← keys, ih]
      by_cases hrest : key ∈ keys rest
      · rw [if_pos hrest, if_pos (hmem.mpr hrest)]
        rfl
      · rw [if_neg hrest, if_neg (mt hmem.mp hrest)]
        rfl

theorem keys_erase (fields : Fields) (key : String) :
    (erase fields key).keys = fields.keys.filter (· != key) := by
  simp only [erase, keys, List.filter_map, Function.comp_def]

-- ---------------------------------------------------------------------------
-- A field set or cleared
-- ---------------------------------------------------------------------------

def write (fields : Fields) (key : String) : Option Value → Fields
  | some value => fields.put key value
  | none => fields.erase key

theorem get?_write (fields : Fields) (key k : String) (o : Option Value) :
    get? (write fields key o) k = if key = k then o else get? fields k := by
  cases o with
  | some value => exact get?_put fields key k value
  | none => exact get?_erase fields key k

theorem write_get? (fields : Fields) (key : String) :
    write fields key (get? fields key) = fields := by
  cases h : get? fields key with
  | some value => exact put_self h
  | none => exact erase_self h

theorem nodup_write (h : fields.keys.Nodup) (key : String) (o : Option Value) :
    (write fields key o).keys.Nodup := by
  cases o with
  | some value => exact nodup_put h key value
  | none => exact nodup_erase h key

theorem mem_write {p : String × Value} {o : Option Value} (h : p ∈ write fields key o) :
    o = some p.2 ∨ p ∈ fields := by
  cases o with
  | some value => exact (mem_put h).imp_left fun hp => by rw [hp]
  | none => exact .inr (List.mem_of_mem_filter h)

-- ---------------------------------------------------------------------------
-- Records that hold the same
-- ---------------------------------------------------------------------------

theorem get?_eq_none_iff : get? fields k = none ↔ k ∉ fields.keys := by
  rw [get?, Option.map_eq_none_iff, List.find?_eq_none, keys, List.mem_map]
  exact ⟨fun h ⟨p, hp, hk⟩ => h p hp (by simp [hk]), fun h p hp hk => h ⟨p, hp, by simpa using hk⟩⟩

theorem mem_iff_get? (hd : fields.keys.Nodup) : (k, v) ∈ fields ↔ get? fields k = some v :=
  ⟨get?_of_mem hd, mem_of_get?⟩

/-- Records with the same under every key have the same fields. -/
theorem perm_of_get? {newer : Fields} (hd : fields.keys.Nodup) (hd' : newer.keys.Nodup)
    (h : ∀ k, get? fields k = get? newer k) : fields.Perm newer := by
  refine (List.perm_ext_iff_of_nodup hd.of_map hd'.of_map).mpr fun p => ?_
  rw [mem_iff_get? hd, mem_iff_get? hd', h]

theorem eq_of_get? {newer : Fields} (hd : fields.keys.Nodup) (hkeys : fields.keys = newer.keys)
    (h : ∀ k, get? fields k = get? newer k) : fields = newer := by
  induction fields generalizing newer with
  | nil => exact (List.map_eq_nil_iff.mp hkeys.symm).symm
  | cons field rest ih =>
    obtain ⟨key, value⟩ := field
    cases newer with
    | nil => cases hkeys
    | cons field' rest' =>
      obtain ⟨key', value'⟩ := field'
      obtain ⟨hkey, hrest⟩ := List.cons.inj hkeys
      obtain rfl : key = key' := hkey
      obtain ⟨hnew, hdistinct⟩ := List.nodup_cons.mp hd
      have hvalue := h key
      rw [get?_cons, get?_cons, if_pos rfl, if_pos rfl] at hvalue
      cases hvalue
      rw [ih hdistinct hrest fun k => ?_]
      by_cases hk : key = k
      · subst hk
        have hnew' : key ∉ keys rest' := fun hmem => hnew (hrest ▸ hmem)
        rw [get?_eq_none_iff.mpr hnew, get?_eq_none_iff.mpr hnew']
      · have hother := h k
        rwa [get?_cons, get?_cons, if_neg hk, if_neg hk] at hother

-- ---------------------------------------------------------------------------
-- Fields picked by their keys
-- ---------------------------------------------------------------------------

def pick (picked : List String) (f : String → Option Value) : Fields :=
  picked.filterMap fun key => (f key).map fun v => (key, v)

theorem keys_pick_sublist (picked : List String) (f : String → Option Value) :
    (pick picked f).keys.Sublist picked := by
  induction picked with
  | nil => exact List.Sublist.slnil
  | cons key picked ih =>
    cases hf : f key with
    | none =>
      have hskip : pick (key :: picked) f = pick picked f := by simp [pick, hf]
      exact hskip ▸ ih.cons key
    | some v =>
      have htake : pick (key :: picked) f = (key, v) :: pick picked f := by simp [pick, hf]
      exact htake ▸ ih.cons_cons key

theorem mem_pick {picked : List String} {f : String → Option Value} :
    (k, v) ∈ pick picked f ↔ k ∈ picked ∧ f k = some v := by
  simp only [pick, List.mem_filterMap, Option.map_eq_some_iff, Prod.mk.injEq]
  constructor
  · rintro ⟨_, hmem, _, hf, rfl, rfl⟩
    exact ⟨hmem, hf⟩
  · exact fun ⟨hmem, hf⟩ => ⟨k, hmem, v, hf, rfl, rfl⟩

-- ---------------------------------------------------------------------------
-- Newer fields over older ones
-- ---------------------------------------------------------------------------

theorem get?_overlay {newer : Fields} (hd : newer.keys.Nodup) (fields : Fields) (k : String) :
    get? (overlay fields newer) k = (get? newer k).or (get? fields k) := by
  induction newer generalizing fields with
  | nil => rfl
  | cons field rest ih =>
    obtain ⟨key, value⟩ := field
    obtain ⟨hnew, hrest⟩ := List.nodup_cons.mp hd
    have hstep : overlay fields ((key, value) :: rest) = overlay (put fields key value) rest := rfl
    rw [hstep, ih hrest, get?_cons, get?_put]
    by_cases hk : key = k
    · subst hk
      rw [if_pos rfl, if_pos rfl, get?_eq_none_iff.mpr hnew]
      rfl
    · rw [if_neg hk, if_neg hk]

/-- What shows through is what only the older record has. -/
theorem get?_overlay_ne_iff {newer : Fields} (hd : newer.keys.Nodup) :
    get? (overlay fields newer) k ≠ get? newer k ↔ k ∈ fields.keys ∧ k ∉ newer.keys := by
  rw [get?_overlay hd, ← get?_eq_none_iff]
  constructor
  · intro hne
    cases hnewer : get? newer k with
    | some v => exact absurd (by rw [hnewer, Option.some_or]) hne
    | none =>
      rw [hnewer, Option.none_or] at hne
      exact ⟨not_not.mp (mt get?_eq_none_iff.mpr hne), rfl⟩
  · rintro ⟨hold, hnewer⟩
    rw [hnewer, Option.none_or]
    exact fun hnone => get?_eq_none_iff.mp hnone hold

theorem overlay_held {newer : Fields} (h : ∀ p ∈ newer, get? fields p.1 = some p.2) :
    overlay fields newer = fields := by
  induction newer with
  | nil => rfl
  | cons field rest ih =>
    obtain ⟨hfield, hrest⟩ := List.forall_mem_cons.mp h
    have hstep : overlay fields (field :: rest) = overlay (put fields field.1 field.2) rest := rfl
    rw [hstep, put_self hfield]
    exact ih hrest

theorem put_new (h : key ∉ fields.keys) (value : Value) :
    put fields key value = fields ++ [(key, value)] := by
  induction fields with
  | nil => rfl
  | cons field rest ih =>
    obtain ⟨k, v⟩ := field
    obtain ⟨hk, hrest⟩ := not_or.mp (mt List.mem_cons.mpr h)
    rw [put_cons, if_neg (Ne.symm hk), ih hrest, List.cons_append]

theorem overlay_new {newer : Fields} (h : (fields ++ newer).keys.Nodup) :
    overlay fields newer = fields ++ newer := by
  induction newer generalizing fields with
  | nil => exact (List.append_nil fields).symm
  | cons field rest ih =>
    obtain ⟨key, value⟩ := field
    have hstep : overlay fields ((key, value) :: rest) = overlay (put fields key value) rest := rfl
    have happend : fields ++ (key, value) :: rest = fields ++ [(key, value)] ++ rest := by
      rw [List.append_assoc, List.singleton_append]
    have hnew : key ∉ fields.keys := by
      rw [keys, List.map_append] at h
      exact fun hmem => (List.nodup_append.mp h).2.2 key hmem key List.mem_cons_self rfl
    rw [happend] at h ⊢
    rw [hstep, put_new hnew, ih h]

theorem overlay_again {newer : Fields} (hd : newer.keys.Nodup) (fields : Fields) :
    overlay (overlay fields newer) newer = overlay fields newer :=
  overlay_held fun p hp => by rw [get?_overlay hd, get?_of_mem hd hp, Option.some_or]

end AlertDelivery.Fields
