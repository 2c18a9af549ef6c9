import AlertDelivery.Policy
import AlertDelivery.Proofs.ExceptLaws
import Mathlib.Data.List.Nodup

/-!
# Overlays of a policy

A stored setting is for one field of the policy. It gives a value to that
field if its text stands for one that the field admits, and does nothing
otherwise; whether it does is for the setting alone to say, since the other
fields of an admissible policy are admitted already. So the overlay of an
admissible policy is known field by field, and the order of the settings is
of no account.
-/

namespace AlertDelivery.Policy

-- ---------------------------------------------------------------------------
-- Fields
-- ---------------------------------------------------------------------------

def Key.setting (key : Key) : String := settingStart ++ key.name

def Key.Field : Key → Type
  | .retryMax | .batchSize | .ratePerMinute => Int
  | .backoff => Backoff
  | .queueWorkers | .sendTimeout => Number

def Key.Admits : (key : Key) → key.Field → Prop
  | .retryMax, (n : Int) | .batchSize, (n : Int) => 1 ≤ n
  | .queueWorkers, (slots : Number) => slots.ltInt 1 = false
  | .ratePerMinute, (n : Int) => 0 ≤ n
  | .backoff, _ => True
  | .sendTimeout, (timeout : Number) => timeout.leInt 0 = false

def Key.parse : (key : Key) → String → Except Fault key.Field
  | .retryMax, raw | .batchSize, raw | .ratePerMinute, raw => (Value.text raw).toInt
  | .queueWorkers, raw => (Value.text raw).toInt.map Number.whole
  | .backoff, raw => Backoff.read (.text raw)
  | .sendTimeout, raw => match Numeral.readReal? raw with
    | some x => .ok (Number.real x)
    | none => .error (.badValue ("could not convert string to float: " ++ Text.quoted raw))

def field (p : Policy) : (key : Key) → key.Field
  | .retryMax => p.maxRetries
  | .queueWorkers => p.queueWorkers
  | .batchSize => p.batchSize
  | .ratePerMinute => p.ratePerMinute
  | .backoff => p.backoff
  | .sendTimeout => p.sendTimeout

def assign (p : Policy) : (key : Key) → key.Field → Policy
  | .retryMax, n => { p with maxRetries := n }
  | .queueWorkers, n => { p with queueWorkers := n }
  | .batchSize, n => { p with batchSize := n }
  | .ratePerMinute, n => { p with ratePerMinute := n }
  | .backoff, strategy => { p with backoff := strategy }
  | .sendTimeout, timeout => { p with sendTimeout := timeout }

def Admissible (p : Policy) : Prop := ∀ key : Key, key.Admits (p.field key)

variable {p q base : Policy} {key other : Key} {v : key.Field} {raw : String} {fault : Fault}
  {x : String × Option String} {stored : List (String × Option String)}

theorem eq_of_field (h : ∀ key, p.field key = q.field key) : p = q := by
  obtain ⟨_, _, _, _, _, _⟩ := p
  obtain ⟨_, _, _, _, _, _⟩ := q
  cases h .retryMax
  cases h .queueWorkers
  cases h .batchSize
  cases h .ratePerMinute
  cases h .backoff
  cases h .sendTimeout
  rfl

theorem field_assign (p : Policy) (key : Key) (v : key.Field) : (p.assign key v).field key = v := by
  cases key <;> rfl

theorem field_assign_ne (h : other ≠ key) (p : Policy) (v : key.Field) :
    (p.assign key v).field other = p.field other := by
  cases key <;> cases other <;> first | rfl | exact absurd rfl h

theorem Admissible.assign (hp : p.Admissible) (hv : key.Admits v) :
    (p.assign key v).Admissible := by
  intro other
  by_cases h : other = key
  · subst h
    rwa [field_assign]
  · rw [field_assign_ne h]
    exact hp other

theorem admissible_iff : p.Admissible ↔ 1 ≤ p.maxRetries ∧ p.queueWorkers.ltInt 1 = false ∧
    1 ≤ p.batchSize ∧ 0 ≤ p.ratePerMinute ∧ p.sendTimeout.leInt 0 = false := by
  constructor
  · intro h
    exact ⟨h .retryMax, h .queueWorkers, h .batchSize, h .ratePerMinute, h .sendTimeout⟩
  · rintro ⟨hretries, hworkers, hbatch, hrate, htimeout⟩ key
    cases key with
    | retryMax => exact hretries
    | queueWorkers => exact hworkers
    | batchSize => exact hbatch
    | ratePerMinute => exact hrate
    | backoff => trivial
    | sendTimeout => exact htimeout

theorem check_ok_iff : p.check = .ok q ↔ p.Admissible ∧ p = q := by
  rw [admissible_iff]
  unfold check
  split_ifs with hretries hworkers hbatch hrate htimeout
  · simp [Int.not_le.mpr hretries]
  · simp [hworkers]
  · simp [Int.not_le.mpr hbatch]
  · simp [Int.not_le.mpr hrate]
  · simp [htimeout]
  · simp [Int.not_lt.mp hretries, hworkers, Int.not_lt.mp hbatch, Int.not_lt.mp hrate, htimeout]

theorem set_eq (p : Policy) (key : Key) (raw : String) :
    p.set key raw = (key.parse (Text.trim raw)).map (p.assign key) := by
  cases key with
  | queueWorkers =>
    unfold set Key.parse
    dsimp only
    cases (Value.text (Text.trim raw)).toInt <;> rfl
  | sendTimeout =>
    unfold set Key.parse
    dsimp only
    cases Numeral.readReal? (Text.trim raw) <;> rfl
  | _ => rfl

theorem Key.ofSetting?_eq_some_iff {setting : String} :
    Key.ofSetting? setting = some key ↔ setting = key.setting := by
  have hdistinct : ∀ k ∈ Key.all, ∀ k' ∈ Key.all, k.setting = k'.setting → k = k' := by decide
  have hall (k : Key) : k ∈ Key.all := by cases k <;> decide
  constructor
  · intro h
    simpa [Key.setting] using List.find?_some h
  · rintro rfl
    cases hfound : Key.ofSetting? key.setting with
    | none => simpa [Key.setting] using List.find?_eq_none.mp hfound key (hall key)
    | some k =>
      have hk : key.setting = k.setting := by simpa [Key.setting] using List.find?_some hfound
      rw [hdistinct key (hall key) k (hall k) hk]

-- ---------------------------------------------------------------------------
-- Faults
-- ---------------------------------------------------------------------------

theorem Key.parse_error (h : key.parse raw = .error fault) :
    ∃ problem, fault = Fault.badValue problem := by
  have hcount (he : (Value.text raw).toInt = .error fault) :
      ∃ problem, fault = Fault.badValue problem := by
    simp only [Value.toInt] at he
    split at he
    · cases he
    next refusal _ =>
      cases he
      cases refusal <;> exact ⟨_, rfl⟩
  cases key with
  | retryMax | batchSize | ratePerMinute => exact hcount h
  | queueWorkers => exact hcount (map_error.mp h)
  | backoff =>
    simp only [parse, Backoff.read] at h
    split_ifs at h
    cases h
    exact ⟨_, rfl⟩
  | sendTimeout =>
    simp only [parse] at h
    split at h
    · cases h
    · cases h
      exact ⟨_, rfl⟩

theorem check_error (h : p.check = .error fault) : ∃ problem, fault = Fault.badValue problem := by
  unfold check at h
  split_ifs at h
  all_goals
    cases h
    exact ⟨_, rfl⟩

theorem set_check_error (h : p.set key raw >>= check = .error fault) :
    ∃ problem, fault = Fault.badValue problem := by
  rw [set_eq] at h
  rcases bind_error.mp h with hparse | ⟨_, -, hcheck⟩
  · exact Key.parse_error (map_error.mp hparse)
  · exact check_error hcheck

/-- Overlays one stored setting as `override` does, but passes over no other
fault than a bad value. -/
def overrideOrFail (p : Policy) (setting : String) (raw : Option String) : Except Fault Policy :=
  match Key.ofSetting? setting, raw with
  | some key, some text => match p.set key text >>= check with
    | .ok q => .ok q
    | .error (.mishap .value _) => .ok p
    | .error fault => .error fault
  | _, _ => .ok p

theorem overrideOrFail_eq (p : Policy) (setting : String) (raw : Option String) :
    p.overrideOrFail setting raw = .ok (p.override setting raw) := by
  unfold overrideOrFail override
  cases Key.ofSetting? setting with
  | none => rfl
  | some key =>
    cases raw with
    | none => rfl
    | some text =>
      dsimp only
      cases hset : p.set key text >>= check with
      | ok q => rfl
      | error fault =>
        obtain ⟨problem, rfl⟩ := set_check_error hset
        rfl

theorem overlay_succeeds (base : Policy) (stored : List (String × Option String)) :
    stored.foldlM (fun p x => p.overrideOrFail x.1 x.2) base = .ok (base.overlay stored) := by
  induction stored generalizing base with
  | nil => rfl
  | cons x rest ih =>
    rw [List.foldlM_cons, overrideOrFail_eq, ok_bind]
    exact ih _

-- ---------------------------------------------------------------------------
-- One setting
-- ---------------------------------------------------------------------------

/-- A stored setting gives a value to the field of a key: it is the setting
of the key, and its text without the blanks around it stands for a value that
the field admits. -/
def Gives (x : String × Option String) (key : Key) (v : key.Field) : Prop :=
  x.1 = key.setting ∧
    ∃ raw, x.2 = some raw ∧ key.parse (Text.trim raw) = .ok v ∧ key.Admits v

theorem override_gives (hp : p.Admissible) (h : Gives x key v) :
    p.override x.1 x.2 = p.assign key v := by
  obtain ⟨hkey, raw, hraw, hparse, hv⟩ := h
  -- the check is of all fields, but the others pass it already
  have hset : p.set key raw >>= check = .ok (p.assign key v) := by
    rw [set_eq, hparse]
    exact check_ok_iff.mpr ⟨hp.assign hv, rfl⟩
  simp only [override, Key.ofSetting?_eq_some_iff.mpr hkey, hraw, hset]

theorem override_idle (h : ∀ key v, ¬Gives x key v) : p.override x.1 x.2 = p := by
  unfold override
  split
  next key raw hkey hraw =>
    split
    next q hset =>
      rw [set_eq] at hset
      obtain ⟨_, hmap, hcheck⟩ := bind_ok.mp hset
      obtain ⟨v, hparse, rfl⟩ := map_ok.mp hmap
      have hv : key.Admits v := by
        have hadmitted := (check_ok_iff.mp hcheck).1 key
        rwa [field_assign] at hadmitted
      exact absurd ⟨Key.ofSetting?_eq_some_iff.mp hkey, raw, hraw, hparse, hv⟩ (h key v)
    · rfl
  · rfl

theorem override_cases (hp : p.Admissible) (x : String × Option String) :
    p.override x.1 x.2 = p ∨ ∃ key v, Gives x key v ∧ p.override x.1 x.2 = p.assign key v := by
  by_cases h : ∃ key v, Gives x key v
  · obtain ⟨key, v, hv⟩ := h
    exact .inr ⟨key, v, hv, override_gives hp hv⟩
  · exact .inl (override_idle fun key v hv => h ⟨key, v, hv⟩)

theorem Admissible.override (hp : p.Admissible) (x : String × Option String) :
    (p.override x.1 x.2).Admissible := by
  rcases override_cases hp x with h | ⟨key, v, hv, h⟩
  · rwa [h]
  · obtain ⟨-, -, -, -, hadmits⟩ := hv
    rw [h]
    exact hp.assign hadmits

theorem field_override (hp : p.Admissible) (h : ∀ v, ¬Gives x key v) :
    (p.override x.1 x.2).field key = p.field key := by
  rcases override_cases hp x with hx | ⟨other, v, hv, hx⟩
  · rw [hx]
  · have hne : key ≠ other := by
      rintro rfl
      exact h v hv
    rw [hx, field_assign_ne hne]

-- ---------------------------------------------------------------------------
-- All settings
-- ---------------------------------------------------------------------------

theorem overlay_cons (base : Policy) (x : String × Option String)
    (stored : List (String × Option String)) :
    base.overlay (x :: stored) = (base.override x.1 x.2).overlay stored := rfl

theorem overlay_append (base : Policy) (before after : List (String × Option String)) :
    base.overlay (before ++ after) = (base.overlay before).overlay after := List.foldl_append

theorem field_overlay_base (hp : base.Admissible) (h : ∀ x ∈ stored, ∀ v, ¬Gives x key v) :
    (base.overlay stored).field key = base.field key := by
  induction stored generalizing base with
  | nil => rfl
  | cons x rest ih =>
    rw [overlay_cons, ih (hp.override x) fun y hy => h y (List.mem_cons_of_mem _ hy)]
    exact field_override hp (h x List.mem_cons_self)

theorem field_overlay_given (hp : base.Admissible) (hd : (stored.map (·.1)).Nodup)
    (hx : x ∈ stored) (h : Gives x key v) : (base.overlay stored).field key = v := by
  induction stored generalizing base with
  | nil => cases hx
  | cons y rest ih =>
    obtain ⟨hnew, hrest⟩ := List.nodup_cons.mp hd
    rw [overlay_cons]
    rcases List.mem_cons.mp hx with rfl | hx
    · -- the settings that follow have other names
      have hothers : ∀ y ∈ rest, ∀ w, ¬Gives y key w := fun y hy w hw =>
        hnew (List.mem_map.mpr ⟨y, hy, hw.1.trans h.1.symm⟩)
      rw [field_overlay_base (hp.override x) hothers, override_gives hp h, field_assign]
    · exact ih (hp.override y) hrest hx

/-- The overlay is known by which settings there are. -/
theorem overlay_congr {stored' : List (String × Option String)} (hp : base.Admissible)
    (hd : (stored.map (·.1)).Nodup) (hd' : (stored'.map (·.1)).Nodup)
    (h : ∀ x, x ∈ stored' ↔ x ∈ stored) : base.overlay stored' = base.overlay stored := by
  refine eq_of_field fun key => ?_
  -- a field has one setting at most, which is in both lists or in neither
  by_cases hgiven : ∃ x ∈ stored, ∃ v, Gives x key v
  · obtain ⟨x, hx, v, hv⟩ := hgiven
    rw [field_overlay_given hp hd hx hv, field_overlay_given hp hd' ((h x).mpr hx) hv]
  · rw [field_overlay_base hp fun x hx v hv => hgiven ⟨x, hx, v, hv⟩,
      field_overlay_base hp fun x hx v hv => hgiven ⟨x, (h x).mp hx, v, hv⟩]

theorem Admissible.overlay (hp : base.Admissible) (stored : List (String × Option String)) :
    (base.overlay stored).Admissible := by
  induction stored generalizing base with
  | nil => exact hp
  | cons x rest ih => exact ih (hp.override x)

theorem overlay_idle (h : ∀ key v, ¬Gives x key v) (base : Policy)
    (before after : List (String × Option String)) :
    base.overlay (before ++ x :: after) = base.overlay (before ++ after) := by
  rw [overlay_append, overlay_append, overlay_cons, override_idle h]

end AlertDelivery.Policy
