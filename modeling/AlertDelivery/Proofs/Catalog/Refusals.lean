import AlertDelivery.Proofs.Catalog.Required

/-!
# Refused configurations

Cleaning goes through a form field by field and stops at the first field that
does not settle. What stops it is a refusal that names the field, or one of
two mishaps of the reading itself: an integer that no binary64 number is near
to, and an address that cannot be taken apart.
-/

namespace AlertDelivery

def Fault.IsRefusal (fault : Fault) (type key : String) : Prop :=
  ∃ problem, fault = .configInvalid type problem (some key)

theorem Value.toReal?_error_iff {v : Value} {fault : Fault} :
    v.toReal? = some (.error fault) ↔
      ∃ i, v = .int i ∧ Binary64.ofInt? i = none ∧ fault = Fault.tooLargeForReal := by
  cases v with
  | int i => cases h : Binary64.ofInt? i <;> simp [toReal?, h, eq_comm]
  | _ => simp [toReal?]

namespace ConfigField

/-- Why a value of a field can be neither cleaned nor refused. -/
inductive BreaksOn (f : ConfigField) : Value → Fault → Prop
  | huge (hkind : f.kind = .number) {i : Int} (hi : Binary64.ofInt? i = none) :
    BreaksOn f (.int i) Fault.tooLargeForReal
  | address (hkind : f.kind = .url) {v : Value} {problem : String}
      (hread : Web.Address.read v.plain = .error problem) : BreaksOn f v (Fault.badValue problem)

end ConfigField

namespace ChannelDefinition

variable {d : ChannelDefinition} {f : ConfigField} {fs : List ConfigField} {v w : Value}
  {fault : Fault} {config : Fields}

-- ---------------------------------------------------------------------------
-- One value
-- ---------------------------------------------------------------------------

theorem isRefusal_refuse (d : ChannelDefinition) (f : ConfigField) (problem : String) :
    (d.refuse f problem).IsRefusal d.type f.key := ⟨_, rfl⟩

theorem cleanNumber_error (hkind : f.kind = .number) (h : d.cleanNumber f v = .error fault) :
    fault.IsRefusal d.type f.key ∨ f.BreaksOn v fault := by
  unfold cleanNumber at h
  split at h
  · cases h
    exact .inl (d.isRefusal_refuse f _)
  next hv =>
    cases h
    obtain ⟨i, rfl, hi, rfl⟩ := Value.toReal?_error_iff.mp hv
    exact .inr (.huge hkind hi)
  · split at h <;> cases h

theorem cleanBoolean_error (h : d.cleanBoolean f v = .error fault) :
    fault.IsRefusal d.type f.key := by
  unfold cleanBoolean at h
  split at h
  · cases h
  · dsimp only at h
    split_ifs at h
    cases h
    exact d.isRefusal_refuse f _

theorem cleanSelect_error (h : d.cleanSelect f v = .error fault) :
    fault.IsRefusal d.type f.key := by
  unfold cleanSelect at h
  split_ifs at h
  cases h
  exact d.isRefusal_refuse f _

theorem cleanUrl_error (hkind : f.kind = .url) (h : d.cleanUrl f v = .error fault) :
    fault.IsRefusal d.type f.key ∨ f.BreaksOn v fault := by
  unfold cleanUrl at h
  split at h
  next hread =>
    cases h
    exact .inr (.address hkind hread)
  · split_ifs at h
    cases h
    exact .inl (d.isRefusal_refuse f _)

theorem cleanField_error (h : d.cleanField f v = .error fault) :
    fault.IsRefusal d.type f.key ∨ f.BreaksOn v fault := by
  cases hkind : f.kind with
  | number =>
    simp only [cleanField, hkind] at h
    exact cleanNumber_error hkind h
  | boolean =>
    simp only [cleanField, hkind] at h
    exact .inl (cleanBoolean_error h)
  | select =>
    simp only [cleanField, hkind] at h
    exact .inl (cleanSelect_error h)
  | url =>
    simp only [cleanField, hkind] at h
    exact cleanUrl_error hkind h
  | text | password => simp [cleanField, hkind] at h

theorem cleanField_of_breaksOn (h : f.BreaksOn v fault) : d.cleanField f v = .error fault := by
  cases h with
  | huge hkind hi =>
    have hread := Value.toReal?_error_iff.mpr ⟨_, rfl, hi, rfl⟩
    simp only [ChannelDefinition.cleanField, hkind, cleanNumber, hread]
  | address hkind hread =>
    simp only [ChannelDefinition.cleanField, hkind, cleanUrl, hread]

-- ---------------------------------------------------------------------------
-- One field
-- ---------------------------------------------------------------------------

theorem settle_error (h : d.settle f v = .error fault) :
    fault.IsRefusal d.type f.key ∨ ∃ s, f.source? v = some s ∧ f.BreaksOn s fault := by
  rw [settle_eq] at h
  split at h
  next s hs => exact (cleanField_error (map_error.mp h)).imp_right fun hb => ⟨s, hs, hb⟩
  · split at h
    · cases h
      exact .inl ⟨_, rfl⟩
    · cases h

theorem settle_of_breaksOn (hs : f.source? v = some w) (h : f.BreaksOn w fault) :
    d.settle f v = .error fault := by
  rw [settle_eq, hs]
  exact map_error.mpr (cleanField_of_breaksOn h)

-- ---------------------------------------------------------------------------
-- All fields
-- ---------------------------------------------------------------------------

/-- Cleaning field by field gets to a field: the ones before it settle. -/
inductive Reaches (d : ChannelDefinition) (config : Fields) (f : ConfigField) :
    List ConfigField → Prop
  | here {rest : List ConfigField} : Reaches d config f (f :: rest)
  | later {g : ConfigField} {rest : List ConfigField} {o : Option Value}
      (hg : d.settle g (config.getD g.key) = .ok o) (h : Reaches d config f rest) :
    Reaches d config f (g :: rest)

namespace Reaches

theorem mem (h : d.Reaches config f fs) : f ∈ fs := by
  induction h with
  | here => exact List.mem_cons_self
  | later _ _ ih => exact List.mem_cons_of_mem _ ih

theorem congr {other : Fields} (h : d.Reaches config f fs)
    (hsame : ∀ g ∈ fs, config.getD g.key = other.getD g.key) : d.Reaches other f fs := by
  induction h with
  | here => exact .here
  | later hg _ ih =>
    exact .later (hsame _ List.mem_cons_self ▸ hg)
      (ih fun g hg => hsame g (List.mem_cons_of_mem _ hg))

end Reaches

def StopsAt (d : ChannelDefinition) (config : Fields) (f : ConfigField) (fault : Fault)
    (fs : List ConfigField) : Prop :=
  d.Reaches config f fs ∧ d.settle f (config.getD f.key) = .error fault

theorem StopsAt.congr {other : Fields} (h : d.StopsAt config f fault fs)
    (hsame : ∀ g ∈ fs, config.getD g.key = other.getD g.key) : d.StopsAt other f fault fs :=
  ⟨h.1.congr hsame, hsame f h.1.mem ▸ h.2⟩

theorem foldlM_cons_error_iff : (f :: fs).foldlM d.cleanStep config = .error fault ↔
    d.settle f (config.getD f.key) = .error fault ∨
      ∃ o, d.settle f (config.getD f.key) = .ok o ∧
        fs.foldlM d.cleanStep (config.write f.key o) = .error fault := by
  rw [List.foldlM_cons, cleanStep_eq, bind_error, map_error]
  refine or_congr_right ⟨?_, ?_⟩
  · rintro ⟨_, hstep, hrest⟩
    obtain ⟨o, ho, rfl⟩ := map_ok.mp hstep
    exact ⟨o, ho, hrest⟩
  · rintro ⟨o, ho, hrest⟩
    exact ⟨_, map_ok.mpr ⟨o, ho, rfl⟩, hrest⟩

theorem foldlM_error_iff (hk : (fs.map (·.key)).Nodup) :
    fs.foldlM d.cleanStep config = .error fault ↔ ∃ f, d.StopsAt config f fault fs := by
  induction fs generalizing config with
  | nil =>
    constructor
    · rintro ⟨⟩
    · rintro ⟨_, ⟨⟩, -⟩
  | cons g rest ih =>
    obtain ⟨hnew, hrest⟩ := List.nodup_cons.mp hk
    -- the fields that follow have other keys
    have hsame (o : Option Value) :
        ∀ f ∈ rest, (config.write g.key o).getD f.key = config.getD f.key := fun f hf => by
      have hne : g.key ≠ f.key := fun heq => hnew (List.mem_map.mpr ⟨f, hf, heq.symm⟩)
      rw [Fields.getD, Fields.get?_write, if_neg hne, Fields.getD]
    rw [foldlM_cons_error_iff]
    constructor
    · rintro (hg | ⟨o, ho, hlater⟩)
      · exact ⟨g, .here, hg⟩
      · obtain ⟨f, hf⟩ := (ih hrest).mp hlater
        have hf := hf.congr (hsame o)
        exact ⟨f, .later ho hf.1, hf.2⟩
    · rintro ⟨f, hreach, hf⟩
      cases hreach with
      | here => exact .inl hf
      | later ho hlater =>
        have hstops : d.StopsAt config f fault rest := ⟨hlater, hf⟩
        exact .inr ⟨_, ho, (ih hrest).mpr ⟨f, hstops.congr fun g hg => (hsame _ g hg).symm⟩⟩

/-- Why the cleaning of a configuration breaks off: the fields before one of
the form settle, and what that one is cleaned from cannot be read. -/
inductive BreaksOff (d : ChannelDefinition) (config : Fields) : Fault → Prop
  | reading {f : ConfigField} {v : Value} {fault : Fault} (hf : d.Reaches config f d.fields)
      (hv : f.source? (config.getD f.key) = some v) (h : f.BreaksOn v fault) :
    BreaksOff d config fault

theorem clean_error (hk : (d.fields.map (·.key)).Nodup) (h : d.clean config = .error fault) :
    (∃ f ∈ d.fields, fault.IsRefusal d.type f.key) ∨ d.BreaksOff config fault := by
  obtain ⟨f, hreach, hf⟩ := (foldlM_error_iff hk).mp h
  rcases settle_error hf with hr | ⟨v, hv, hb⟩
  · exact .inl ⟨f, hreach.mem, hr⟩
  · exact .inr (.reading hreach hv hb)

theorem BreaksOff.clean (hk : (d.fields.map (·.key)).Nodup) (h : d.BreaksOff config fault) :
    d.clean config = .error fault := by
  obtain ⟨hf, hv, h⟩ := h
  exact (foldlM_error_iff hk).mpr ⟨_, hf, settle_of_breaksOn hv h⟩

-- ---------------------------------------------------------------------------
-- Numbers
-- ---------------------------------------------------------------------------

theorem get?_number {cleaned : Fields} (hk : (d.fields.map (·.key)).Nodup)
    (h : d.clean config = .ok cleaned) (hf : f ∈ d.fields) (hkind : f.kind = .number)
    (hw : cleaned.get? f.key = some w) :
    ∃ v x, f.source? (config.getD f.key) = some v ∧ v.toReal? = some (.ok x) ∧
      w = numberValue x := by
  obtain ⟨v, hv, hclean⟩ := settle_some_iff.mp (hw ▸ (get?_foldlM hk h).1 f hf)
  simp only [cleanField, hkind] at hclean
  obtain ⟨x, hx, rfl⟩ := cleanNumber_ok_iff.mp hclean
  exact ⟨v, x, hv, hx, rfl⟩

end ChannelDefinition

namespace Channel.Kind

open ChannelDefinition (numberValue)

/-- The port of a mail channel is the only number in the forms of the shipped
kinds. -/
theorem number_field (k : Kind) {f : ConfigField} (hf : f ∈ k.definition.fields)
    (hkind : f.kind = .number) : k = .email ∧ f.key = "port" := by
  have hall : ∀ k ∈ all, ∀ f ∈ k.definition.fields, f.kind = .number →
      k = .email ∧ f.key = "port" := by decide
  refine hall k ?_ f hf hkind
  cases k with
  | email => decide
  | web k => cases k <;> decide

theorem port_number {config cleaned : Fields} (h : Catalog.email.clean config = .ok cleaned) :
    ∃ x, cleaned.get? "port" = some (numberValue x) := by
  obtain ⟨f, hf, hkey, hkind, hkept⟩ : ∃ f ∈ Catalog.email.fields,
      f.key = "port" ∧ f.kind = .number ∧ f.isKept = true := by decide
  obtain ⟨w, hw, -⟩ := get?_kept (k := .email) h hf hkept
  obtain ⟨-, x, -, -, rfl⟩ :=
    ChannelDefinition.get?_number (Catalog.keys_nodup (find?_definition .email)) h hf hkind hw
  exact ⟨x, hkey ▸ hw⟩

end Channel.Kind

end AlertDelivery
