import AlertDelivery.Channel.Registry
import AlertDelivery.Proofs.Catalog.Cleaning

/-!
# Required fields

The catalogue says which fields of a form must be filled in, and a kind of
channel says without which keys it cannot send. The two agree: what a kind
requires is a field that cleaning neither leaves out nor leaves blank, so a
cleaned configuration is complete. What it holds for a field that is no number
and no switch is a text.
-/

namespace AlertDelivery

/-- Whether cleaning never leaves a field out. -/
def ConfigField.isKept (f : ConfigField) : Bool := f.required || f.default?.isSome

def ConfigField.isText (f : ConfigField) : Bool :=
  match f.kind with
  | .number | .boolean => false
  | .text | .password | .select | .url => true

namespace ChannelDefinition

variable {d : ChannelDefinition} {f : ConfigField} {v w : Value} {o : Option Value}

theorem settle_kept (hf : f.isKept = true) (h : d.settle f v = .ok o) : ∃ w, o = some w := by
  cases o with
  | some w => exact ⟨w, rfl⟩
  | none =>
    obtain ⟨hrequired, hdefault, -⟩ := settle_none_iff.mp h
    simp [ConfigField.isKept, hrequired, hdefault] at hf

theorem settle_set (hf : f.default? ≠ some "") (h : d.settle f v = .ok (some w)) :
    w.isUnset = false := by
  obtain ⟨s, hs, hw⟩ := settle_some_iff.mp h
  refine cleanField_set ?_ hw
  unfold ConfigField.source? at hs
  split at hs
  · obtain ⟨default, hdefault, rfl⟩ := Option.map_eq_some_iff.mp hs
    exact Value.isUnset_text fun hblank => hf (hblank ▸ hdefault)
  next hset => exact Option.some.inj hs ▸ by simpa using hset

theorem settle_some (h : d.settle f v = .ok (some w)) : ∃ given, d.cleanField f given = .ok w := by
  obtain ⟨s, -, hw⟩ := settle_some_iff.mp h
  exact ⟨s, hw⟩

theorem cleanField_text (hf : f.isText = true) (h : d.cleanField f v = .ok w) :
    w = .text v.plain := by
  cases hkind : f.kind with
  | number | boolean => simp [ConfigField.isText, hkind] at hf
  | select =>
    simp only [cleanField, hkind] at h
    exact (cleanSelect_text h).1
  | url =>
    simp only [cleanField, hkind] at h
    exact (cleanUrl_text h).1
  | text | password =>
    simp only [cleanField, hkind, Except.ok.injEq] at h
    exact h.symm

end ChannelDefinition

namespace Channel

variable {type key : String} {keys : List String} {config cleaned : Fields} {k : Kind}

theorem isComplete_iff :
    isComplete keys config = true ↔ ∀ key ∈ keys, (config.getD key).isUnset = false := by
  simp [isComplete]

theorem checkRequired_complete (h : isComplete keys config = true) :
    checkRequired type keys config = .ok () := by
  have hnone : keys.find? (fun key => (config.getD key).isUnset) = none :=
    List.find?_eq_none.mpr fun key hkey => by simp [isComplete_iff.mp h key hkey]
  rw [checkRequired, hnone]

namespace Kind

def definition : Kind → ChannelDefinition
  | .email => Catalog.email
  | .web .webhook => Catalog.webhook
  | .web .slack => Catalog.slack
  | .web .discord => Catalog.discord
  | .web .telegram => Catalog.telegram
  | .web .twilio => Catalog.twilio
  | .web .gotify => Catalog.gotify
  | .web .pushover => Catalog.pushover

theorem find?_definition (k : Kind) : Catalog.find? k.type = some k.definition := by
  cases k with
  | email => rfl
  | web k => cases k <;> rfl

theorem ofType?_type (k : Kind) : ofType? k.type = some k := by
  cases k with
  | email => rfl
  | web k => cases k <;> rfl

theorem requiredKeys_kept (k : Kind) : ∀ key ∈ k.requiredKeys,
    ∃ f ∈ k.definition.fields, f.key = key ∧ f.isKept = true ∧ f.default? ≠ some "" := by
  cases k with
  | email => decide
  | web k => cases k <;> decide

theorem clean_settles (h : k.definition.clean config = .ok cleaned) {f : ConfigField}
    (hf : f ∈ k.definition.fields) :
    k.definition.settle f (config.getD f.key) = .ok (cleaned.get? f.key) :=
  (ChannelDefinition.get?_foldlM (Catalog.keys_nodup k.find?_definition) h).1 f hf

theorem get?_kept (h : k.definition.clean config = .ok cleaned) {f : ConfigField}
    (hf : f ∈ k.definition.fields) (hkept : f.isKept = true) :
    ∃ v, cleaned.get? f.key = some v ∧ (f.default? ≠ some "" → v.isUnset = false) := by
  have hsettled := clean_settles h hf
  obtain ⟨v, hv⟩ := ChannelDefinition.settle_kept hkept hsettled
  exact ⟨v, hv, fun hdefault => ChannelDefinition.settle_set hdefault (hv ▸ hsettled)⟩

/-- What was cleaned by the form of a kind is enough for it to send. -/
theorem clean_complete (h : k.definition.clean config = .ok cleaned) :
    isComplete k.requiredKeys cleaned = true := by
  refine isComplete_iff.mpr fun key hkey => ?_
  obtain ⟨f, hf, rfl, hkept, hdefault⟩ := k.requiredKeys_kept key hkey
  obtain ⟨v, hv, hset⟩ := get?_kept h hf hkept
  rw [Fields.getD, hv]
  exact hset hdefault

theorem get?_text (h : k.definition.clean config = .ok cleaned)
    (hkey : ∃ f ∈ k.definition.fields, f.key = key ∧ f.isText = true) {v : Value}
    (hv : cleaned.get? key = some v) : ∃ s, v = .text s := by
  obtain ⟨f, hf, rfl, htext⟩ := hkey
  obtain ⟨given, hgiven⟩ := ChannelDefinition.settle_some (hv ▸ clean_settles h hf)
  exact ⟨given.plain, ChannelDefinition.cleanField_text htext hgiven⟩

theorem getD_text (h : k.definition.clean config = .ok cleaned) (key : String)
    (hkey : ∃ f ∈ k.definition.fields, f.key = key ∧ f.isText = true) :
    cleaned.getD key = .null ∨ ∃ s, cleaned.getD key = .text s := by
  cases hv : cleaned.get? key with
  | none => exact .inl (by simp [Fields.getD, hv])
  | some v =>
    obtain ⟨s, rfl⟩ := get?_text h hkey hv
    exact .inr ⟨s, by simp [Fields.getD, hv]⟩

theorem getD_required (h : k.definition.clean config = .ok cleaned) (key : String)
    (hkey : ∃ f ∈ k.definition.fields, f.key = key ∧ f.isText = true)
    (hrequired : key ∈ k.requiredKeys) : ∃ s, cleaned.getD key = .text s := by
  have hset := isComplete_iff.mp (clean_complete h) key hrequired
  refine (getD_text h key hkey).resolve_left fun hnull => ?_
  simp [hnull, Value.isUnset] at hset

end Kind

end Channel

end AlertDelivery
