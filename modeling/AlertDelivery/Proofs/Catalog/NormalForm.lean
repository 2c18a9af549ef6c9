import AlertDelivery.Proofs.Catalog.Required

/-!
# The normal form of a configuration

What cleaning a configuration leaves: every field that the form declares
holds a value of the shape of its kind, or is left out because it is neither
required nor given, and what the form does not declare stays as it was. A
configuration in this form is what its cleaning gives again.
-/

namespace AlertDelivery

theorem Binary64.toRat?_of_fraction {x : Binary64} (h : x.integral? = none) (i : ℤ) :
    x.toRat? ≠ some (i : ℚ) := by
  cases x with
  | finite q =>
    have hq : q.den ≠ 1 := fun hden => by simp [integral?, hden] at h
    rintro ⟨⟩
    exact hq (Rat.den_intCast i)
  | negZero => cases h
  | posInf | negInf | nan => rintro ⟨⟩

theorem Fields.isUnset_getD_iff {fields : Fields} {key : String} :
    (fields.getD key).isUnset = true ↔ fields.get? key = none ∨
      fields.get? key = some .null ∨ fields.get? key = some (.text "") := by
  unfold Fields.getD
  cases fields.get? key with
  | none => simp [Value.isUnset]
  | some v => cases v <;> simp [Value.isUnset]

/-- The shapes of value that a field may hold, by its kind. -/
inductive ConfigField.Holds (f : ConfigField) : Value → Prop
  | whole (hkind : f.kind = .number) (i : Int) : Holds f (.int i)
  | fraction (hkind : f.kind = .number) (x : Binary64) (hx : ∀ i : ℤ, x.toRat? ≠ some (i : ℚ)) :
    Holds f (.real x)
  | switch (hkind : f.kind = .boolean) (b : Bool) : Holds f (.bool b)
  | choice (hkind : f.kind = .select) (s : String) (hs : f.options ≠ [] → s ∈ f.options) :
    Holds f (.text s)
  | address (hkind : f.kind = .url) {s : String} {a : Web.Address}
      (hread : Web.Address.read s = .ok a) (hscheme : a.scheme = "http" ∨ a.scheme = "https")
      (hauthority : a.authority ≠ "") : Holds f (.text s)
  | text (hkind : f.kind = .text ∨ f.kind = .password) (s : String) : Holds f (.text s)

namespace ChannelDefinition

variable {d : ChannelDefinition} {f : ConfigField} {v w : Value} {config cleaned : Fields}

theorem numberValue_holds (hkind : f.kind = .number) (x : Binary64) : f.Holds (numberValue x) := by
  unfold numberValue
  split
  · exact .whole hkind _
  next hx => exact .fraction hkind x (Binary64.toRat?_of_fraction hx)

theorem cleanSelect_holds (hkind : f.kind = .select) (h : d.cleanSelect f v = .ok w) :
    f.Holds w := by
  unfold cleanSelect at h
  split at h
  next hopen =>
    cases h
    refine .choice hkind _ fun hne => ?_
    simpa [hne] using hopen
  · cases h

theorem cleanUrl_holds (hkind : f.kind = .url) (h : d.cleanUrl f v = .ok w) : f.Holds w := by
  unfold cleanUrl at h
  split at h
  · cases h
  next a hread =>
    split at h
    next hweb =>
      cases h
      obtain ⟨hscheme, hauthority⟩ : (a.scheme = "http" ∨ a.scheme = "https") ∧
          a.authority ≠ "" := by simpa using hweb
      exact .address hkind hread hscheme hauthority
    · cases h

theorem cleanField_holds (h : d.cleanField f v = .ok w) : f.Holds w := by
  cases hkind : f.kind with
  | number =>
    simp only [cleanField, hkind] at h
    obtain ⟨x, -, rfl⟩ := cleanNumber_ok_iff.mp h
    exact numberValue_holds hkind x
  | boolean =>
    simp only [cleanField, hkind] at h
    obtain ⟨b, rfl⟩ := cleanBoolean_cases h
    exact .switch hkind b
  | select =>
    simp only [cleanField, hkind] at h
    exact cleanSelect_holds hkind h
  | url =>
    simp only [cleanField, hkind] at h
    exact cleanUrl_holds hkind h
  | text | password =>
    simp only [cleanField, hkind, Except.ok.injEq] at h
    exact h ▸ .text (by simp [hkind]) _

/-- Cleaning brings a configuration into normal form: cleaned again it stays
as it is, the keys that the form does not declare are as they were given, and
every field that it does declare holds a value of its kind, unless it is one
that may be left out and was given none. -/
theorem clean_normalises (hk : (d.fields.map (·.key)).Nodup) (hp : config.IsProper)
    (h : d.clean config = .ok cleaned) :
    d.clean cleaned = .ok cleaned ∧
    (∀ key ∉ d.fields.map (·.key), cleaned.get? key = config.get? key) ∧
    ∀ f ∈ d.fields,
      (cleaned.get? f.key = none ↔ f.required = false ∧ f.default? = none ∧
        (config.get? f.key = none ∨ config.get? f.key = some .null ∨
          config.get? f.key = some (.text ""))) ∧
      (f.required = true → ∃ v, cleaned.get? f.key = some v) ∧
      ∀ v, cleaned.get? f.key = some v → f.Holds v := by
  obtain ⟨hsettled, hkept⟩ := get?_foldlM hk h
  refine ⟨(clean_again hk hp h).1, hkept, fun f hf => ⟨?_, fun hrequired => ?_, fun v hv => ?_⟩⟩
  · rw [← Fields.isUnset_getD_iff, ← settle_none_iff, hsettled f hf, Except.ok.injEq]
  · exact settle_kept (by simp [ConfigField.isKept, hrequired]) (hsettled f hf)
  · obtain ⟨given, hgiven⟩ := settle_some (hv ▸ hsettled f hf)
    exact cleanField_holds hgiven

def everyKind : ChannelDefinition where
  type := "pager"
  name := "Pager"
  category := "push"
  fields := [
    { key := "server", label := "Server", kind := .url, required := true },
    { key := "token", label := "Token", kind := .password, required := true },
    { key := "interval", label := "Interval", kind := .number, default? := some "1.5" },
    { key := "sound", label := "Sound", kind := .select, options := ["bell", "siren"] },
    { key := "vibrate", label := "Vibrate", kind := .boolean, default? := some "yes" },
    { key := "note", label := "Note" }]

def givenKinds : Fields := [
  ("server", .text "https://push.example.com/in"), ("token", .int 7), ("vibrate", .int 0),
  ("sound", .text "bell"), ("note", .text ""), ("zone", .list [.null])]

def cleanedKinds : Fields := [
  ("server", .text "https://push.example.com/in"), ("token", .text "7"), ("vibrate", .bool false),
  ("sound", .text "bell"), ("zone", .list [.null]), ("interval", .real (.finite (3 / 2)))]

theorem clean_normalises_everyKind : everyKind.clean givenKinds = .ok cleanedKinds ∧
    everyKind.clean cleanedKinds = .ok cleanedKinds ∧
    cleanedKinds.get? "zone" = givenKinds.get? "zone" := by
  have hk : (everyKind.fields.map (·.key)).Nodup := by decide
  have hp : givenKinds.IsProper := ⟨by decide, by simp [givenKinds, Value.IsProper]⟩
  have hclean : everyKind.clean givenKinds = .ok cleanedKinds := by decide +kernel
  obtain ⟨hagain, hkept, -⟩ := clean_normalises hk hp hclean
  exact ⟨hclean, hagain, hkept "zone" (by decide)⟩

end ChannelDefinition

end AlertDelivery
