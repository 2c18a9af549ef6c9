import AlertDelivery.Proofs.Catalog.Refusals
import AlertDelivery.Proofs.Service.Configuring

/-!
# Verdicts on a configuration

A configuration that is checked for a type of the catalogue is accepted, is
refused by the name of one of its fields, or breaks the check off. The last
happens if its cleaning breaks off, and in one case more: a mail channel that
is registered cannot make an integer of an infinite port.
-/

namespace AlertDelivery

namespace Channel.Kind

open ChannelDefinition (numberValue)

variable {k : Kind} {config cleaned : Fields} {fault : Fault} {x : Binary64}

def infinitePort : Fault := .mishap .overflow "cannot convert float infinity to integer"

theorem validatePort_infinite (hx : x = .posInf ∨ x = .negInf) :
    validatePort (.real x) = .error infinitePort := by
  rcases hx with rfl | rfl <;> rfl

theorem validatePort_of_toInt {v : Value} {port : Int} (hv : v.toInt = .ok port)
    (h : validatePort v = .error fault) : fault.IsRefusal "email" "port" := by
  simp only [validatePort, hv] at h
  split_ifs at h
  cases h
  exact ⟨_, rfl⟩

theorem validatePort_error (h : validatePort (numberValue x) = .error fault) :
    fault.IsRefusal "email" "port" ∨
      (x = .posInf ∨ x = .negInf) ∧ numberValue x = .real x ∧ fault = infinitePort := by
  cases hx : x.integral? with
  | some i =>
    rw [numberValue, hx] at h
    exact .inl (validatePort_of_toInt rfl h)
  | none =>
    have hreal : numberValue x = .real x := by rw [numberValue, hx]
    rw [hreal] at h ⊢
    cases x with
    | finite q => exact .inl (validatePort_of_toInt rfl h)
    | negZero => cases hx
    | nan =>
      cases h
      exact .inl ⟨_, rfl⟩
    | posInf =>
      cases h
      exact .inr ⟨.inl rfl, rfl, rfl⟩
    | negInf =>
      cases h
      exact .inr ⟨.inr rfl, rfl, rfl⟩

theorem validatePort_ok (h : validatePort (numberValue x) = .ok ()) : x.toRat? ≠ none := by
  cases x with
  | finite q => simp [Binary64.toRat?]
  | negZero => simp [Binary64.toRat?]
  | nan | posInf | negInf => cases h

theorem type_injective {k k' : Kind} (h : k.type = k'.type) : k = k' :=
  Option.some.inj (by rw [← k.ofType?_type, h, k'.ofType?_type])

theorem validate_clean (h : k.definition.clean config = .ok cleaned) :
    k.validate cleaned = k.validateOwn cleaned := by
  rw [validate, checkRequired_complete (clean_complete h), ok_bind]

/-- A kind refuses what its form has cleaned by the name of a field, unless
it is mail to an infinite port. -/
theorem validate_error (hclean : k.definition.clean config = .ok cleaned)
    (h : k.validate cleaned = .error fault) :
    (∃ f ∈ k.definition.fields, fault.IsRefusal k.type f.key) ∨
      k = .email ∧ fault = infinitePort ∧
        ∃ x, (x = .posInf ∨ x = .negInf) ∧ cleaned.get? "port" = some (.real x) := by
  rw [validate_clean hclean] at h
  have hrefused (key : String) (hkey : ∃ f ∈ k.definition.fields, f.key = key)
      (hr : fault.IsRefusal k.type key) :
      ∃ f ∈ k.definition.fields, fault.IsRefusal k.type f.key := by
    obtain ⟨f, hf, rfl⟩ := hkey
    exact ⟨f, hf, hr⟩
  cases k with
  | email =>
    obtain ⟨x, hx⟩ := port_number hclean
    simp only [validateOwn, Fields.getD, hx, Option.getD_some] at h
    rcases validatePort_error h with hr | ⟨hinf, hreal, rfl⟩
    · exact .inl (hrefused "port" (by decide) hr)
    · exact .inr ⟨rfl, rfl, x, hinf, hreal ▸ hx⟩
  | web k =>
    cases k with
    | webhook =>
      simp only [validateOwn] at h
      split_ifs at h
      exact .inl (hrefused "url" (by decide) ⟨_, (Except.error.inj h).symm⟩)
    | twilio =>
      simp only [validateOwn] at h
      split_ifs at h
      exact .inl (hrefused "from_number" (by decide) ⟨_, (Except.error.inj h).symm⟩)
    | _ => cases h

end Channel.Kind

namespace Service

open ChannelDefinition (numberValue)
open Channel (Kind)

variable {type : String} {d : ChannelDefinition} {registry : Channel.Registry}
  {config cleaned : Fields} {fault : Fault}

/-- Why a configuration can be neither accepted nor refused. -/
inductive Uncheckable (registry : Channel.Registry) (d : ChannelDefinition) (config : Fields) :
    Fault → Prop
  | cleaning {fault : Fault} (h : d.BreaksOff config fault) :
    Uncheckable registry d config fault
  | port {cleaned : Fields} {x : Binary64} (hmail : d.type = "email")
      (hlive : registry.find? "email" ≠ none) (hclean : d.clean config = .ok cleaned)
      (hport : cleaned.get? "port" = some (.real x)) (hx : x = .posInf ∨ x = .negInf) :
    Uncheckable registry d config Kind.infinitePort

/-- A channel of a shipped kind that is registered for a type of the
catalogue has the form of the type. -/
theorem shipped_definition {c : Channel} {k : Kind} (hd : Catalog.find? type = some d)
    (hc : registry.find? type = some c) (hk : c.backend = .shipped k) :
    k.type = type ∧ k.definition = d ∧ ∀ config, c.validate config = k.validate config := by
  have hctype : c.type = type := by simpa using List.find?_some hc
  have hktype : k.type = type := by rw [← hctype, Channel.type, hk, Channel.Backend.type]
  refine ⟨hktype, ?_, fun config => by rw [Channel.validate, hk]⟩
  have hform := k.find?_definition
  rw [hktype, hd] at hform
  exact (Option.some.inj hform).symm

theorem checkedConfig_unregistered (hd : Catalog.find? type = some d)
    (hc : registry.find? type = none) : checkedConfig registry type config = d.clean config := by
  cases hclean : d.clean config with
  | ok cleaned =>
    exact (checkedConfig_ok_iff hd).mpr ⟨hclean, fun c hc' => by cases hc.symm.trans hc'⟩
  | error fault =>
    exact checkedConfig_error_iff.mpr (.schema (by simpa only [normalised, hd] using hclean))

theorem checkedConfig_refused (hd : Catalog.find? type = some d)
    (hlive : ∀ c, registry.find? type = some c → ∃ k, c.backend = .shipped k)
    (h : checkedConfig registry type config = .error fault) :
    (∃ f ∈ d.fields, fault.IsRefusal type f.key) ∨ Uncheckable registry d config fault := by
  have hdtype : d.type = type := by simpa using List.find?_some hd
  cases checkedConfig_error_iff.mp h with
  | unknown hnone => cases hd.symm.trans hnone
  | schema hn =>
    simp only [normalised, hd] at hn
    rw [← hdtype]
    exact (ChannelDefinition.clean_error (Catalog.keys_nodup hd) hn).imp_right .cleaning
  | channel hn hc hv =>
    simp only [normalised, hd] at hn
    obtain ⟨k, hk⟩ := hlive _ hc
    obtain ⟨rfl, rfl, hvalidate⟩ := shipped_definition hd hc hk
    rw [hvalidate] at hv
    refine (Kind.validate_error hn hv).imp_right ?_
    rintro ⟨rfl, rfl, x, hx, hport⟩
    exact .port rfl (fun hnone => by cases hc.symm.trans hnone) hn hport hx

theorem Uncheckable.checkedConfig (hd : Catalog.find? type = some d)
    (hlive : ∀ c, registry.find? type = some c → ∃ k, c.backend = .shipped k)
    (h : Uncheckable registry d config fault) :
    checkedConfig registry type config = .error fault := by
  rw [checkedConfig_error_iff]
  cases h with
  | cleaning h =>
    refine .schema ?_
    simpa only [normalised, hd] using h.clean (Catalog.keys_nodup hd)
  | port hmail hregistered hclean hport hx =>
    obtain rfl : d.type = type := by simpa using List.find?_some hd
    rw [← hmail] at hregistered
    obtain ⟨c, hc⟩ := Option.ne_none_iff_exists'.mp hregistered
    obtain ⟨k, hk⟩ := hlive c hc
    obtain ⟨hktype, rfl, hvalidate⟩ := shipped_definition hd hc hk
    obtain rfl : k = .email := Kind.type_injective (hktype.trans hmail)
    refine .channel (by simpa only [normalised, hd] using hclean) hc ?_
    rw [hvalidate, Kind.validate_clean hclean, Kind.validateOwn, Fields.getD, hport]
    exact Kind.validatePort_infinite hx

theorem checkedConfig_finite {f : ConfigField} {x : Binary64} {c : Channel}
    (hd : Catalog.find? type = some d)
    (hlive : ∀ c, registry.find? type = some c → ∃ k, c.backend = .shipped k)
    (h : checkedConfig registry type config = .ok cleaned) (hc : registry.find? type = some c)
    (hf : f ∈ d.fields) (hkind : f.kind = .number)
    (hx : cleaned.get? f.key = some (numberValue x)) : x.toRat? ≠ none := by
  obtain ⟨hclean, haccepts⟩ := (checkedConfig_ok_iff hd).mp h
  obtain ⟨k, hk⟩ := hlive c hc
  obtain ⟨-, rfl, hvalidate⟩ := shipped_definition hd hc hk
  have hvalid := haccepts c hc
  rw [hvalidate, Kind.validate_clean hclean] at hvalid
  obtain ⟨rfl, hkey⟩ := k.number_field hf hkind
  rw [Kind.validateOwn, Fields.getD, ← hkey, hx] at hvalid
  exact Kind.validatePort_ok hvalid

/-- Whether a type has a channel of a shipped kind registered or none, the
check of a configuration ends in one of three ways. It is refused by the name
of a field, or it cannot be checked, for one of the reasons listed and for
each of them; or it is accepted, and then every number in it is what was given
or is the default, and is finite if there is a channel. -/
theorem config_verdict (hd : Catalog.find? type = some d)
    (hlive : ∀ c, registry.find? type = some c → ∃ k, c.backend = .shipped k) (config : Fields) :
    (registry.find? type = none → checkedConfig registry type config = d.clean config) ∧
    (∀ fault, checkedConfig registry type config = .error fault →
      (∃ f ∈ d.fields, fault.IsRefusal type f.key) ∨ Uncheckable registry d config fault) ∧
    (∀ fault, Uncheckable registry d config fault →
      checkedConfig registry type config = .error fault) ∧
    ∀ cleaned, checkedConfig registry type config = .ok cleaned →
      ∀ f ∈ d.fields, f.kind = .number → ∀ w, cleaned.get? f.key = some w →
        ∃ v x, f.source? (config.getD f.key) = some v ∧ v.toReal? = some (.ok x) ∧
          w = numberValue x ∧ (x.toRat? = none → registry.find? type = none) := by
  refine ⟨checkedConfig_unregistered hd, fun _ => checkedConfig_refused hd hlive,
    fun _ => Uncheckable.checkedConfig hd hlive, fun cleaned hok f hf hkind w hw => ?_⟩
  have hclean := ((checkedConfig_ok_iff hd).mp hok).1
  obtain ⟨v, x, hv, hx, rfl⟩ :=
    ChannelDefinition.get?_number (Catalog.keys_nodup hd) hclean hf hkind hw
  refine ⟨v, x, hv, hx, rfl, fun hinf => ?_⟩
  by_contra hregistered
  obtain ⟨c, hc⟩ := Option.ne_none_iff_exists'.mp hregistered
  exact checkedConfig_finite hd hlive hok hc hf hkind hw hinf

def mailRegistry : Channel.Registry := .ofList [Channel.ofKind .email []]

def mailTo (port : Value) : Fields :=
  [("host", .text "relay.example.com"), ("port", port),
    ("from_address", .text "alerts@example.com")]

theorem config_verdict_infinitePort :
    Uncheckable mailRegistry Catalog.email (mailTo (.text "inf")) Kind.infinitePort ∧
      checkedConfig mailRegistry "email" (mailTo (.text "inf")) = .error Kind.infinitePort := by
  have hlive : ∀ c, mailRegistry.find? "email" = some c → ∃ k, c.backend = .shipped k := by
    rintro c hc
    cases hc
    exact ⟨.email, rfl⟩
  have hclean : Catalog.email.clean (mailTo (.text "inf")) =
      .ok (mailTo (.real .posInf) ++ [("use_tls", .bool true)]) := by decide +kernel
  have hport : Uncheckable mailRegistry Catalog.email (mailTo (.text "inf")) Kind.infinitePort :=
    .port rfl (by decide) hclean rfl (.inl rfl)
  exact ⟨hport, (config_verdict (d := Catalog.email) rfl hlive _).2.2.1 _ hport⟩

/-- What the check of a configuration might be expected to end in: acceptance
with finite numbers, or the refusal of a field. -/
def IsVerdict (d : ChannelDefinition) : Except Fault Fields → Prop
  | .ok cleaned => ∀ f ∈ d.fields, f.kind = .number →
    ∀ x, cleaned.get? f.key = some (.real x) → x.toRat? ≠ none
  | .error fault => ∃ f ∈ d.fields, fault.IsRefusal d.type f.key

/-- An address that cannot be taken apart, an integer that is too large, a
number that is none, and an infinite port of a registered channel: the check
of none of them ends as might be expected. -/
theorem verdict_not_always_reached :
    ¬IsVerdict Catalog.webhook (checkedConfig {} "webhook" [("url", .text "http://[")]) ∧
    ¬IsVerdict Catalog.email (checkedConfig {} "email" (mailTo (.int (2 ^ 1024)))) ∧
    ¬IsVerdict Catalog.email (checkedConfig {} "email" (mailTo (.text "nan"))) ∧
    ¬IsVerdict Catalog.email (checkedConfig mailRegistry "email" (mailTo (.text "inf"))) := by
  have haddress : checkedConfig {} "webhook" [("url", .text "http://[")] =
      .error (Fault.badValue "Invalid IPv6 URL") := by decide +kernel
  have hhuge : checkedConfig {} "email" (mailTo (.int (2 ^ 1024))) =
      .error Fault.tooLargeForReal := by decide +kernel
  have hnan : checkedConfig {} "email" (mailTo (.text "nan")) =
      .ok (mailTo (.real .nan) ++ [("use_tls", .bool true)]) := by decide +kernel
  have hinfinite : checkedConfig mailRegistry "email" (mailTo (.text "inf")) =
      .error Kind.infinitePort := by decide +kernel
  rw [haddress, hhuge, hnan, hinfinite]
  refine ⟨?_, ?_, fun h => ?_, ?_⟩
  · rintro ⟨_, _, _, h⟩
    cases h
  · rintro ⟨_, _, _, h⟩
    cases h
  · obtain ⟨f, hf, hkind, hkey⟩ :
        ∃ f ∈ Catalog.email.fields, f.kind = .number ∧ f.key = "port" := by decide
    exact h f hf hkind .nan (hkey ▸ rfl) rfl
  · rintro ⟨_, _, _, h⟩
    cases h

end Service

end AlertDelivery
