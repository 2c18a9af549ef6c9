import AlertDelivery.Catalog.Schema
import AlertDelivery.Proofs.ExceptLaws
import AlertDelivery.Proofs.FieldLaws
import AlertDelivery.Proofs.Number.Rounding

/-!
# Cleaning twice

A configuration that was cleaned is in normal form: every value already has
the form of its field's kind, every default is filled in, and cleaning it
again changes nothing.
-/

namespace AlertDelivery

-- ---------------------------------------------------------------------------
-- Texts of values
-- ---------------------------------------------------------------------------

/-- Some character of a text is not a star. -/
def Text.Shows (s : String) : Prop := ∃ c ∈ s.toList, c ≠ '*'

theorem Decimal.Layout.render_shows (l : Layout) (hl : Text.Shows l.wholeMark) (d : Digits) :
    Text.Shows (l.render d) := by
  obtain ⟨c, hc, hne⟩ := hl
  have hexp : 'e' ∈ (exponentText d.exponent).toList := by
    unfold exponentText
    dsimp only
    rw [String.toList_append, List.mem_append]
    refine .inl ?_
    split <;> decide
  unfold render
  dsimp only
  split_ifs
  · exact ⟨'.', by simp, by decide⟩
  · exact ⟨c, by simp [hc], hne⟩
  · exact ⟨'.', by simp, by decide⟩
  all_goals exact ⟨'e', by simp [hexp], by decide⟩

theorem Binary64.text_shows (x : Binary64) : Text.Shows x.text := by
  have hsize (q : Rat) : Text.Shows (Decimal.plainLayout.render (Decimal.shortest q)) :=
    Decimal.Layout.render_shows _ ⟨'.', by decide, by decide⟩ _
  cases x with
  | finite q =>
    unfold text textWith
    dsimp only
    split_ifs
    · exact ⟨'.', by decide, by decide⟩
    · exact ⟨'-', by simp, by decide⟩
    · exact hsize q
  | negZero => exact ⟨'.', by decide, by decide⟩
  | posInf | negInf | nan => exact ⟨'n', by decide, by decide⟩

theorem Text.shows_digits (n : Nat) : Shows (toString n) := by
  obtain ⟨c, rest, hc⟩ := List.exists_cons_of_ne_nil (Nat.toDigits_ne_nil (n := n) (b := 10))
  have hdigit : c.isDigit = true :=
    Nat.isDigit_of_mem_toDigits (by decide) (by decide) (hc ▸ List.mem_cons_self)
  refine ⟨c, ?_, ?_⟩
  · rw [Nat.toString_eq_ofList_toDigits, String.toList_ofList, hc]
    exact List.mem_cons_self
  · rintro rfl
    revert hdigit
    decide

namespace Value

theorem literal_shows {v : Value} (h : ∀ s, v ≠ .text s) : Text.Shows v.literal := by
  cases v with
  | null => exact ⟨'N', by decide, by decide⟩
  | bool b => cases b <;> exact ⟨'e', by decide, by decide⟩
  | int i =>
    cases i with
    | ofNat n => exact Text.shows_digits n
    | negSucc n => exact ⟨'-', by simp [literal, toString, Int.repr], by decide⟩
  | real x =>
    rw [literal]
    exact x.text_shows
  | text s => exact absurd rfl (h s)
  | list items => exact ⟨'[', by simp [literal], by decide⟩
  | record fields => exact ⟨'\x7b', by simp [literal], by decide⟩

theorem plain_of_not_text {v : Value} (h : ∀ s, v ≠ .text s) : v.plain = v.literal := by
  cases v with
  | text s => exact absurd rfl (h s)
  | _ => rfl

/-- A text of stars only is the text of no other value. -/
theorem plain_eq_iff {v : Value} {s : String} (hs : ¬Text.Shows s) :
    v.plain = s ↔ v = .text s := by
  refine ⟨fun hplain => ?_, fun h => h ▸ rfl⟩
  by_contra hne
  refine hs (hplain ▸ ?_)
  by_cases htext : ∃ s', v = .text s'
  · obtain ⟨s', rfl⟩ := htext
    exact absurd (congrArg Value.text hplain) hne
  · have hno : ∀ s', v ≠ .text s' := not_exists.mp htext
    rw [plain_of_not_text hno]
    exact literal_shows hno

theorem plain_ne_empty {v : Value} (h : v.isUnset = false) : v.plain ≠ "" := by
  have hempty : ¬Text.Shows "" := fun ⟨c, hc, _⟩ => by cases hc
  rw [Ne, plain_eq_iff hempty]
  rintro rfl
  cases h

theorem isUnset_text {s : String} (h : s ≠ "") : (Value.text s).isUnset = false := by
  simpa [isUnset] using h

def IsProper : Value → Prop
  | .real x => x.IsProper
  | _ => True

theorem toReal?_proper {v : Value} {x : Binary64} (hv : v.IsProper)
    (h : v.toReal? = some (.ok x)) : x.IsProper := by
  cases v with
  | bool b =>
    cases h
    cases b with
    | true => exact Binary64.IsHeld.one
    | false => exact Binary64.IsHeld.zero
  | int i =>
    simp only [toReal?] at h
    split at h <;> cases h
    exact Binary64.ofInt?_proper ‹_›
  | real y =>
    cases h
    exact hv
  | text s =>
    obtain ⟨y, hy, he⟩ := Option.map_eq_some_iff.mp h
    cases he
    exact Numeral.readReal?_proper hy
  | null | list | record => cases h

end Value

/-- A record as it can come from outside: distinct keys, and real numbers
of the format. -/
structure Fields.IsProper (fields : Fields) : Prop where
  distinct : fields.keys.Nodup
  proper : ∀ p ∈ fields, p.2.IsProper

namespace Fields.IsProper

variable {fields : Fields}

theorem getD (h : fields.IsProper) (key : String) : (Fields.getD fields key).IsProper := by
  unfold Fields.getD
  cases hk : fields.get? key with
  | none => trivial
  | some v => exact h.proper _ (mem_of_get? hk)

theorem write (h : fields.IsProper) (key : String) {o : Option Value}
    (ho : ∀ v, o = some v → v.IsProper) : (Fields.write fields key o).IsProper where
  distinct := nodup_write h.distinct key o
  proper p hp := (mem_write hp).elim (ho p.2) (h.proper p)

end Fields.IsProper

def ConfigField.source? (f : ConfigField) (given : Value) : Option Value :=
  if given.isUnset then f.default?.map .text else some given

theorem ConfigField.source?_proper {f : ConfigField} {v s : Value} (hv : v.IsProper)
    (h : f.source? v = some s) : s.IsProper := by
  unfold source? at h
  split at h
  · obtain ⟨default, -, rfl⟩ := Option.map_eq_some_iff.mp h
    trivial
  · exact Option.some.inj h ▸ hv

namespace ChannelDefinition

variable {d : ChannelDefinition} {f : ConfigField} {v w : Value} {o : Option Value}
  {config cleaned : Fields} {fs : List ConfigField}

-- ---------------------------------------------------------------------------
-- One value
-- ---------------------------------------------------------------------------

/-- What a number field makes of a number: an integer if it is whole. -/
def numberValue (x : Binary64) : Value :=
  match x.integral? with
  | some i => .int i
  | none => .real x

theorem cleanNumber_ok_iff :
    d.cleanNumber f v = .ok w ↔ ∃ x, v.toReal? = some (.ok x) ∧ numberValue x = w := by
  unfold cleanNumber numberValue
  constructor
  · intro h
    split at h
    · cases h
    · cases h
    next x hx =>
      refine ⟨x, hx, ?_⟩
      split at h <;> cases h <;> simp only [*]
  · rintro ⟨x, hx, rfl⟩
    rw [hx]
    dsimp only
    cases x.integral? <;> rfl

theorem numberValue_proper {x : Binary64} (h : x.IsProper) : (numberValue x).IsProper := by
  unfold numberValue
  split
  · trivial
  · exact h

theorem numberValue_again {x : Binary64} (h : x.IsProper) :
    ∃ y, (numberValue x).toReal? = some (.ok y) ∧ numberValue y = numberValue x := by
  cases hi : x.integral? with
  | some i =>
    obtain ⟨y, hy, hyi⟩ := Binary64.integral?_ofInt? h hi
    exact ⟨y, by simp only [numberValue, hi, Value.toReal?, hy],
      by simp only [numberValue, hi, hyi]⟩
  | none =>
    have hx : numberValue x = .real x := by simp only [numberValue, hi]
    exact ⟨x, by rw [hx, Value.toReal?], rfl⟩

theorem cleanBoolean_cases (h : d.cleanBoolean f v = .ok w) : ∃ b, w = .bool b := by
  unfold cleanBoolean at h
  split at h
  · exact ⟨_, (Except.ok.inj h).symm⟩
  · dsimp only at h
    split_ifs at h <;> exact ⟨_, (Except.ok.inj h).symm⟩

/-- The kinds whose values are kept as texts check the text only. -/
theorem cleanSelect_text (h : d.cleanSelect f v = .ok w) :
    w = .text v.plain ∧ d.cleanSelect f (.text v.plain) = .ok (.text v.plain) := by
  have hp : (Value.text v.plain).plain = v.plain := rfl
  unfold cleanSelect at h ⊢
  rw [hp]
  split_ifs at h ⊢
  exact ⟨(Except.ok.inj h).symm, rfl⟩

theorem cleanUrl_text (h : d.cleanUrl f v = .ok w) :
    w = .text v.plain ∧ d.cleanUrl f (.text v.plain) = .ok (.text v.plain) := by
  have hp : (Value.text v.plain).plain = v.plain := rfl
  unfold cleanUrl at h ⊢
  rw [hp]
  split at h
  · cases h
  · split_ifs at h ⊢
    exact ⟨(Except.ok.inj h).symm, rfl⟩

theorem cleanField_cases (h : d.cleanField f v = .ok w) :
    (∃ x, v.toReal? = some (.ok x) ∧ numberValue x = w) ∨ (∃ b, w = .bool b) ∨
      w = .text v.plain := by
  unfold cleanField at h
  split at h
  · exact .inl (cleanNumber_ok_iff.mp h)
  · exact .inr (.inl (cleanBoolean_cases h))
  · exact .inr (.inr (cleanSelect_text h).1)
  · exact .inr (.inr (cleanUrl_text h).1)
  · exact .inr (.inr (Except.ok.inj h).symm)
  · exact .inr (.inr (Except.ok.inj h).symm)

theorem cleanField_proper (hv : v.IsProper) (h : d.cleanField f v = .ok w) : w.IsProper := by
  rcases cleanField_cases h with ⟨x, hx, rfl⟩ | ⟨b, rfl⟩ | rfl
  · exact numberValue_proper (Value.toReal?_proper hv hx)
  · trivial
  · trivial

theorem cleanField_set (hv : v.isUnset = false) (h : d.cleanField f v = .ok w) :
    w.isUnset = false := by
  rcases cleanField_cases h with ⟨x, -, rfl⟩ | ⟨b, rfl⟩ | rfl
  · unfold numberValue
    split <;> rfl
  · rfl
  · exact Value.isUnset_text (Value.plain_ne_empty hv)

theorem cleanField_again (hv : v.IsProper) (h : d.cleanField f v = .ok w) :
    d.cleanField f w = .ok w := by
  unfold cleanField at h ⊢
  split at h
  · obtain ⟨x, hx, rfl⟩ := cleanNumber_ok_iff.mp h
    exact cleanNumber_ok_iff.mpr (numberValue_again (Value.toReal?_proper hv hx))
  · obtain ⟨b, rfl⟩ := cleanBoolean_cases h
    rfl
  · obtain ⟨rfl, hw⟩ := cleanSelect_text h
    exact hw
  · obtain ⟨rfl, hw⟩ := cleanUrl_text h
    exact hw
  · cases h
    rfl
  · cases h
    rfl

-- ---------------------------------------------------------------------------
-- One field
-- ---------------------------------------------------------------------------

/-- What a field holds after cleaning, for the value given for it: nothing
for an optional one that is not set. -/
def settle (d : ChannelDefinition) (f : ConfigField) (given : Value) :
    Except Fault (Option Value) :=
  if given.isUnset then
    match f.default? with
    | some default => (d.cleanField f (.text default)).map some
    | none =>
      if f.required then
        .error (.configInvalid d.type ("missing required field: " ++ f.key) (some f.key))
      else .ok none
  else (d.cleanField f given).map some

theorem settle_eq (d : ChannelDefinition) (f : ConfigField) (given : Value) :
    d.settle f given = match f.source? given with
      | some v => (d.cleanField f v).map some
      | none =>
        if f.required then
          .error (.configInvalid d.type ("missing required field: " ++ f.key) (some f.key))
        else .ok none := by
  unfold settle ConfigField.source?
  split
  · cases f.default? <;> rfl
  · rfl

theorem settle_some_iff : d.settle f v = .ok (some w) ↔
    ∃ s, f.source? v = some s ∧ d.cleanField f s = .ok w := by
  rw [settle_eq]
  cases f.source? v with
  | none => cases f.required <;> simp
  | some s => simp [map_ok]

theorem settle_none_iff : d.settle f v = .ok none ↔
    f.required = false ∧ f.default? = none ∧ v.isUnset = true := by
  have hmap (r : Except Fault Value) : r.map some ≠ .ok none := by cases r <;> simp [Except.map]
  rw [settle_eq, ConfigField.source?]
  by_cases hu : v.isUnset = true
  · cases f.default? <;> cases f.required <;> simp [hu, hmap]
  · simp [hu, hmap]

theorem settle_password (hkind : f.kind = .password) (hbare : f.default? = none) (given : Value) :
    d.settle f given = if given.isUnset then
        if f.required then
          .error (.configInvalid d.type ("missing required field: " ++ f.key) (some f.key))
        else .ok none
      else .ok (some (.text given.plain)) := by
  simp only [settle, hbare, cleanField, hkind, Except.map]

theorem cleanStep_eq : d.cleanStep config f =
    (d.settle f (config.getD f.key)).map (config.write f.key) := by
  have hmap (r : Except Fault Value) :
      r.map (config.put f.key) = (r.map some).map (config.write f.key) := by cases r <;> rfl
  unfold cleanStep settle
  dsimp only
  by_cases hu : (config.getD f.key).isUnset = true
  · rw [if_pos hu, if_pos hu]
    cases f.default? with
    | some default => exact hmap _
    | none => cases f.required <;> rfl
  · rw [if_neg hu, if_neg hu]
    exact hmap _

theorem settle_proper (hv : v.IsProper) (h : d.settle f v = .ok o) :
    ∀ w, o = some w → w.IsProper := by
  rintro w rfl
  obtain ⟨s, hs, hw⟩ := settle_some_iff.mp h
  exact cleanField_proper (ConfigField.source?_proper hv hs) hw

theorem settle_again (hv : v.IsProper) (h : d.settle f v = .ok o) :
    d.settle f (o.getD .null) = .ok o := by
  unfold settle at h
  split at h
  · split at h
    next default hdef =>
      obtain ⟨w, hw, rfl⟩ := map_ok.mp h
      -- a default may itself be blank, and is then filled in once more
      by_cases hu : w.isUnset = true
      · simp only [settle, Option.getD_some, hu, if_true, hdef, h]
      · simp only [settle, Option.getD_some, if_neg hu]
        exact map_ok.mpr ⟨w, cleanField_again (v := .text default) trivial hw, rfl⟩
    next hdef =>
      split at h
      · cases h
      next hr =>
        cases h
        simp only [settle, Option.getD_none, Value.isUnset, if_true, hdef, if_neg hr]
  next hset =>
    obtain ⟨w, hw, rfl⟩ := map_ok.mp h
    have hu : w.isUnset = false := cleanField_set (by simpa using hset) hw
    simp only [settle, Option.getD_some, hu, Bool.false_eq_true, if_false]
    exact map_ok.mpr ⟨w, cleanField_again hv hw, rfl⟩

-- ---------------------------------------------------------------------------
-- All fields
-- ---------------------------------------------------------------------------

def IsSettled (d : ChannelDefinition) (fs : List ConfigField) (config : Fields) : Prop :=
  ∀ f ∈ fs, d.settle f (config.getD f.key) = .ok (config.get? f.key)

theorem foldlM_of_settled (h : d.IsSettled fs config) :
    fs.foldlM d.cleanStep config = .ok config := by
  induction fs with
  | nil => rfl
  | cons f rest ih =>
    have hstep : d.cleanStep config f = .ok config := by
      rw [cleanStep_eq, h f List.mem_cons_self, Except.map, Fields.write_get?]
    rw [List.foldlM_cons, hstep]
    exact ih fun g hg => h g (List.mem_cons_of_mem f hg)

theorem foldlM_cons_ok_iff : (f :: fs).foldlM d.cleanStep config = .ok cleaned ↔
    ∃ o, d.settle f (config.getD f.key) = .ok o ∧
      fs.foldlM d.cleanStep (config.write f.key o) = .ok cleaned := by
  rw [List.foldlM_cons, cleanStep_eq, bind_ok]
  constructor
  · rintro ⟨_, hstep, hrest⟩
    obtain ⟨o, ho, rfl⟩ := map_ok.mp hstep
    exact ⟨o, ho, hrest⟩
  · rintro ⟨o, ho, hrest⟩
    exact ⟨_, map_ok.mpr ⟨o, ho, rfl⟩, hrest⟩

/-- Cleaning field by field makes of every field what its given value
settles to, and keeps what stands under other keys. -/
theorem get?_foldlM (hk : (fs.map (·.key)).Nodup)
    (h : fs.foldlM d.cleanStep config = .ok cleaned) :
    (∀ f ∈ fs, d.settle f (config.getD f.key) = .ok (cleaned.get? f.key)) ∧
      ∀ k ∉ fs.map (·.key), cleaned.get? k = config.get? k := by
  induction fs generalizing config with
  | nil =>
    cases h
    exact ⟨fun f hf => absurd hf List.not_mem_nil, fun k _ => rfl⟩
  | cons f rest ih =>
    obtain ⟨hnew, hrest⟩ := List.nodup_cons.mp hk
    obtain ⟨o, ho, h⟩ := foldlM_cons_ok_iff.mp h
    obtain ⟨hsettled, hkept⟩ := ih hrest h
    refine ⟨fun g hg => ?_, fun k hk => ?_⟩
    · rcases List.mem_cons.mp hg with rfl | hg
      · rw [hkept _ hnew, Fields.get?_write, if_pos rfl, ho]
      · -- the fields before `g` have other keys
        have hne : f.key ≠ g.key := fun heq => hnew (List.mem_map.mpr ⟨g, hg, heq.symm⟩)
        have hgiven := hsettled g hg
        rwa [Fields.getD, Fields.get?_write, if_neg hne] at hgiven
    · obtain ⟨hne, hk⟩ := not_or.mp (mt List.mem_cons.mpr hk)
      rw [hkept k hk, Fields.get?_write, if_neg (Ne.symm hne)]

theorem foldlM_keeps {P : Fields → Prop}
    (hstep : ∀ config f o, P config → d.settle f (config.getD f.key) = .ok o →
      P (config.write f.key o))
    (hp : P config) (h : fs.foldlM d.cleanStep config = .ok cleaned) : P cleaned := by
  induction fs generalizing config with
  | nil =>
    cases h
    exact hp
  | cons f rest ih =>
    obtain ⟨o, ho, h⟩ := foldlM_cons_ok_iff.mp h
    exact ih (hstep config f o hp ho) h

theorem clean_distinct (hd : config.keys.Nodup) (h : d.clean config = .ok cleaned) :
    cleaned.keys.Nodup :=
  foldlM_keeps (P := fun config => config.keys.Nodup)
    (fun _ f o hd _ => Fields.nodup_write hd f.key o) hd h

theorem clean_proper (hp : config.IsProper) (h : d.clean config = .ok cleaned) :
    cleaned.IsProper :=
  foldlM_keeps (fun _ f _ hp ho => hp.write f.key (settle_proper (hp.getD _) ho)) hp h

theorem clean_again (hk : (d.fields.map (·.key)).Nodup) (hp : config.IsProper)
    (h : d.clean config = .ok cleaned) : d.clean cleaned = .ok cleaned ∧ cleaned.IsProper := by
  have hsettled : d.IsSettled d.fields cleaned := fun f hf =>
    settle_again (hp.getD f.key) ((get?_foldlM hk h).1 f hf)
  exact ⟨foldlM_of_settled hsettled, clean_proper hp h⟩

end ChannelDefinition

theorem Catalog.keys_nodup {type : String} {d : ChannelDefinition}
    (h : Catalog.find? type = some d) : (d.fields.map (·.key)).Nodup := by
  have hall : ∀ d ∈ Catalog.definitions, (d.fields.map (·.key)).Nodup := by decide
  exact hall d (List.mem_of_find?_eq_some h)

def ChannelDefinition.isSecret (d : ChannelDefinition) (key : String) : Bool :=
  d.fields.any fun f => f.key == key && f.kind == .password

theorem ChannelDefinition.isSecret_iff {d : ChannelDefinition} {key : String} :
    d.isSecret key = true ↔ ∃ f ∈ d.fields, f.key = key ∧ f.kind = .password := by
  simp [isSecret]

theorem Catalog.password_bare {type : String} {d : ChannelDefinition}
    (h : Catalog.find? type = some d) :
    ∀ f ∈ d.fields, f.kind = .password → f.default? = none := by
  have hall : ∀ d ∈ Catalog.definitions, ∀ f ∈ d.fields, f.kind = .password →
      f.default? = none := by decide
  exact hall d (List.mem_of_find?_eq_some h)

theorem Catalog.kind_of_secret {type : String} {d : ChannelDefinition} {f : ConfigField}
    (h : Catalog.find? type = some d) (hf : f ∈ d.fields) (hs : d.isSecret f.key = true) :
    f.kind = .password := by
  obtain ⟨g, hg, hkey, hkind⟩ := ChannelDefinition.isSecret_iff.mp hs
  rwa [← List.inj_on_of_nodup_map (Catalog.keys_nodup h) hg hf hkey]

end AlertDelivery
