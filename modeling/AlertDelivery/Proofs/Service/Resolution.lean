import AlertDelivery.Proofs.FieldLaws
import AlertDelivery.Proofs.Service.Addressing
import AlertDelivery.Proofs.TextLaws

/-!
# Where an address comes from

A notification goes to the first of its sources that gives an address: the
preference of its user for the channel, the account of its user on the channel
for mail, and what it names itself. A source that is missing, null or blank is
passed over, and what is not among the three does not matter.
-/

namespace AlertDelivery

namespace Recipient

-- ---------------------------------------------------------------------------
-- Sources
-- ---------------------------------------------------------------------------

inductive Source where
  | preference
  | account
  | named
deriving DecidableEq, Repr

namespace Source

/-- The sources, in the order in which they are asked. -/
def all : List Source := [.preference, .account, .named]

inductive Offers (users : List User) (preferences : List Preference) (e : Queue.Entry) :
    Source → Value → Prop
  | preference {fields : Fields} (hp : p ∈ preferences) (huser : e.user = some p.user)
      (hchannel : p.channel = e.channel) (henabled : p.enabled = true)
      (hconfig : p.config = .record fields) (hv : fields.get? "address" = some v) :
    Offers users preferences e .preference v
  | account (hu : u ∈ users) (huser : e.user = some u.id) (hchannel : e.channel = accountChannel)
      (hemail : u.email = some email) : Offers users preferences e .account (.text email)
  | named (hv : e.values.get? "recipient" = some v) : Offers users preferences e .named v

end Source

variable {users users' : List User} {preferences preferences' : List Preference}
  {e : Queue.Entry} {source : Source} {v : Value} {user : Int} {channel address : String}

-- ---------------------------------------------------------------------------
-- Values
-- ---------------------------------------------------------------------------

/-- A value that gives an address: its text without the blanks around it. -/
structure Gives (v : Value) (address : String) : Prop where
  present : v ≠ .null
  trims : Text.Trims v.plain address
  nonempty : address ≠ ""

def Blank (v : Value) : Prop := v = .null ∨ ∀ c ∈ v.plain.toList, Text.isBlank c = true

theorem address?_of_ne (h : v ≠ .null) :
    address? v = if Text.trim v.plain = "" then none else some (Text.trim v.plain) := by
  unfold address?
  split
  · contradiction
  · simp [Option.filter, apply_ite]

theorem address?_eq_some_iff : address? v = some address ↔ Gives v address := by
  constructor
  · intro h
    have hv : v ≠ .null := by
      rintro rfl
      cases h
    rw [address?_of_ne hv] at h
    split at h <;> cases h
    exact ⟨hv, Text.trims_iff.mpr rfl, ‹_›⟩
  · rintro ⟨hv, htrims, hne⟩
    obtain rfl := Text.trims_iff.mp htrims
    rw [address?_of_ne hv, if_neg hne]

theorem address?_eq_none_iff : address? v = none ↔ Blank v := by
  by_cases hv : v = .null
  · simp [hv, address?, Blank]
  · simp [address?_of_ne hv, Blank, hv, Text.trim_eq_empty_iff]

-- ---------------------------------------------------------------------------
-- What a source gives
-- ---------------------------------------------------------------------------

def Source.address? (users : List User) (preferences : List Preference) (e : Queue.Entry) :
    Source → Option String
  | .preference => e.user.bind fun user => preferred? preferences user e.channel
  | .account => e.user.bind fun user =>
    if e.channel = accountChannel then account? users user else none
  | .named => named? e

/-- No two accounts of one id, and no two preferences of one user for one
channel. -/
structure Keyed (users : List User) (preferences : List Preference) : Prop where
  users : (users.map (·.id)).Nodup
  preferences : (preferences.map fun p => (p.user, p.channel)).Nodup

theorem address?_getD (fields : Fields) (key : String) :
    address? (fields.getD key) = (fields.get? key).bind address? := by
  unfold Fields.getD
  cases fields.get? key <;> rfl

theorem find?_only {p : α → Bool} {l : List α} {a : α}
    (hunique : ∀ b ∈ l, p b = true → b = a) (ha : a ∈ l) (hp : p a = true) :
    l.find? p = some a := by
  cases h : l.find? p with
  | none => exact absurd hp (List.find?_eq_none.mp h a ha)
  | some b => rw [hunique b (List.mem_of_find?_eq_some h) (List.find?_some h)]

theorem Keyed.preferred?_iff (hk : Keyed users preferences) :
    preferred? preferences user channel = some address ↔
      ∃ p ∈ preferences, p.user = user ∧ p.channel = channel ∧ p.enabled = true ∧
        ∃ fields v, p.config = .record fields ∧ Fields.get? fields "address" = some v ∧
          Gives v address := by
  constructor
  · intro h
    unfold preferred? at h
    split at h
    next p hp =>
      have hmem := List.mem_of_find?_eq_some hp
      have hmatch := List.find?_some hp
      simp only [Bool.and_eq_true, beq_iff_eq] at hmatch
      obtain ⟨⟨huser, hchannel⟩, henabled⟩ := hmatch
      split at h
      next fields hconfig =>
        rw [address?_getD, Option.bind_eq_some_iff] at h
        obtain ⟨v, hv, ha⟩ := h
        exact ⟨p, hmem, huser, hchannel, henabled, fields, v, hconfig, hv,
          address?_eq_some_iff.mp ha⟩
      · cases h
    · cases h
  · rintro ⟨p, hp, rfl, rfl, henabled, fields, v, hconfig, hv, hgives⟩
    have hfound : preferences.find? (fun q => q.user == p.user && q.channel == p.channel &&
        q.enabled) = some p := by
      refine find?_only (fun q hq hmatch => ?_) hp (by simp [henabled])
      simp only [Bool.and_eq_true, beq_iff_eq] at hmatch
      exact List.inj_on_of_nodup_map hk.preferences hq hp (Prod.ext hmatch.1.1 hmatch.1.2)
    simp only [preferred?, hfound, hconfig, address?_getD, hv, Option.bind_some]
    exact address?_eq_some_iff.mpr hgives

theorem Keyed.account?_iff (hk : Keyed users preferences) :
    account? users user = some address ↔
      ∃ u ∈ users, u.id = user ∧ ∃ email, u.email = some email ∧ Gives (.text email) address := by
  constructor
  · intro h
    unfold account? at h
    split at h
    next u hu =>
      obtain ⟨email, hemail, ha⟩ := Option.bind_eq_some_iff.mp h
      exact ⟨u, List.mem_of_find?_eq_some hu, by simpa using List.find?_some hu, email, hemail,
        address?_eq_some_iff.mp ha⟩
    · cases h
  · rintro ⟨u, hu, rfl, email, hemail, hgives⟩
    have hfound : users.find? (·.id == u.id) = some u :=
      find?_only (fun w hw hid => List.inj_on_of_nodup_map hk.users hw hu (by simpa using hid)) hu
        (by simp)
    simp only [account?, hfound, hemail, Option.bind_some]
    exact address?_eq_some_iff.mpr hgives

theorem named?_iff :
    named? e = some address ↔ ∃ v, e.values.get? "recipient" = some v ∧ Gives v address := by
  simp only [named?, address?_getD, Option.bind_eq_some_iff, address?_eq_some_iff]

theorem Keyed.address?_iff (hk : Keyed users preferences) :
    source.address? users preferences e = some address ↔
      ∃ v, source.Offers users preferences e v ∧ Gives v address := by
  cases source with
  | preference =>
    simp only [Source.address?, Option.bind_eq_some_iff, hk.preferred?_iff]
    constructor
    · rintro ⟨user, huser, p, hp, rfl, hchannel, henabled, fields, v, hconfig, hv, hgives⟩
      exact ⟨v, .preference hp huser hchannel henabled hconfig hv, hgives⟩
    · rintro ⟨v, hoffers, hgives⟩
      cases hoffers with
      | preference hp huser hchannel henabled hconfig hv =>
        exact ⟨_, huser, _, hp, rfl, hchannel, henabled, _, v, hconfig, hv, hgives⟩
  | account =>
    simp only [Source.address?, Option.bind_eq_some_iff, Option.ite_none_right_eq_some,
      hk.account?_iff]
    constructor
    · rintro ⟨user, huser, hchannel, u, hu, rfl, email, hemail, hgives⟩
      exact ⟨_, .account hu huser hchannel hemail, hgives⟩
    · rintro ⟨v, hoffers, hgives⟩
      cases hoffers with
      | account hu huser hchannel hemail =>
        exact ⟨_, huser, hchannel, _, hu, rfl, _, hemail, hgives⟩
  | named =>
    simp only [Source.address?, named?_iff]
    constructor
    · rintro ⟨v, hv, hgives⟩
      exact ⟨v, .named hv, hgives⟩
    · rintro ⟨v, hoffers, hgives⟩
      cases hoffers with
      | named hv => exact ⟨v, hv, hgives⟩

theorem blank_iff : Blank v ↔ ∀ address, ¬ Gives v address := by
  simp only [← address?_eq_none_iff, ← address?_eq_some_iff, Option.eq_none_iff_forall_ne_some,
    ne_eq]

theorem Keyed.address?_none_iff (hk : Keyed users preferences) :
    source.address? users preferences e = none ↔
      ∀ v, source.Offers users preferences e v → Blank v := by
  simp only [Option.eq_none_iff_forall_ne_some, ne_eq, hk.address?_iff, blank_iff, not_exists,
    not_and]
  exact ⟨fun h v hoffers address => h address v hoffers,
    fun h address v hoffers => h v hoffers address⟩

-- ---------------------------------------------------------------------------
-- The first source
-- ---------------------------------------------------------------------------

/-- An address from the first source that gives one: all that the earlier
sources offer is blank. -/
def First (users : List User) (preferences : List Preference) (e : Queue.Entry)
    (address : String) : Prop :=
  ∃ earlier source later, Source.all = earlier ++ source :: later ∧
    (∃ v, source.Offers users preferences e v ∧ Gives v address) ∧
    ∀ s ∈ earlier, ∀ v, s.Offers users preferences e v → Blank v

/-- Accounts and preferences that agree on the user and the channel of an
entry. What is disabled, or another's, or for another channel may differ. -/
structure Alike (e : Queue.Entry) (users users' : List User)
    (preferences preferences' : List Preference) : Prop where
  users : ∀ u, e.user = some u.id → (u ∈ users ↔ u ∈ users')
  preferences : ∀ p, e.user = some p.user → p.channel = e.channel → p.enabled = true →
    (p ∈ preferences ↔ p ∈ preferences')

theorem Alike.symm (h : Alike e users users' preferences preferences') :
    Alike e users' users preferences' preferences where
  users u huser := (h.users u huser).symm
  preferences p huser hchannel henabled := (h.preferences p huser hchannel henabled).symm

theorem Alike.offers (h : Alike e users users' preferences preferences')
    (hoffers : source.Offers users preferences e v) : source.Offers users' preferences' e v := by
  cases hoffers with
  | preference hp huser hchannel henabled hconfig hv =>
    exact .preference ((h.preferences _ huser hchannel henabled).mp hp) huser hchannel henabled
      hconfig hv
  | account hu huser hchannel hemail =>
    exact .account ((h.users _ huser).mp hu) huser hchannel hemail
  | named hv => exact .named hv

theorem Alike.first (h : Alike e users users' preferences preferences')
    (hfirst : First users preferences e address) : First users' preferences' e address := by
  obtain ⟨earlier, source, later, hall, ⟨v, hoffers, hgives⟩, hblank⟩ := hfirst
  exact ⟨earlier, source, later, hall, ⟨v, h.offers hoffers, hgives⟩,
    fun s hs v hv => hblank s hs v (h.symm.offers hv)⟩

theorem findSome?_all (f : Source → Option String) :
    Source.all.findSome? f = ((f .preference).or (f .account)).or (f .named) := by
  simp only [Source.all, List.findSome?_cons, List.findSome?_nil]
  cases f .preference <;> cases f .account <;> cases f .named <;> rfl

theorem addressOf?_eq (st : Store) (e : Queue.Entry) :
    Service.addressOf? st e = Source.all.findSome? (Source.address? st.users st.preferences e) := by
  rw [findSome?_all, Service.addressOf?]
  cases huser : e.user <;> simp [Source.address?, ofUser?, huser]

theorem Keyed.addressOf?_iff {st : Store} (hk : Keyed st.users st.preferences) :
    Service.addressOf? st e = some address ↔ First st.users st.preferences e address := by
  simp only [addressOf?_eq, List.findSome?_eq_some_iff, First, hk.address?_iff,
    hk.address?_none_iff]

theorem Keyed.addressOf?_none_iff {st : Store} (hk : Keyed st.users st.preferences) :
    Service.addressOf? st e = none ↔
      ∀ source : Source, ∀ v, source.Offers st.users st.preferences e v → Blank v := by
  have hall (source : Source) : source ∈ Source.all := by cases source <;> simp [Source.all]
  simp only [addressOf?_eq, List.findSome?_eq_none_iff, hk.address?_none_iff, hall, true_imp_iff]

-- ---------------------------------------------------------------------------
-- Resolutions through the store
-- ---------------------------------------------------------------------------

section
variable {st st' : Store}

theorem addressOr_ok_iff {found : Option String} :
    Service.addressOr e found st = .ok address st ↔ found = some address := by
  cases found with
  | none => exact ⟨nofun, nofun⟩
  | some a => exact ⟨fun h => by cases h; rfl, fun h => by cases h; rfl⟩

theorem addressOr_error_iff {found : Option String} :
    Service.addressOr e found st = .error (unresolved e) st ↔ found = none := by
  cases found with
  | none => exact ⟨fun _ => rfl, fun _ => rfl⟩
  | some a => exact ⟨nofun, nofun⟩

theorem resolve_refused (hup : st.isUp = true) (huser : e.user = some user)
    (hlarge : Queue.isStorable user = false) :
    Store.resolve e st = .error Queue.tooLargeToStore st := by
  have hst : Queue.storable [user] = .error Queue.tooLargeToStore := by
    simp [Queue.storable, hlarge]
  have hq : Store.userAddress user e.channel st = .error Queue.tooLargeToStore st := by
    rw [Store.userAddress, Store.query_run, if_pos hup, hst]
    rfl
  unfold Store.resolve
  rw [huser]
  exact run_bind_error hq

/-- A notification goes to the address of the first source that gives one, and
to none exactly when all that the sources offer is blank; nothing else that the
store holds matters. But a user whose id no column can hold is not looked for. -/
theorem first_source_wins (hup : st.isUp = true) (hk : Keyed st.users st.preferences) :
    ((∀ user, e.user = some user → Queue.isStorable user = true) →
      ((∃ address, Store.resolve e st = .ok address st) ∨
        Store.resolve e st = .error (unresolved e) st) ∧
      (∀ address, Store.resolve e st = .ok address st ↔
        First st.users st.preferences e address) ∧
      (Store.resolve e st = .error (unresolved e) st ↔
        ∀ source : Source, ∀ v, source.Offers st.users st.preferences e v → Blank v) ∧
      (∀ address, Store.resolve e st = .ok address st → address ≠ "" ∧
        ∀ h : address.toList ≠ [], Text.isBlank (address.toList.head h) = false ∧
          Text.isBlank (address.toList.getLast h) = false) ∧
      ∀ other : Store, other.isUp = true → Keyed other.users other.preferences →
        Alike e st.users other.users st.preferences other.preferences →
        ∀ address, Store.resolve e other = .ok address other ↔
          Store.resolve e st = .ok address st) ∧
    (∀ user, e.user = some user → Queue.isStorable user = false →
      Store.resolve e st = .error Queue.tooLargeToStore st) := by
  refine ⟨fun hu => ?_, fun user huser hlarge => resolve_refused hup huser hlarge⟩
  have hok (other : Store) (hup : other.isUp = true) (hk : Keyed other.users other.preferences)
      (address : String) : Store.resolve e other = .ok address other ↔
        First other.users other.preferences e address := by
    rw [Service.resolve_run hup hu, addressOr_ok_iff, hk.addressOf?_iff]
  refine ⟨?_, hok st hup hk, ?_, fun address h => ?_, fun other hup' hk' halike address => ?_⟩
  · rw [Service.resolve_run hup hu]
    cases Service.addressOf? st e with
    | some address => exact .inl ⟨address, rfl⟩
    | none => exact .inr rfl
  · rw [Service.resolve_run hup hu, addressOr_error_iff, hk.addressOf?_none_iff]
  · obtain ⟨_, _, _, -, ⟨_, -, hgives⟩, -⟩ := (hok st hup hk address).mp h
    exact ⟨hgives.nonempty, fun h => ⟨hgives.trims.head h, hgives.trims.last h⟩⟩
  · rw [hok other hup' hk', hok st hup hk]
    exact ⟨halike.symm.first, halike.first⟩

end

/-- A user with a blank address for mail, a preference switched off, and an
account. -/
def switched : Store := {
  users := [{ id := 7, username := "ann", email := some " ann@example.org " }]
  preferences := [
    { id := 1, user := 7, channel := "email", config := .record [("address", .text " ")] },
    { id := 2, user := 8, channel := "email", config := .record [("address", .text "bob")] },
    { id := 3, user := 7, channel := "slack", enabled := false,
      config := .record [("address", .text "#ops")] }] }

theorem switched_keyed : Keyed switched.users switched.preferences :=
  ⟨by simp [switched], by simp [switched]⟩

def annsMail : Queue.Entry :=
  { id := 1, channel := "email", subject := "Storm", body := "", user := some 7,
    values := [("recipient", .text "#all")] }

theorem switched_first : First switched.users switched.preferences annsMail "ann@example.org" := by
  refine ⟨[.preference], .account, [.named], rfl, ⟨_, .account (.head _) rfl rfl rfl, nofun,
    Text.trims_iff.mpr (by decide +kernel), by decide⟩, ?_⟩
  intro s hs v hoffers
  obtain rfl := List.mem_singleton.mp hs
  cases hoffers with
  | preference hp huser hchannel henabled hconfig hv =>
    simp only [switched, List.mem_cons, List.not_mem_nil, or_false] at hp
    rcases hp with rfl | rfl | rfl
    · cases hconfig
      cases hv
      exact address?_eq_none_iff.mp (by decide +kernel)
    · cases huser
    · cases henabled

theorem first_source_wins_account :
    Store.resolve annsMail switched = .ok "ann@example.org" switched := by
  have hup : switched.isUp = true := rfl
  obtain ⟨hresolves, -⟩ := first_source_wins (e := annsMail) hup switched_keyed
  obtain ⟨-, hfirst, -⟩ := hresolves (by decide)
  exact (hfirst "ann@example.org").mpr switched_first

/-- What an entry of a user that no account can have names is not asked for. -/
theorem first_source_not_always_wins :
    ¬ ∀ (st : Store) (e : Queue.Entry) (address : String), st.isUp = true →
      Keyed st.users st.preferences → First st.users st.preferences e address →
      Store.resolve e st = .ok address st := by
  intro h
  let e : Queue.Entry :=
    { id := 1, channel := "email", subject := "Storm", body := "",
      user := some 9223372036854775808, values := [("recipient", .text "a@b")] }
  have hfirst : First [] [] e "a@b" := by
    refine ⟨[.preference, .account], .named, [], rfl, ⟨_, .named rfl, nofun,
      Text.trims_iff.mpr (by decide +kernel), by decide⟩, ?_⟩
    intro s hs v hoffers
    cases hoffers with
    | preference hp => cases hp
    | account hu => cases hu
    | named => simp at hs
  have hresolves := h {} e "a@b" rfl ⟨.nil, .nil⟩ hfirst
  rw [resolve_refused rfl rfl (by decide)] at hresolves
  cases hresolves

end Recipient

end AlertDelivery
