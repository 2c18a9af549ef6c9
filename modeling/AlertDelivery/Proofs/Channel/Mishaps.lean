import AlertDelivery.Proofs.Catalog.Refusals
import AlertDelivery.Proofs.Channel.Confirmation
import AlertDelivery.Proofs.Channel.MailConversation
import AlertDelivery.Proofs.Service.Restart

/-!
# Sends that end in a mishap

A channel reports most of what can go wrong with a message as a failed send.
Some failures escape it: a message that does not fit into a letter or a
request, an address that cannot be read, a step of mailing that the library
cannot take, a reply that is not understood. `Kind.Slips` lists them for a
channel whose configuration was accepted, and nothing else escapes.
-/

namespace AlertDelivery

-- ---------------------------------------------------------------------------
-- Addresses and relays
-- ---------------------------------------------------------------------------

namespace Web.Location

variable {s scheme : String} {digits cs : List Char} {l : Location} {fault : Fault}

theorem readPort_error (h : readPort scheme digits = .error fault) :
    fault = badPort digits := by
  unfold readPort at h
  dsimp only at h
  split_ifs at h <;> exact (Except.error.inj h).symm

theorem readAuthority_error (h : l.readAuthority cs = .error fault) :
    ∃ problem, fault = badAddress problem := by
  unfold readAuthority at h
  dsimp only at h
  rcases bind_error.mp h with hport | ⟨_, -, hpure⟩
  · exact ⟨_, readPort_error hport⟩
  · cases hpure

theorem read_error (h : read s = .error fault) : ∃ problem, fault = badAddress problem := by
  unfold read at h
  dsimp only at h
  split_ifs at h with hlong _ hcontrol
  · exact ⟨_, (Except.error.inj h).symm⟩
  · exact ⟨_, (Except.error.inj h).symm⟩
  · exact ⟨_, (Except.error.inj h).symm⟩
  · split at h
    · rcases bind_error.mp h with hauthority | ⟨_, -, hpure⟩
      · exact readAuthority_error (map_error.mp hauthority)
      · cases hpure
    · cases h

end Web.Location

namespace Mail

/-- The faults of a relay, and of the way to it, are not the service's own. -/
def Relay.IsForeign (relay : Relay) : Prop :=
  ∀ step fault, relay step = some fault → ∃ kind problem, fault = .mishap kind problem

/-- The faults of the library that reads headers are not the service's own. -/
structure Reader.IsForeign (r : Reader) : Prop where
  subject : ∀ text fault, r.subject text = .error fault →
    ∃ kind problem, fault = .mishap kind problem
  address : ∀ text fault, r.address text = .error fault →
    ∃ kind problem, fault = .mishap kind problem

def Refuses (read : String → Except Fault String) (text : String) (kind : Mishap) : Prop :=
  hasSecondLine text = true ∧ kind = .value ∨
    hasSecondLine text = false ∧ ∃ problem, read text = .error (.mishap kind problem)

variable {read : String → Except Fault String} {text : String} {relay : Relay}
  {before rest : List Step} {step : Step} {fault : Fault}

theorem header_refused (h : Refuses read text kind) :
    ∃ problem, header read text = .error (.mishap kind problem) := by
  rcases h with ⟨hlines, rfl⟩ | ⟨hline, problem, hread⟩
  · exact ⟨_, if_pos hlines⟩
  · exact ⟨problem, (if_neg (Bool.eq_false_iff.mp hline)).trans hread⟩

theorem header_cases
    (hread : ∀ fault, read text = .error fault → ∃ kind problem, fault = .mishap kind problem) :
    (∃ shown, header read text = .ok shown) ∨ ∃ kind, Refuses read text kind := by
  unfold header
  split_ifs with hlines
  · exact .inr ⟨_, .inl ⟨hlines, rfl⟩⟩
  · cases h : read text with
    | ok shown => exact .inl ⟨shown, rfl⟩
    | error fault =>
      obtain ⟨kind, problem, rfl⟩ := hread fault h
      exact .inr ⟨kind, .inr ⟨Bool.eq_false_iff.mpr hlines, problem, h⟩⟩

theorem converse_broken (hbefore : ∀ s ∈ before, relay s = none) (hstep : relay step = some fault) :
    (converse relay (before ++ step :: rest)).1 = .error fault := by
  induction before with
  | nil => simp [converse, hstep]
  | cons first before ih =>
    rw [List.cons_append, converse, hbefore first List.mem_cons_self]
    exact ih fun s hs => hbefore s (List.mem_cons_of_mem first hs)

end Mail

namespace Channel

variable {submitted config : Fields} {m : Message} {s : String}

-- ---------------------------------------------------------------------------
-- Requests
-- ---------------------------------------------------------------------------

namespace WebKind

variable {k : WebKind} {kind : Mishap} {p : Int}

def address? (k : WebKind) (config : Fields) : Option String :=
  match k with
  | .webhook => textOf (config.getD "url")
  | .slack | .discord => textOf (config.getD "webhook_url")
  | .telegram => (baseAddress (orDefault config "api_base" "https://api.telegram.org")).toOption.map
      fun base => base ++ "/bot" ++ (config.getD "bot_token").plain ++ "/sendMessage"
  | .twilio =>
    (baseAddress (orDefault config "api_base" "https://api.twilio.com/2010-04-01")).toOption.map
      fun base => base ++ "/Accounts/" ++ (config.getD "account_sid").plain ++ "/Messages.json"
  | .gotify => (baseAddress (config.getD "url")).toOption.map (· ++ "/message")
  | .pushover => textOf (orDefault config "api_url" "https://api.pushover.net/1/messages.json")
where
  textOf : Value → Option String
  | .text s => some s
  | _ => none

theorem textOf_eq_some {v : Value} : address?.textOf v = some s ↔ v = .text s := by
  cases v <;> simp [address?.textOf]

theorem based_eq_some {v : Value} {f : String → String} :
    (baseAddress v).toOption.map f = some s ↔ ∃ base, baseAddress v = .ok base ∧ f base = s := by
  cases baseAddress v <;> simp [Except.toOption]

def IsMadeFor (s : String) (made : Except Fault Web.Request) : Prop :=
  (∀ fault, Web.Location.read s = .error fault → made = .error fault) ∧
    ∀ l, Web.Location.read s = .ok l → ∃ r, made = .ok r

theorem isMadeFor_bind {next : Web.Location → Except Fault Web.Request}
    (h : ∀ l, ∃ r, next l = .ok r) : IsMadeFor s (Web.Location.read s >>= next) := by
  constructor
  · intro fault hread
    rw [hread]
    rfl
  · intro l hread
    rw [hread]
    exact h l

theorem documentRequest_ok {location : Web.Location} {secret : Option String} {fields : Fields}
    (h : anyFieldUnwritable fields = false) : ∃ r, documentRequest location secret fields = .ok r :=
  ⟨_, if_neg (by simp [h])⟩

theorem writable_of_text {k : Kind} (h : k.definition.clean submitted = .ok config) (key : String)
    (hkey : ∃ f ∈ k.definition.fields, f.key = key ∧ f.isText = true) :
    hasUnwritable (config.getD key) = false := by
  rcases Kind.getD_text h key hkey with hv | ⟨s, hv⟩ <;> simp [hv, hasUnwritable]

theorem slackRequest_made (hclean : Catalog.slack.clean submitted = .ok config)
    (hurl : config.getD "webhook_url" = .text s) : IsMadeFor s (slackRequest config m) := by
  have hchannel := writable_of_text (k := .web .slack) hclean "channel" (by decide)
  simp only [slackRequest, hurl, locate]
  refine isMadeFor_bind fun l => documentRequest_ok ?_
  cases (config.getD "channel").truthy <;> simp [anyFieldUnwritable, hasUnwritable, hchannel]

theorem discordRequest_made (hclean : Catalog.discord.clean submitted = .ok config)
    (hurl : config.getD "webhook_url" = .text s) : IsMadeFor s (discordRequest config m) := by
  have huser : hasUnwritable (orDefault config "username" "Weather Alerts") = false := by
    cases hv : config.get? "username" with
    | none => simp [orDefault, hv, hasUnwritable]
    | some v =>
      obtain ⟨name, rfl⟩ := Kind.get?_text (k := .web .discord) hclean (by decide) hv
      simp [orDefault, hv, hasUnwritable]
  simp only [discordRequest, hurl, locate]
  exact isMadeFor_bind fun l =>
    documentRequest_ok (by simp [anyFieldUnwritable, hasUnwritable, huser])

theorem chatOf_truthy (h : telegram.Reaches config m) : (chatOf config m).truthy = true := by
  by_cases hm : m.recipient = ""
  · simpa [Reaches, chatOf, hm] using h
  · simp [chatOf, hm, Value.truthy]

theorem telegramRequest_made {base : String}
    (hclean : Catalog.telegram.clean submitted = .ok config) (hreach : telegram.Reaches config m)
    (hbase : baseAddress (orDefault config "api_base" "https://api.telegram.org") = .ok base) :
    IsMadeFor (base ++ "/bot" ++ (config.getD "bot_token").plain ++ "/sendMessage")
      (telegramRequest config m) := by
  have hchat : hasUnwritable (chatOf config m) = false := by
    by_cases hm : m.recipient = ""
    · simpa [chatOf, hm] using
        writable_of_text (k := .web .telegram) hclean "chat_id" (by decide)
    · simp [chatOf, hm, hasUnwritable]
  simp only [telegramRequest, chatOf_truthy hreach, Bool.not_true, Bool.false_eq_true, if_false,
    hbase, ok_bind, locate]
  exact isMadeFor_bind fun l =>
    documentRequest_ok (by simp [anyFieldUnwritable, hasUnwritable, hchat])

theorem twilioRequest_made {base : String} (hclean : Catalog.twilio.clean submitted = .ok config)
    (hphone : isPhoneNumber m.recipient = true)
    (hbase : baseAddress (orDefault config "api_base" "https://api.twilio.com/2010-04-01") =
      .ok base) :
    IsMadeFor (base ++ "/Accounts/" ++ (config.getD "account_sid").plain ++ "/Messages.json")
      (twilioRequest config m) := by
  obtain ⟨sid, hsid⟩ :=
    Kind.getD_required (k := .web .twilio) hclean "account_sid" (by decide) (by decide)
  obtain ⟨token, htoken⟩ :=
    Kind.getD_required (k := .web .twilio) hclean "auth_token" (by decide) (by decide)
  simp only [twilioRequest, hphone, Bool.not_true, Bool.false_eq_true, if_false, hbase, ok_bind,
    locate]
  exact isMadeFor_bind fun l => ⟨_, by simp [hsid, htoken, accountText]; rfl⟩

theorem gotifyRequest_made {base : String} (hpriority : m.priority = .ok p)
    (hbase : baseAddress (config.getD "url") = .ok base) :
    IsMadeFor (base ++ "/message") (gotifyRequest config m) := by
  simp only [gotifyRequest, hpriority, hbase, ok_bind, locate]
  exact isMadeFor_bind fun l => documentRequest_ok (by simp [anyFieldUnwritable, hasUnwritable])

theorem pushoverRequest_made (hm : m.recipient ≠ "") (hpriority : m.priority = .ok p)
    (hurl : orDefault config "api_url" "https://api.pushover.net/1/messages.json" = .text s) :
    IsMadeFor s (pushoverRequest config m) := by
  simp only [pushoverRequest, hm, if_false, hpriority, hurl, ok_bind, locate]
  exact isMadeFor_bind fun l => ⟨_, rfl⟩

theorem priority_eq (hp : m.metadata.get? "priority" = some (.int p)) : m.priority = .ok p := by
  simp [Message.priority, hp, Value.toInt]

theorem compose_addressed (hclean : (Kind.web k).definition.clean submitted = .ok config)
    (hreach : k.Reaches config m) (hp : m.metadata.get? "priority" = some (.int p))
    (haddress : k.address? config = some s) (hk : k ≠ .webhook) :
    IsMadeFor s (k.compose config m) := by
  have hcomplete := Kind.clean_complete hclean
  have hpriority := priority_eq hp
  cases k with
  | webhook => exact absurd rfl hk
  | slack =>
    simpa [compose, hcomplete] using slackRequest_made hclean (textOf_eq_some.mp haddress)
  | discord =>
    simpa [compose, hcomplete] using discordRequest_made hclean (textOf_eq_some.mp haddress)
  | telegram =>
    obtain ⟨base, hbase, rfl⟩ := based_eq_some.mp haddress
    simpa [compose, hcomplete] using telegramRequest_made hclean hreach hbase
  | twilio =>
    obtain ⟨base, hbase, rfl⟩ := based_eq_some.mp haddress
    simpa [compose, hcomplete] using twilioRequest_made hclean hreach hbase
  | gotify =>
    obtain ⟨base, hbase, rfl⟩ := based_eq_some.mp haddress
    simpa [compose, hcomplete] using gotifyRequest_made hpriority hbase
  | pushover =>
    simpa [compose, hcomplete] using
      pushoverRequest_made hreach hpriority (textOf_eq_some.mp haddress)

theorem compose_webhook (hclean : Catalog.webhook.clean submitted = .ok config)
    (haddress : webhook.address? config = some s) :
    webhook.compose config m = Web.Location.read s >>= fun l =>
      headerSecret config >>= fun secret => documentRequest l secret [
        ("recipient", .text m.recipient), ("subject", .text m.subject), ("body", .text m.body),
        ("metadata", .record m.metadata)] := by
  have hcomplete := Kind.clean_complete (k := .web .webhook) hclean
  simp [compose, hcomplete, webhookRequest, textOf_eq_some.mp haddress, locate]

theorem baseAddress_error {v : Value} (h : (baseAddress v).toOption = none) :
    ∃ problem, baseAddress v = .error (.mishap .attribute problem) := by
  cases v with
  | text s => simp [baseAddress, Except.toOption] at h
  | _ => exact ⟨_, rfl⟩

theorem locate_error {v : Value} (h : address?.textOf v = none) :
    ∃ problem, locate v = .error (.mishap .type problem) := by
  cases v with
  | text s => simp [address?.textOf] at h
  | _ => exact ⟨_, rfl⟩

/-- What a form gives as an address is a text, so only an address that no form
knows can be something else. -/
theorem compose_unaddressed
    (hclean : (Kind.web k).definition.clean submitted = .ok config) (hreach : k.Reaches config m)
    (hp : m.metadata.get? "priority" = some (.int p)) (haddress : k.address? config = none) :
    ∃ problem, (k = .telegram ∨ k = .twilio) ∧
        k.compose config m = .error (.mishap .attribute problem) ∨
      k = .pushover ∧ k.compose config m = .error (.mishap .type problem) := by
  have hcomplete := Kind.clean_complete hclean
  cases k with
  | webhook =>
    obtain ⟨url, hurl⟩ := Kind.getD_required hclean "url" (by decide) (by decide)
    simp [address?, hurl, address?.textOf] at haddress
  | slack | discord =>
    obtain ⟨url, hurl⟩ := Kind.getD_required hclean "webhook_url" (by decide) (by decide)
    simp [address?, hurl, address?.textOf] at haddress
  | gotify =>
    obtain ⟨url, hurl⟩ := Kind.getD_required hclean "url" (by decide) (by decide)
    simp [address?, hurl, baseAddress, Except.toOption] at haddress
  | telegram =>
    obtain ⟨problem, hbase⟩ := baseAddress_error (Option.map_eq_none_iff.mp haddress)
    have hchat : (chatOf config m).truthy = true := chatOf_truthy hreach
    exact ⟨problem, .inl ⟨.inl rfl,
      by simp [compose, hcomplete, telegramRequest, hchat, hbase]; rfl⟩⟩
  | twilio =>
    obtain ⟨problem, hbase⟩ := baseAddress_error (Option.map_eq_none_iff.mp haddress)
    have hphone : isPhoneNumber m.recipient = true := hreach
    exact ⟨problem, .inl ⟨.inr rfl,
      by simp [compose, hcomplete, twilioRequest, hphone, hbase]; rfl⟩⟩
  | pushover =>
    obtain ⟨problem, hurl⟩ := locate_error haddress
    have hm : m.recipient ≠ "" := hreach
    exact ⟨problem, .inr ⟨rfl, by
      simp [compose, hcomplete, pushoverRequest, hm, priority_eq hp, hurl, ok_bind]⟩⟩

def SecretFits (config : Fields) : Prop :=
  (config.getD "secret").truthy = true → (config.getD "secret").plain.toList.all isAscii = true

theorem headerSecret_ok (h : SecretFits config) : ∃ secret, headerSecret config = .ok secret := by
  unfold headerSecret
  cases ht : (config.getD "secret").truthy with
  | false => exact ⟨none, by simp [ht]⟩
  | true => exact ⟨some (config.getD "secret").plain, by simpa [ht] using h ht⟩

theorem headerSecret_error (h : ¬SecretFits config) :
    ∃ problem, headerSecret config = .error (.mishap .encoding problem) := by
  obtain ⟨ht, hascii⟩ := Classical.not_imp.mp h
  exact ⟨_, by simp [headerSecret, ht, Bool.eq_false_iff.mpr hascii]; rfl⟩

/-- Why no request can be made of a message that has a place to go. -/
inductive Misfits (config : Fields) (m : Message) : WebKind → Mishap → Prop
  | base {k : WebKind} (hk : k = .telegram ∨ k = .twilio) (hreach : k.Reaches config m)
    (h : k.address? config = none) : Misfits config m k .attribute
  | url (hreach : pushover.Reaches config m) (h : pushover.address? config = none) :
    Misfits config m .pushover .type
  | address {k : WebKind} {s : String} {fault : Fault} (hreach : k.Reaches config m)
    (h : k.address? config = some s) (hread : Web.Location.read s = .error fault) :
    Misfits config m k .address
  | secret {s : String} {l : Web.Location} (h : webhook.address? config = some s)
    (hread : Web.Location.read s = .ok l) (hsecret : ¬SecretFits config) :
    Misfits config m .webhook .encoding
  | metadata {s : String} {l : Web.Location} (h : webhook.address? config = some s)
    (hread : Web.Location.read s = .ok l) (hsecret : SecretFits config)
    (hmetadata : anyFieldUnwritable m.metadata = true) : Misfits config m .webhook .value

theorem Misfits.compose (hclean : (Kind.web k).definition.clean submitted = .ok config)
    (hp : m.metadata.get? "priority" = some (.int p)) (h : k.Misfits config m kind) :
    ∃ problem, k.compose config m = .error (.mishap kind problem) := by
  cases h with
  | base hk hreach h =>
    obtain ⟨problem, ⟨-, hc⟩ | ⟨rfl, -⟩⟩ := compose_unaddressed hclean hreach hp h
    · exact ⟨problem, hc⟩
    · simp at hk
  | url hreach h =>
    obtain ⟨problem, ⟨hk, -⟩ | ⟨-, hc⟩⟩ := compose_unaddressed hclean hreach hp h
    · simp at hk
    · exact ⟨problem, hc⟩
  | address hreach h hread =>
    obtain ⟨problem, rfl⟩ := Web.Location.read_error hread
    by_cases hk : k = .webhook
    · subst hk
      exact ⟨problem, by rw [compose_webhook hclean h, hread]; rfl⟩
    · exact ⟨problem, (compose_addressed hclean hreach hp h hk).1 _ hread⟩
  | secret h hread hsecret =>
    obtain ⟨problem, herror⟩ := headerSecret_error hsecret
    exact ⟨problem, by rw [compose_webhook hclean h, hread, ok_bind, herror]; rfl⟩
  | metadata h hread hsecret hmetadata =>
    obtain ⟨secret, hok⟩ := headerSecret_ok hsecret
    refine ⟨"Out of range float values are not JSON compliant", ?_⟩
    rw [compose_webhook hclean h, hread, ok_bind, hok, ok_bind]
    simp [documentRequest, anyFieldUnwritable, hasUnwritable, hmetadata, Fault.badValue]

theorem webhook_cases {l : Web.Location} (hclean : Catalog.webhook.clean submitted = .ok config)
    (haddress : webhook.address? config = some s) (hread : Web.Location.read s = .ok l) :
    (∃ kind, webhook.Misfits config m kind) ∨ ∃ r, webhook.compose config m = .ok r := by
  by_cases hsecret : SecretFits config
  · obtain ⟨secret, hok⟩ := headerSecret_ok hsecret
    cases hmetadata : anyFieldUnwritable m.metadata with
    | true => exact .inl ⟨_, .metadata haddress hread hsecret hmetadata⟩
    | false =>
      rw [compose_webhook hclean haddress, hread, ok_bind, hok, ok_bind]
      exact .inr (documentRequest_ok (by simp [anyFieldUnwritable, hasUnwritable, hmetadata]))
  · exact .inl ⟨_, .secret haddress hread hsecret⟩

theorem compose_cases (hclean : (Kind.web k).definition.clean submitted = .ok config)
    (hp : m.metadata.get? "priority" = some (.int p)) :
    (∃ problem, k.compose config m = .error (.sendFailed k.type problem [])) ∨
    (∃ kind, k.Misfits config m kind) ∨ ∃ r, k.compose config m = .ok r := by
  by_cases hreach : k.Reaches config m
  · right
    cases haddress : k.address? config with
    | none =>
      obtain ⟨problem, ⟨hk, -⟩ | ⟨rfl, -⟩⟩ := compose_unaddressed hclean hreach hp haddress
      · exact .inl ⟨_, .base hk hreach haddress⟩
      · exact .inl ⟨_, .url hreach haddress⟩
    | some s =>
      cases hread : Web.Location.read s with
      | error fault => exact .inl ⟨_, .address hreach haddress hread⟩
      | ok l =>
        by_cases hk : k = .webhook
        · subst hk
          exact webhook_cases hclean haddress hread
        · exact .inr ((compose_addressed hclean hreach hp haddress hk).2 l hread)
  · exact .inl (compose_refused (.inr hreach))

-- ---------------------------------------------------------------------------
-- Replies
-- ---------------------------------------------------------------------------

/-- What a chat service may reply with success and not be understood. -/
inductive Misreads : WebKind → Web.Outcome → Mishap → Prop
  | noDocument {status : Int} (h : 200 ≤ status ∧ status ≤ 299) :
    Misreads .telegram (.reply status none) .document
  | noRecord {status : Int} {v : Value} (h : 200 ≤ status ∧ status ≤ 299)
    (hv : ∀ fields, v ≠ .record fields) : Misreads .telegram (.reply status (some v)) .attribute

theorem acceptDocument_odd {v : Value} (h : ∀ fields, v ≠ .record fields) :
    ∃ problem, acceptDocument (some v) = .error (.mishap .attribute problem) := by
  cases v with
  | record fields => exact absurd rfl (h fields)
  | _ => exact ⟨_, rfl⟩

theorem Misreads.accept {outcome : Web.Outcome} (h : k.Misreads outcome kind) :
    ∃ problem, k.accept outcome = .error (.mishap kind problem) := by
  cases h with
  | noDocument h => exact ⟨_, by rw [accept_success h, if_pos rfl]; rfl⟩
  | noRecord h hv =>
    obtain ⟨problem, hp⟩ := acceptDocument_odd hv
    exact ⟨problem, by rw [accept_success h, if_pos rfl, hp]⟩

theorem accept_cases (k : WebKind) (outcome : Web.Outcome) :
    k.accept outcome = .ok () ∨
    (∃ problem details, k.accept outcome = .error (.sendFailed k.type problem details)) ∨
    ∃ kind, k.Misreads outcome kind := by
  cases outcome with
  | broken problem => exact .inr (.inl ⟨_, _, rfl⟩)
  | reply status document =>
    by_cases hstatus : 200 ≤ status ∧ status ≤ 299
    · rw [accept_success hstatus]
      split_ifs with hk
      · subst hk
        cases document with
        | none => exact .inr (.inr ⟨_, .noDocument hstatus⟩)
        | some v =>
          by_cases hv : ∃ fields, v = .record fields
          · obtain ⟨fields, rfl⟩ := hv
            simp only [acceptDocument]
            split_ifs
            · exact .inl rfl
            · exact .inr (.inl ⟨_, _, rfl⟩)
          · exact .inr (.inr ⟨_, .noRecord hstatus (not_exists.mp hv)⟩)
      · exact .inl rfl
    · exact .inr (.inl ⟨_, _, accept_refusal hstatus⟩)

end WebKind

-- ---------------------------------------------------------------------------
-- Mail
-- ---------------------------------------------------------------------------

namespace Email

theorem portOf_eq {v : Value} (h : config.getD "port" = v) (hv : v ≠ .null) :
    portOf config = v.toInt := by
  cases hget : config.get? "port" with
  | none => exact absurd (by simpa [Fields.getD, hget] using h.symm) hv
  | some w =>
    obtain rfl : w = v := by simpa [Fields.getD, hget] using h
    simp [portOf, hget]

/-- The port of a cleaned configuration is a number, but not always one that
has an integer part. -/
theorem portOf_cases (h : Catalog.email.clean submitted = .ok config) :
    (∃ port, portOf config = .ok port) ∨ config.getD "port" = .real .nan ∨
      config.getD "port" = .real .posInf ∨ config.getD "port" = .real .negInf := by
  obtain ⟨x, hv⟩ := Kind.port_number h
  unfold portOf
  simp only [Fields.getD, hv, Option.getD_some]
  cases x with
  | finite q =>
    left
    by_cases hq : q.den = 1
    · exact ⟨q.num, by simp [ChannelDefinition.numberValue, Binary64.integral?, hq, Value.toInt]⟩
    · exact ⟨Binary64.truncate q,
        by simp [ChannelDefinition.numberValue, Binary64.integral?, hq, Value.toInt]⟩
  | negZero => exact .inl ⟨0, rfl⟩
  | nan => exact .inr (.inl rfl)
  | posInf => exact .inr (.inr (.inl rfl))
  | negInf => exact .inr (.inr (.inr rfl))

variable {reader : Mail.Reader} {kind : Mishap}

/-- The first header of a letter that is refused, in the order in which they
are written. -/
inductive BadHeader (reader : Mail.Reader) (config : Fields) (m : Message) : Mishap → Prop
  | subject {kind : Mishap} (h : Mail.Refuses reader.subject m.subject kind) :
    BadHeader reader config m kind
  | sender {kind : Mishap} {subject : String}
    (hs : Mail.header reader.subject m.subject = .ok subject)
    (h : Mail.Refuses reader.address (config.getD "from_address").plain kind) :
    BadHeader reader config m kind
  | recipient {kind : Mishap} {subject sender : String}
    (hs : Mail.header reader.subject m.subject = .ok subject)
    (hf : Mail.header reader.address (config.getD "from_address").plain = .ok sender)
    (h : Mail.Refuses reader.address m.recipient kind) : BadHeader reader config m kind

theorem letterOf_addressed (hc : isComplete Kind.email.requiredKeys config = true)
    (hat : '@' ∈ m.recipient.toList) : letterOf reader config m =
      Mail.Letter.write reader (config.getD "from_address").plain m.recipient m.subject m.body := by
  simp [letterOf, hc, hat]

theorem letterOf_bad (hc : isComplete Kind.email.requiredKeys config = true)
    (hat : '@' ∈ m.recipient.toList) (h : BadHeader reader config m kind) :
    ∃ problem, letterOf reader config m = .error (.mishap kind problem) := by
  rw [letterOf_addressed hc hat, Mail.Letter.write]
  cases h with
  | subject h =>
    obtain ⟨problem, hp⟩ := Mail.header_refused h
    exact ⟨problem, by rw [hp]; rfl⟩
  | sender hs h =>
    obtain ⟨problem, hp⟩ := Mail.header_refused h
    exact ⟨problem, by rw [hs, ok_bind, hp]; rfl⟩
  | recipient hs hf h =>
    obtain ⟨problem, hp⟩ := Mail.header_refused h
    exact ⟨problem, by rw [hs, ok_bind, hf, ok_bind, hp]; rfl⟩

theorem letterOf_cases (hc : isComplete Kind.email.requiredKeys config = true)
    (hreader : reader.IsForeign) :
    (∃ problem, letterOf reader config m = .error (.sendFailed "email" problem [])) ∨
    ('@' ∈ m.recipient.toList ∧ ∃ kind, BadHeader reader config m kind) ∨
    ∃ letter, letterOf reader config m = .ok letter := by
  by_cases hat : '@' ∈ m.recipient.toList
  · rcases Mail.header_cases (hreader.subject m.subject) with ⟨subject, hs⟩ | ⟨kind, h⟩
    · rcases Mail.header_cases (hreader.address (config.getD "from_address").plain) with
        ⟨sender, hf⟩ | ⟨kind, h⟩
      · rcases Mail.header_cases (hreader.address m.recipient) with ⟨recipient, hr⟩ | ⟨kind, h⟩
        · refine .inr (.inr ⟨⟨subject, sender, recipient, Mail.contentOf m.body⟩, ?_⟩)
          rw [letterOf_addressed hc hat, Mail.Letter.write, hs, ok_bind, hf, ok_bind, hr]
          rfl
        · exact .inr (.inl ⟨hat, kind, .recipient hs hf h⟩)
      · exact .inr (.inl ⟨hat, kind, .sender hs h⟩)
    · exact .inr (.inl ⟨hat, kind, .subject h⟩)
  · exact .inl (letterOf_refused _ (.inr hat))

theorem send_portless {relay : Mail.Relay} {letter : Mail.Letter} {fault : Fault}
    (hletter : letterOf reader config m = .ok letter) (hport : portOf config = .error fault) :
    send reader relay config m = (.error fault, []) := by
  unfold portOf at hport
  simp [send, hletter, hport]

theorem send_conversed {relay : Mail.Relay} {letter : Mail.Letter} {port : Int}
    (hletter : letterOf reader config m = .ok letter) (hport : portOf config = .ok port) :
    (send reader relay config m).1 =
      (Mail.converse relay (steps config port letter)).1.mapError reported := by
  unfold portOf at hport
  simp [send, hletter, hport]

/-- A step of a conversation fails with what is no fault of mailing, all before
it having been taken. -/
structure Derails (relay : Mail.Relay) (script : List Mail.Step) (kind : Mishap) : Prop where
  unreported : kind.isMail = false
  broken : ∃ before step rest problem, script = before ++ step :: rest ∧
    (∀ s ∈ before, relay s = none) ∧ relay step = some (.mishap kind problem)

theorem Derails.converse {relay : Mail.Relay} {script : List Mail.Step}
    (h : Derails relay script kind) : ∃ problem,
      (Mail.converse relay script).1.mapError reported = .error (.mishap kind problem) := by
  obtain ⟨before, step, rest, problem, rfl, hbefore, hstep⟩ := h.broken
  refine ⟨problem, ?_⟩
  rw [Mail.converse_broken hbefore hstep, mapError_error, reported,
    if_neg (Bool.eq_false_iff.mp h.unreported)]

theorem converse_reported {relay : Mail.Relay} (hmail : relay.IsForeign)
    (script : List Mail.Step) :
    (Mail.converse relay script).1.mapError reported = .ok () ∨
    (∃ problem details, (Mail.converse relay script).1.mapError reported =
      .error (.sendFailed "email" problem details)) ∨
    ∃ kind, Derails relay script kind := by
  rcases Mail.converse_cases relay script with
    ⟨hrun, -⟩ | ⟨before, step, rest, fault, hscript, hbefore, hstep, hrun⟩
  · exact .inl (mapError_ok.mpr (by rw [hrun]))
  · obtain ⟨kind, problem, rfl⟩ := hmail step fault hstep
    cases hkind : kind.isMail with
    | true => exact .inr (.inl ⟨_, _, by rw [hrun, mapError_error, reported, if_pos hkind]⟩)
    | false => exact .inr (.inr ⟨kind, hkind, before, step, rest, problem, hscript, hbefore, hstep⟩)

end Email

/-- Why a send ends in a mishap. -/
inductive Kind.Slips (servers : Servers) (config : Fields) (m : Message) : Kind → Mishap → Prop
  | header {kind : Mishap} (hat : '@' ∈ m.recipient.toList)
    (h : Email.BadHeader servers.letters config m kind) : Slips servers config m .email kind
  | portNaN {letter : Mail.Letter} (hletter : Email.letterOf servers.letters config m = .ok letter)
    (h : config.getD "port" = .real .nan) : Slips servers config m .email .value
  | portInfinite {letter : Mail.Letter}
    (hletter : Email.letterOf servers.letters config m = .ok letter)
    (h : config.getD "port" = .real .posInf ∨ config.getD "port" = .real .negInf) :
    Slips servers config m .email .overflow
  | step {kind : Mishap} {letter : Mail.Letter} {port : Int}
    (hletter : Email.letterOf servers.letters config m = .ok letter)
    (hport : Email.portOf config = .ok port)
    (h : Email.Derails servers.mail (Email.steps config port letter) kind) :
    Slips servers config m .email kind
  | request {k : WebKind} {kind : Mishap} (h : k.Misfits config m kind) :
    Slips servers config m (.web k) kind
  | reply {k : WebKind} {kind : Mishap} {r : Web.Request} (hmade : k.compose config m = .ok r)
    (h : k.Misreads (servers.web r) kind) : Slips servers config m (.web k) kind

namespace Kind

variable {k : Kind} {p : Int} {kind : Mishap} {servers : Servers}

theorem Slips.send (hclean : k.definition.clean submitted = .ok config)
    (hp : m.metadata.get? "priority" = some (.int p)) (h : k.Slips servers config m kind) :
    ∃ problem, (k.send servers config m).result = .error (.mishap kind problem) := by
  cases h with
  | header hat h =>
    obtain ⟨problem, hletter⟩ := Email.letterOf_bad (clean_complete hclean) hat h
    exact ⟨problem, by simp [Kind.send, Email.send, hletter]⟩
  | portNaN hletter h =>
    have hport := Email.portOf_eq h (by simp)
    exact ⟨_, by simp [Kind.send, Email.send_portless hletter hport]; rfl⟩
  | portInfinite hletter h =>
    rcases h with h | h
    all_goals
      have hport := Email.portOf_eq h (by simp)
      exact ⟨_, by simp [Kind.send, Email.send_portless hletter hport]; rfl⟩
  | step hletter hport h =>
    obtain ⟨problem, hrun⟩ := h.converse
    exact ⟨problem, (Email.send_conversed hletter hport).trans hrun⟩
  | request h =>
    obtain ⟨problem, hc⟩ := h.compose hclean hp
    exact ⟨problem, by simp [Kind.send, WebKind.send, hc]⟩
  | reply hmade h =>
    obtain ⟨problem, ha⟩ := h.accept
    exact ⟨problem, by simp [Kind.send, WebKind.send, hmade, ha]⟩

theorem send_cases (hclean : k.definition.clean submitted = .ok config)
    (hp : m.metadata.get? "priority" = some (.int p)) (hreader : servers.letters.IsForeign)
    (hmail : servers.mail.IsForeign) :
    (k.send servers config m).result = .ok () ∨
    (∃ problem details,
      (k.send servers config m).result = .error (.sendFailed k.type problem details)) ∨
    ∃ kind, k.Slips servers config m kind := by
  cases k with
  | email =>
    rcases Email.letterOf_cases (m := m) (clean_complete hclean) hreader with
      ⟨problem, hletter⟩ | ⟨hat, kind, hbad⟩ | ⟨letter, hletter⟩
    · exact .inr (.inl ⟨problem, [], by simp [Kind.send, Email.send, hletter, Kind.type]⟩)
    · exact .inr (.inr ⟨kind, .header hat hbad⟩)
    rcases Email.portOf_cases hclean with ⟨port, hport⟩ | hnan | hinfinite
    · have hsend : (Kind.email.send servers config m).result =
          (Mail.converse servers.mail (Email.steps config port letter)).1.mapError Email.reported :=
        Email.send_conversed hletter hport
      rcases Email.converse_reported hmail (Email.steps config port letter) with
        hok | ⟨problem, details, he⟩ | ⟨kind, h⟩
      · exact .inl (hsend.trans hok)
      · exact .inr (.inl ⟨problem, details, hsend.trans he⟩)
      · exact .inr (.inr ⟨kind, .step hletter hport h⟩)
    · exact .inr (.inr ⟨_, .portNaN hletter hnan⟩)
    · exact .inr (.inr ⟨_, .portInfinite hletter hinfinite⟩)
  | web k =>
    rcases WebKind.send_cases k servers config m with ⟨fault, hc, hsend⟩ | ⟨r, hc, hsend⟩
    · rcases WebKind.compose_cases hclean hp with ⟨problem, hc'⟩ | ⟨kind, hk⟩ | ⟨r, hc'⟩
      · refine .inr (.inl ⟨problem, [], ?_⟩)
        simpa [Kind.send, hsend, hc, Kind.type] using hc'
      · exact .inr (.inr ⟨kind, .request hk⟩)
      · simp [hc] at hc'
    · rcases WebKind.accept_cases k (servers.web r) with hok | ⟨problem, details, he⟩ | ⟨kind, hk⟩
      · exact .inl (by simp [Kind.send, hsend, hok])
      · exact .inr (.inl ⟨problem, details, by simp [Kind.send, hsend, he, Kind.type]⟩)
      · exact .inr (.inr ⟨kind, .reply hc hk⟩)

end Kind

end Channel

namespace Service

open Channel (Kind Message Servers)

variable {s s' : Service} {t : Clock.Reading} {k : Kind} {submitted config : Fields}
  {m : Message} {p : Int} {servers : Servers}

end Service

end AlertDelivery
