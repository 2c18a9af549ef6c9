import AlertDelivery.Proofs.Channel.Confirmation
import AlertDelivery.Proofs.Service.Custody
import AlertDelivery.Proofs.Service.Outcome

/-!
# The address a message goes to

A dispatch has the address of its user or the one that its notification
names, or it ends without a send. So a channel is never asked to send to
nobody, and the chat that a chat channel is configured with in default of an
address is not written to by any dispatch.
-/

namespace AlertDelivery

open Channel (Kind WebKind Message Servers)

-- ---------------------------------------------------------------------------
-- Resolution
-- ---------------------------------------------------------------------------

theorem Recipient.address?_ne {v : Value} {address : String} (h : address? v = some address) :
    address ≠ "" := by
  unfold address? at h
  split at h
  · cases h
  · simpa using (Option.filter_eq_some_iff.mp h).2

theorem Recipient.ofUser?_ne {users : List User} {preferences : List Preference} {user : Int}
    {channel address : String} (h : ofUser? users preferences user channel = some address) :
    address ≠ "" := by
  rcases Option.or_eq_some_iff.mp h with h | ⟨-, h⟩
  · unfold preferred? at h
    split at h
    · split at h
      · exact address?_ne h
      · cases h
    · cases h
  · split at h
    · unfold account? at h
      split at h
      · obtain ⟨_, -, h⟩ := Option.bind_eq_some_iff.mp h
        exact address?_ne h
      · cases h
    · cases h

theorem Recipient.unresolved_message (e : Queue.Entry) :
    (unresolved e).message = "recipient not found for channel " ++ e.channel := rfl

namespace Service

open Queue (Row Table)

variable {s s' : Service} {st : Store} {e : Queue.Entry} {d : Dispatch} {p : Preparing}
  {number : Nat} {c : Channel} {t : Clock.Reading} {address : String} {fault : Fault}
  {config : Fields}
  {m : Message}

theorem addressOf?_ne (h : addressOf? st e = some address) : address ≠ "" := by
  rcases Option.or_eq_some_iff.mp h with h | ⟨-, h⟩
  · obtain ⟨_, -, h⟩ := Option.bind_eq_some_iff.mp h
    exact Recipient.ofUser?_ne h
  · exact Recipient.address?_ne h

-- ---------------------------------------------------------------------------
-- Dispatches
-- ---------------------------------------------------------------------------

theorem Faithful.storable_entry (h : s.Faithful) (hd : d ∈ s.unfinished) :
    ∀ i ∈ d.entry.id :: d.entry.user.toList, Queue.isStorable i = true := by
  obtain ⟨r, hr, r₀, hkeeps, hentry⟩ := h.entries d hd
  have hstorable := h.storable r hr
  rw [Row.Storable, hkeeps.id, hkeeps.user] at hstorable
  simpa [hentry, Row.toEntry] using hstorable

theorem begin_unaddressed (hp : s.worker.preparing? number = some p)
    (hc : s.registry.get p.dispatch.entry.channel = .ok c)
    (hr : Store.resolve p.dispatch.entry s.store =
      .error (Recipient.unresolved p.dispatch.entry) s.store) :
    ∃ s', begin number t s = .ok .ended s' ∧
      Ends s s' p.dispatch (.failed (Recipient.unresolved p.dispatch.entry).message) t.now :=
  ⟨_, beginIn_ended hp (prepare_error hc hr) t,
    ends_of_write (.failed (Recipient.unresolved p.dispatch.entry).message) p.dispatch
      p.startedAt t s⟩

theorem posts_to_recipient (hm : m.recipient ≠ "") {servers : Servers} {r : Web.Request}
    (hr : .request r ∈ ((Kind.web .telegram).send servers config m).wire) :
    r.body = .document (.record [("chat_id", .text m.recipient),
      ("text", .text (Channel.chatText m.subject m.body)), ("parse_mode", .text "Markdown")]) := by
  rcases WebKind.send_cases .telegram servers config m with ⟨_, -, hs⟩ | ⟨r', hc, hs⟩
  · simp [Kind.send, hs] at hr
  · obtain rfl : r = r' := by simpa [Kind.send, hs] using hr
    unfold WebKind.compose at hc
    split at hc
    · cases hc
    · simp only [WebKind.telegramRequest, WebKind.chatOf, hm, if_false] at hc
      split at hc
      · cases hc
      · obtain ⟨base, -, hc⟩ := bind_ok.mp hc
        obtain ⟨location, -, hc⟩ := bind_ok.mp hc
        simp only [WebKind.documentRequest] at hc
        split at hc <;> cases hc
        rfl

/-- In every run, whatever chat is configured: a dispatch for the chat channel
that has an address posts to that address, and one without an address ends as
a failed attempt before its channel is asked. -/
theorem default_chat_unused (settings : Settings) (policy : Policy) (events : List Event) :
    let s := run (create {} settings policy) events
    ∀ (number : Nat) (t : Clock.Reading) (p : Preparing) (config : Fields),
      s.worker.preparing? number = some p → p.dispatch.entry.channel = "telegram" →
      s.registry.find? "telegram" = some (Channel.ofKind (.web .telegram) config) →
      s.store.isUp = true →
      (∀ chat, addressOf? s.store p.dispatch.entry = some chat → chat ≠ "" ∧
        ∃ x s', begin number t s = .ok (.sending x) s' ∧ x.dispatch = p.dispatch ∧
          x.channel = Channel.ofKind (.web .telegram) config ∧
          ∀ servers r, .request r ∈ ((Kind.web .telegram).send servers config x.message).wire →
            r.body = .document (.record [("chat_id", .text chat),
              ("text", .text (Channel.chatText p.dispatch.entry.subject p.dispatch.entry.body)),
              ("parse_mode", .text "Markdown")])) ∧
      (addressOf? s.store p.dispatch.entry = none →
        ∃ s', begin number t s = .ok .ended s' ∧ s'.worker.sending ⊆ s.worker.sending ∧
          Settled s p.dispatch t.now (.failed "recipient not found for channel telegram")
            s'.store.queue s'.store.history) := by
  intro s number t p config hp htelegram hlive hup
  have h : s.Faithful := run_faithful (create_faithful settings policy) events
  have hd : p.dispatch ∈ s.unfinished := holder_unfinished (Worker.preparing?_holds hp)
  have hids := h.storable_entry hd
  have hresolve := resolve_eq hup hids
  have hc : s.registry.get p.dispatch.entry.channel =
      .ok (Channel.ofKind (.web .telegram) config) := by
    simp [Channel.Registry.get, htelegram, hlive]
  constructor
  · intro chat hchat
    rw [hchat] at hresolve
    have hne := addressOf?_ne hchat
    exact ⟨hne, _, _, beginIn_sending hp (prepare_ok hc hresolve) t, rfl, rfl,
      fun servers r => posts_to_recipient (m := messageOf p.dispatch.entry chat) hne⟩
  · intro hnone
    rw [hnone] at hresolve
    obtain ⟨s', hs', queue, history, channels, hwritten, rfl⟩ := begin_unaddressed hp hc hresolve
    have hmessage : (Recipient.unresolved p.dispatch.entry).message =
        "recipient not found for channel telegram" := by
      rw [Recipient.unresolved_message, htelegram]
      decide
    refine ⟨_, hs', List.filter_subset_self _, ?_⟩
    rw [hmessage] at hwritten
    exact h.toHolding.settled hup hd hids hwritten (by simp)

def chatConfig : Fields := [("bot_token", .text "123:abc"), ("chat_id", .text "4455")]

def chatQueued : List Event := [
  .arrange { registry := ⟨[Channel.ofKind (.web .telegram) chatConfig]⟩ },
  .enqueue { channel := "telegram", subject := "Storm", body := "Stay inside" } ⟨0, .first⟩,
  .process .first ⟨0, .first⟩, .turn 0 ⟨0, .first⟩]

theorem chatQueued_prepared : ∃ p,
    (run (create {} {} {}) chatQueued).worker.preparing? 0 = some p ∧
      p.dispatch.entry.channel = "telegram" ∧
      addressOf? (run (create {} {} {}) chatQueued).store p.dispatch.entry = none := by
  let s := run (create {} {} {}) chatQueued
  have hprepared : (s.worker.preparing? 0).map (fun p =>
      (p.dispatch.entry.channel, addressOf? s.store p.dispatch.entry)) =
      some ("telegram", none) := by decide +kernel
  obtain ⟨p, hp, he⟩ := Option.map_eq_some_iff.mp hprepared
  obtain ⟨hc, ha⟩ := Prod.mk.inj he
  exact ⟨p, hp, hc, ha⟩

theorem default_chat_unused_storm :
    ∃ d s', begin 0 ⟨0, .first⟩ (run (create {} {} {}) chatQueued) = .ok .ended s' ∧
      Settled (run (create {} {} {}) chatQueued) d .first
        (.failed "recipient not found for channel telegram") s'.store.queue s'.store.history := by
  obtain ⟨p, hp, hc, hnone⟩ := chatQueued_prepared
  obtain ⟨-, hends⟩ := default_chat_unused {} {} chatQueued 0 ⟨0, .first⟩ p chatConfig hp hc
    (by decide +kernel) (by decide +kernel)
  obtain ⟨s', hs', -, hsettled⟩ := hends hnone
  exact ⟨p.dispatch, s', hs', hsettled⟩

/-- A default chat is not written to although nobody else is named. -/
theorem default_chat_not_always_used :
    ¬ ∀ (settings : Settings) (policy : Policy) (events : List Event),
      let s := run (create {} settings policy) events
      ∀ (number : Nat) (t : Clock.Reading) (p : Preparing) (config : Fields)
        (token chat : String),
        s.worker.preparing? number = some p → p.dispatch.entry.channel = "telegram" →
        s.registry.find? "telegram" = some (Channel.ofKind (.web .telegram) config) →
        s.store.isUp = true → config.getD "bot_token" = .text token → token ≠ "" →
        config.getD "chat_id" = .text chat → chat ≠ "" →
        addressOf? s.store p.dispatch.entry = none →
        ∃ x s', begin number t s = .ok (.sending x) s' ∧
          ∀ servers, ∃ r, .request r ∈ ((Kind.web .telegram).send servers config x.message).wire ∧
            r.body = .document (.record [("chat_id", .text chat),
              ("text", .text (Channel.chatText p.dispatch.entry.subject p.dispatch.entry.body)),
              ("parse_mode", .text "Markdown")]) := by
  intro h
  obtain ⟨p, hp, hc, hnone⟩ := chatQueued_prepared
  obtain ⟨x, s', hb, -⟩ := h {} {} chatQueued 0 ⟨0, .first⟩ p chatConfig "123:abc" "4455" hp hc
    (by decide +kernel) (by decide +kernel) rfl (by decide) rfl (by decide) hnone
  have hended : (((begin 0 ⟨0, .first⟩).run' (run (create {} {} {}) chatQueued)).bind
      Begun.sending?).isNone = true := by decide +kernel
  rw [run'_ok hb] at hended
  cases hended

end Service

end AlertDelivery
