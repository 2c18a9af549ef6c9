import AlertDelivery.Channel.Delivery

/-!
# Deliveries are confirmed

A channel of a web kind makes one request or none. It reports a delivery
exactly when the request was made and the service on the other side has
confirmed it, so nothing is taken for delivered that was refused or lost.
-/

namespace AlertDelivery.Channel

open Web (Request Outcome)

namespace WebKind

/-- Whether a kind has a place for a message to go: a chat, a phone number
or a user key. The other kinds have one in their configuration. -/
def Reaches (k : WebKind) (config : Fields) (m : Message) : Prop :=
  match k with
  | .telegram => m.recipient ≠ "" ∨ (config.getD "chat_id").truthy = true
  | .twilio => isPhoneNumber m.recipient = true
  | .pushover => m.recipient ≠ ""
  | .webhook | .slack | .discord | .gotify => True

/-- A reply with a successful status; that of a chat service must also say
in its document that the message was taken. -/
def IsConfirmed (k : WebKind) : Outcome → Prop
  | .reply status document => (200 ≤ status ∧ status ≤ 299) ∧
    (k = .telegram → ∃ fields, document = some (.record fields) ∧
      (Fields.getD fields "ok").truthy = true)
  | .broken _ => False

variable {k : WebKind} {config : Fields} {m : Message} {servers : Servers} {status : Int}
  {document : Option Value}

-- ---------------------------------------------------------------------------
-- Replies
-- ---------------------------------------------------------------------------

theorem acceptDocument_ok_iff : acceptDocument document = .ok () ↔
    ∃ fields, document = some (.record fields) ∧ (Fields.getD fields "ok").truthy = true := by
  cases document with
  | none => simp [acceptDocument]
  | some v =>
    cases v with
    | record fields => simp [acceptDocument, fail]
    | _ => simp [acceptDocument]

theorem accept_success (h : 200 ≤ status ∧ status ≤ 299) : k.accept (.reply status document) =
    if k = .telegram then acceptDocument document else .ok () := by
  cases k <;> simp [accept, h]

theorem accept_refusal (h : ¬(200 ≤ status ∧ status ≤ 299)) : k.accept (.reply status document) =
    .error (.sendFailed k.type (k.type ++ " returned HTTP " ++ toString status)
      [("status_code", .int status)]) := by
  simp [accept, h]

theorem accept_ok_iff {outcome : Outcome} : k.accept outcome = .ok () ↔ k.IsConfirmed outcome := by
  cases outcome with
  | broken problem => simp [accept, fail, IsConfirmed]
  | reply status document =>
    by_cases h : 200 ≤ status ∧ status ≤ 299
    · by_cases hk : k = .telegram <;>
        simp [accept_success h, IsConfirmed, h, hk, acceptDocument_ok_iff]
    · simp [accept_refusal h, IsConfirmed, h]

-- ---------------------------------------------------------------------------
-- Requests
-- ---------------------------------------------------------------------------

theorem compose_incomplete (h : isComplete (Kind.web k).requiredKeys config = false) :
    k.compose config m = .error (incomplete k.type) := by
  simp [compose, h]

theorem compose_refused
    (h : isComplete (Kind.web k).requiredKeys config = false ∨ ¬k.Reaches config m) :
    ∃ problem, k.compose config m = .error (.sendFailed k.type problem []) := by
  cases hc : isComplete (Kind.web k).requiredKeys config with
  | false => exact ⟨_, compose_incomplete hc⟩
  | true =>
    have hr : ¬k.Reaches config m := by simpa [hc] using h
    cases k with
    | telegram =>
      obtain ⟨hm, hchat⟩ : m.recipient = "" ∧ (config.getD "chat_id").truthy = false := by
        simpa [Reaches] using hr
      refine ⟨"no chat_id to deliver to", ?_⟩
      simp [compose, hc, telegramRequest, chatOf, hm, hchat, fail]
    | twilio =>
      have hm : isPhoneNumber m.recipient = false := by simpa [Reaches] using hr
      refine ⟨"invalid phone number: " ++ Text.quoted m.recipient, ?_⟩
      simp [compose, hc, twilioRequest, hm, fail]
    | pushover =>
      have hm : m.recipient = "" := by simpa [Reaches] using hr
      refine ⟨"no pushover user key", ?_⟩
      simp [compose, hc, pushoverRequest, hm, fail]
    | webhook | slack | discord | gotify => exact absurd trivial hr

theorem send_cases (k : WebKind) (servers : Servers) (config : Fields) (m : Message) :
    (∃ fault, k.compose config m = .error fault ∧ k.send servers config m = ⟨.error fault, []⟩) ∨
      ∃ r, k.compose config m = .ok r ∧
        k.send servers config m = ⟨k.accept (servers.web r), [.request r]⟩ := by
  unfold send
  cases k.compose config m with
  | error fault => exact .inl ⟨fault, rfl, rfl⟩
  | ok r => exact .inr ⟨r, rfl, rfl⟩

/-- Whatever the configuration, the message and the service on the other
side: at most one request is made, and none without a complete configuration
and a place to go. A delivery is reported exactly when a request was made and
confirmed. A reply without success and a request without a reply are failed
sends, the former with its status. -/
theorem reported_iff_confirmed (k : WebKind) (servers : Servers) (config : Fields) (m : Message) :
    let d := (Kind.web k).send servers config m
    (d.wire = [] ∨ ∃ r, d.wire = [.request r]) ∧
    (isComplete (Kind.web k).requiredKeys config = false ∨ ¬k.Reaches config m →
      d.wire = [] ∧ ∃ problem, d.result = .error (.sendFailed k.type problem [])) ∧
    (d.result = .ok () ↔ ∃ r, d.wire = [.request r] ∧ k.IsConfirmed (servers.web r)) ∧
    ∀ r, d.wire = [.request r] →
      (∀ status document, servers.web r = .reply status document →
        ¬(200 ≤ status ∧ status ≤ 299) →
        ∃ problem, d.result =
          .error (.sendFailed k.type problem [("status_code", .int status)])) ∧
      ∀ problem, servers.web r = .broken problem →
        d.result = .error (.sendFailed k.type (k.type ++ " request failed: " ++ problem) []) := by
  intro d
  have hrefused (h : isComplete (Kind.web k).requiredKeys config = false ∨ ¬k.Reaches config m) :
      d.wire = [] ∧ ∃ problem, d.result = .error (.sendFailed k.type problem []) := by
    obtain ⟨problem, hp⟩ := compose_refused h
    have hd : d = ⟨.error (.sendFailed k.type problem []), []⟩ := by
      simp [d, Kind.send, send, hp]
    exact ⟨by rw [hd], problem, by rw [hd]⟩
  rcases send_cases k servers config m with ⟨fault, -, hd⟩ | ⟨r, -, hd⟩
  · replace hd : d = ⟨.error fault, []⟩ := hd
    exact ⟨.inl (by rw [hd]), hrefused, by simp [hd], by simp [hd]⟩
  · replace hd : d = ⟨k.accept (servers.web r), [.request r]⟩ := hd
    refine ⟨.inr ⟨r, by rw [hd]⟩, hrefused, by simp [hd, accept_ok_iff], fun r' hr => ?_⟩
    obtain rfl : r = r' := by simpa [hd] using hr
    constructor
    · intro status document hreply hstatus
      exact ⟨_, by rw [hd, hreply, accept_refusal hstatus]⟩
    · intro problem hbroken
      rw [hd, hbroken]
      rfl

end WebKind

end AlertDelivery.Channel
