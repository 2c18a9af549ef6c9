import AlertDelivery.Channel.Delivery
import AlertDelivery.Proofs.ExceptLaws

/-!
# Mail conversations keep their order

Sending a mail takes the steps of one script in order: the connection, then
encryption when it is on, then the login when there is an account, then the
letter. The conversation ends with the first step that the relay breaks off.
So what is private goes out over an encrypted connection or, when encryption
is on, not at all.
-/

namespace AlertDelivery

namespace Mail

variable {relay : Relay} {script before after : List Step} {step : Step} {fault : Fault}

theorem converse_cases (relay : Relay) (script : List Step) :
    (converse relay script = (.ok (), script) ∧ ∀ step ∈ script, relay step = none) ∨
      ∃ before step rest fault, script = before ++ step :: rest ∧
        (∀ s ∈ before, relay s = none) ∧ relay step = some fault ∧
        converse relay script = (.error fault, before ++ [step]) := by
  induction script with
  | nil => exact .inl ⟨rfl, by simp⟩
  | cons first rest ih =>
    cases hfirst : relay first with
    | some fault => exact .inr ⟨[], first, rest, fault, by simp [converse, hfirst]⟩
    | none =>
      rcases ih with ⟨hrun, hnone⟩ | ⟨before, step, rest', fault, rfl, hnone, hstep, hrun⟩
      · exact .inl (by simpa [converse, hfirst, hrun] using hnone)
      · refine .inr ⟨first :: before, step, rest', fault, rfl, ?_, hstep, ?_⟩
        · simpa [hfirst] using hnone
        · simp [converse, hfirst, hrun]

end Mail

namespace Channel.Email

variable {reader : Mail.Reader} {config : Fields} {m : Message} {port : Int} {letter : Mail.Letter}
  {before after : List Mail.Step} {step : Mail.Step}

def portOf (config : Fields) : Except Fault Int := ((config.get? "port").getD (.int 587)).toInt

theorem send_cases (reader : Mail.Reader) (relay : Mail.Relay) (config : Fields) (m : Message) :
    (∃ fault, letterOf reader config m = .error fault ∧
      send reader relay config m = (.error fault, [])) ∨
    (∃ letter fault, letterOf reader config m = .ok letter ∧ portOf config = .error fault ∧
      send reader relay config m = (.error fault, [])) ∨
    ∃ letter port, letterOf reader config m = .ok letter ∧ portOf config = .ok port ∧
      send reader relay config m =
        ((Mail.converse relay (steps config port letter)).1.mapError reported,
          (Mail.converse relay (steps config port letter)).2) := by
  cases hletter : letterOf reader config m with
  | error fault => exact .inl ⟨fault, rfl, by simp [send, hletter]⟩
  | ok letter =>
    cases hport : portOf config with
    | error fault =>
      unfold portOf at hport
      exact .inr (.inl ⟨letter, fault, rfl, rfl, by simp [send, hletter, hport]⟩)
    | ok port =>
      unfold portOf at hport
      exact .inr (.inr ⟨letter, port, rfl, rfl, by simp [send, hletter, hport]⟩)

theorem letterOf_refused (reader : Mail.Reader)
    (h : isComplete Kind.email.requiredKeys config = false ∨ '@' ∉ m.recipient.toList) :
    ∃ problem, letterOf reader config m = .error (.sendFailed "email" problem []) := by
  cases hc : isComplete Kind.email.requiredKeys config with
  | false => exact ⟨_, by rw [letterOf, hc]; rfl⟩
  | true =>
    have hat : '@' ∉ m.recipient.toList := by simpa [hc] using h
    exact ⟨"invalid email address: " ++ Text.quoted m.recipient, by simp [letterOf, hc, hat]⟩

end Channel.Email

end AlertDelivery
