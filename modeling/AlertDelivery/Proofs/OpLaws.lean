import AlertDelivery.Proofs.ExceptLaws
import AlertDelivery.Service

/-!
# What operations leave behind

An operation on the store or on the service may fail half way, and what it
has done by then stays done. `after` is the state it leaves in either case;
a transaction that fails leaves the store as it was.
-/

namespace AlertDelivery

/-- The state that a computation leaves, whether it succeeds or fails. -/
def after (x : EStateM ε σ α) (s : σ) : σ :=
  match x s with
  | .ok _ s' => s'
  | .error _ s' => s'

theorem after_ok {x : EStateM ε σ α} (h : x s = .ok a s') : after x s = s' := by
  simp only [after, h]

theorem after_error {x : EStateM ε σ α} (h : x s = .error e s') : after x s = s' := by
  simp only [after, h]

theorem ok_of_run' {x : EStateM ε σ α} (h : x.run' s = some a) : ∃ s', x s = .ok a s' := by
  unfold EStateM.run' EStateM.run at h
  cases hx : x s with
  | ok b s' =>
    rw [hx] at h
    exact ⟨s', by rw [Option.some.inj h]⟩
  | error e s' =>
    rw [hx] at h
    cases h

theorem run'_ok {x : EStateM ε σ α} (h : x s = .ok a s') : x.run' s = some a := by
  unfold EStateM.run' EStateM.run
  rw [h]

theorem run_bind_ok {x : EStateM ε σ α} {f : α → EStateM ε σ β} (h : x s = .ok a s') :
    (x >>= f) s = f a s' := by
  simp only [bind, EStateM.bind, h]

theorem run_get (s : σ) : (get : EStateM ε σ σ) s = .ok s s := rfl

theorem run_bind_error {x : EStateM ε σ α} {f : α → EStateM ε σ β} (h : x s = .error e s') :
    (x >>= f) s = .error e s' := by
  simp only [bind, EStateM.bind, h]

theorem after_bind_ok {x : EStateM ε σ α} {f : α → EStateM ε σ β} (h : x s = .ok a s') :
    after (x >>= f) s = after (f a) s' := by
  rw [after, run_bind_ok h, after]

theorem after_bind_error {x : EStateM ε σ α} {f : α → EStateM ε σ β} (h : x s = .error e s') :
    after (x >>= f) s = s' :=
  after_error (run_bind_error h)

@[simp] theorem after_pure (a : α) (s : σ) : after (pure a : EStateM ε σ α) s = s := rfl

@[simp] theorem after_get_bind (f : σ → EStateM ε σ α) (s : σ) :
    after (get >>= f) s = after (f s) s := rfl

section
variable {x : EStateM ε σ α}

theorem discard_ok (h : x s = .ok a s') :
    (do let _ ← x : EStateM ε σ Unit) s = .ok () s' :=
  run_bind_ok h

theorem discard_error (h : x s = .error e s') :
    (do let _ ← x : EStateM ε σ Unit) s = .error e s' :=
  run_bind_error h

theorem after_bind_pure {f : α → β} : after (x >>= fun a => pure (f a)) s = after x s := by
  cases h : x s with
  | ok a s' => rw [after_ok h, after_bind_ok h, after_pure]
  | error e s' => rw [after_error h, after_bind_error h]

theorem after_discard (x : EStateM ε σ α) (s : σ) :
    after (do let _ ← x : EStateM ε σ Unit) s = after x s := by
  cases h : x s with
  | ok a s' => rw [after_ok h, after_ok (discard_ok h)]
  | error e s' => rw [after_error h, after_error (discard_error h)]

end

-- ---------------------------------------------------------------------------
-- Transactions
-- ---------------------------------------------------------------------------

namespace Store

theorem transact_cases (operation : String) (change : Store → Except Fault (α × Store))
    (s : Store) :
    (∃ fault, transact operation change s = .error fault s) ∨
      ∃ a s', s.isUp = true ∧ change s = .ok (a, s') ∧ transact operation change s = .ok a s' := by
  unfold transact
  cases hu : s.isUp with
  | false => exact .inl ⟨_, rfl⟩
  | true =>
    cases hc : change s with
    | error fault => exact .inl ⟨fault, rfl⟩
    | ok p => exact .inr ⟨p.1, p.2, rfl, rfl, rfl⟩

theorem transact_up {f : Store → Except Fault (α × Store)} (hu : s.isUp = true)
    (hc : f s = .ok (a, s')) : transact operation f s = .ok a s' := by
  simp only [transact, hu, hc, if_true]

theorem transact_fault {f : Store → Except Fault (α × Store)} (hu : s.isUp = true)
    (hc : f s = .error fault) : transact operation f s = .error fault s := by
  simp only [transact, hu, hc, if_true]

theorem query_cases (operation : String) (read : Store → Except Fault α) (s : Store) :
    (∃ fault, query operation read s = .error fault s) ∨
      ∃ a, s.isUp = true ∧ read s = .ok a ∧ query operation read s = .ok a s := by
  rcases transact_cases operation (fun s => (read s).map fun a => (a, s)) s with
    h | ⟨a, s', hu, hc, h⟩
  · exact .inl h
  · cases hr : read s with
    | error fault => simp [hr, Except.map] at hc
    | ok b =>
      simp only [hr, Except.map, Except.ok.injEq, Prod.mk.injEq] at hc
      obtain ⟨rfl, rfl⟩ := hc
      exact .inr ⟨_, hu, rfl, h⟩

theorem onQueue_cases (operation : String)
    (change : Queue.Table → Except Fault (α × Queue.Table)) (s : Store) :
    (∃ fault, onQueue operation change s = .error fault s) ∨
      ∃ a queue, s.isUp = true ∧ change s.queue = .ok (a, queue) ∧
        onQueue operation change s = .ok a { s with queue } := by
  rcases transact_cases operation
      (fun s => (change s.queue).map fun p => (p.1, { s with queue := p.2 })) s with
    h | ⟨a, s', hu, hc, h⟩
  · exact .inl h
  · cases hq : change s.queue with
    | error fault => simp [hq, Except.map] at hc
    | ok p =>
      simp only [hq, Except.map, Except.ok.injEq, Prod.mk.injEq] at hc
      obtain ⟨rfl, rfl⟩ := hc
      exact .inr ⟨_, _, hu, rfl, h⟩

theorem query_run (operation : String) (read : Store → Except Fault α) (s : Store) :
    query operation read s = lift (if s.isUp then read s else .error (down operation)) s := by
  rw [query, transact]
  split
  · cases read s with
    | error fault => simp only [Except.map]; rfl
    | ok a => simp only [Except.map]; rfl
  · rfl

theorem query_up (f : Store → Except Fault α) (hu : s.isUp = true) (h : f s = .ok a) :
    query operation f s = .ok a s :=
  transact_up hu (by simp only [h, Except.map])

theorem onQueue_up (f : Queue.Table → Except Fault (α × Queue.Table)) (hu : s.isUp = true)
    (hc : f s.queue = .ok (a, q)) : onQueue operation f s = .ok a { s with queue := q } :=
  transact_up hu (by simp only [hc, Except.map])

theorem onQueue_fault (f : Queue.Table → Except Fault (α × Queue.Table)) (hu : s.isUp = true)
    (hc : f s.queue = .error fault) : onQueue operation f s = .error fault s :=
  transact_fault hu (by simp only [hc, Except.map])

theorem onHistory_up (f : History.Log → Except Fault (α × History.Log)) (hu : s.isUp = true)
    (hc : f s.history = .ok (a, log)) :
    onHistory operation f s = .ok a { s with history := log } :=
  transact_up hu (by simp only [hc, Except.map])

theorem onChannels_up (f : Channel.Table → Except Fault (α × Channel.Table)) (hu : s.isUp = true)
    (hc : f s.channels = .ok (a, rows)) :
    onChannels operation f s = .ok a { s with channels := rows } :=
  transact_up hu (by simp only [hc, Except.map])

theorem onChannels_fault (f : Channel.Table → Except Fault (α × Channel.Table))
    (hu : s.isUp = true) (hc : f s.channels = .error fault) :
    onChannels operation f s = .error fault s :=
  transact_fault hu (by simp only [hc, Except.map])

theorem after_onHistory (operation : String)
    (change : History.Log → Except Fault (α × History.Log)) (s : Store) :
    ∃ history, after (onHistory operation change) s = { s with history } ∧
      (history = s.history ∨ ∃ a, change s.history = .ok (a, history)) := by
  rcases transact_cases operation
      (fun s => (change s.history).map fun p => (p.1, { s with history := p.2 })) s with
    ⟨fault, h⟩ | ⟨a, s', -, hc, h⟩
  · exact ⟨s.history, after_error h, .inl rfl⟩
  · cases hl : change s.history with
    | error fault => simp [hl, Except.map] at hc
    | ok p =>
      simp only [hl, Except.map, Except.ok.injEq, Prod.mk.injEq] at hc
      exact ⟨p.2, (after_ok h).trans hc.2.symm, .inr ⟨p.1, rfl⟩⟩

theorem after_updateChannel (operation type : String) (f : Channel.Row → Channel.Row)
    (s : Store) : ∃ channels, after (updateChannel operation type f) s = { s with channels } := by
  rcases transact_cases operation
      (fun s => .ok ((), { s with channels := s.channels.update type f })) s with
    ⟨fault, h⟩ | ⟨a, s', -, hc, h⟩
  · exact ⟨s.channels, after_error h⟩
  · simp only [Except.ok.injEq, Prod.mk.injEq] at hc
    exact ⟨_, (after_ok h).trans hc.2.symm⟩

end Store

-- ---------------------------------------------------------------------------
-- The service around its store
-- ---------------------------------------------------------------------------

namespace Service

theorem lift_ok (a : α) (s : Service) : lift (.ok a) s = .ok a s := rfl

theorem lift_error (fault : Fault) (s : Service) :
    (lift (.error fault) : Op α) s = .error fault s := rfl

/-- One look at the state after the other is one look at it. -/
theorem run_bind_lift {x : Op α} {f : α → Op β} {e : Except Fault α} {g : α → Except Fault β}
    (hx : x s = lift e s) (hf : ∀ a, e = .ok a → f a s = lift (g a) s) :
    (x >>= f) s = lift (e >>= g) s := by
  cases e with
  | error fault => rw [run_bind_error (hx.trans (lift_error fault s))]; rfl
  | ok a => rw [run_bind_ok (hx.trans (lift_ok a s)), hf a rfl, ok_bind]

theorem onStore_ok {x : Store.Op α} (h : x s.store = .ok a st) :
    onStore x s = .ok a { s with store := st } := by
  simp only [onStore, h]

theorem onStore_error {x : Store.Op α} (h : x s.store = .error fault st) :
    onStore x s = .error fault { s with store := st } := by
  simp only [onStore, h]

theorem onStore_lift {x : Store.Op α} {e : Except Fault α} (h : x s.store = Store.lift e s.store) :
    onStore x s = lift e s := by
  cases e with
  | error fault => exact onStore_error h
  | ok a => exact onStore_ok h

theorem after_onStore (x : Store.Op α) (s : Service) :
    after (onStore x) s = { s with store := after x s.store } := by
  unfold after onStore
  cases x s.store <;> rfl

theorem attempt_ok {x : Op α} (h : x s = .ok a s') : attempt x s = .ok (.ok a) s' := by
  simp only [attempt, h]

theorem attempt_error {x : Op α} (h : x s = .error fault s') :
    attempt x s = .ok (.error fault) s' := by
  simp only [attempt, h]

theorem error_of_attempt {x : Op α} (h : (attempt x).run' s = some (.error fault)) :
    ∃ s', x s = .error fault s' := by
  cases hx : x s with
  | ok a s' => cases (run'_ok (attempt_ok hx)).symm.trans h
  | error fault s' =>
    cases (run'_ok (attempt_error hx)).symm.trans h
    exact ⟨s', rfl⟩

theorem quietly_run (x : Op Unit) (s : Service) : quietly x s = .ok () (after x s) := by
  unfold after
  cases h : x s with
  | ok a s' => simp only [quietly, bind, EStateM.bind, attempt_ok h]; rfl
  | error e s' => simp only [quietly, bind, EStateM.bind, attempt_error h]; rfl

end Service

end AlertDelivery
