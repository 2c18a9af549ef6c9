import AlertDelivery.Proofs.Queue.Journey
import AlertDelivery.Proofs.Queue.RowInvariant

/-!
# Attempts and retries

A claim is an attempt that may fail, be released, or still be under way, and
only a failure is counted in the row. `Attempts` counts along a run how often
the row of an id was claimed and released since it was queued or last
requeued; `Accounted` says that nothing is lost between these counts and the
retry counter, although the counter is capped.
-/

namespace AlertDelivery.Queue

def Table.stateOf (t : Table) (i : Int) : Option DeliveryState := (t.find? i).map (·.state)

/-- How often a row was claimed and released since it started anew. -/
structure Attempts where
  claims : Nat := 0
  releases : Nat := 0
deriving DecidableEq

namespace Attempts

def count (i : Int) (s : Store) (a : Attempts) (e : Event) : Attempts :=
  let before := s.queue.stateOf i
  let now := (e.apply s).queue.stateOf i
  match e with
  | .enqueue .. => if before = none ∧ now = some .created then {} else a
  | .requeue .. => if before = some .deadLetter ∧ now = some .queued then {} else a
  | .claim .. => if i ∈ e.taken s then { a with claims := a.claims + 1 } else a
  | .release .. =>
    if before = some .sending ∧ now = some .queued then { a with releases := a.releases + 1 }
    else a
  | _ => a

def countAll (i : Int) (s : Store) (a : Attempts) : List Event → Attempts
  | [] => a
  | e :: rest => countAll i (e.apply s) (a.count i s e) rest

def move (a : Attempts) : Move → Attempts
  | .enqueued | .requeued => {}
  | .claimed => { a with claims := a.claims + 1 }
  | .released => { a with releases := a.releases + 1 }
  | .delivered | .failed | .buried | .deleted => a

end Attempts

/-- The claims of a row are its used up retries, its releases, and the one
attempt that is under way or was the last. -/
structure Accounted (a : Attempts) (r : Row) : Prop where
  balance : (a.claims : Int) =
    r.retryCount + a.releases + if r.state = .sending ∨ r.state = .delivered then 1 else 0
  spare : r.state = .delivered → r.retryCount < r.maxRetries

variable {s : Store} {e : Event} {i : Int} {now clock : Instant} {a : Attempts} {m : Move} {r : Row}
  {text : String} {strategy : Value}

-- ---------------------------------------------------------------------------
-- One event
-- ---------------------------------------------------------------------------

theorem taken_of_moved (hk : s.queue.Keyed)
    (hm : Moved i .claimed e (s.queue.find? i) ((e.apply s).queue.find? i)) : i ∈ e.taken s := by
  generalize ho : s.queue.find? i = o at hm
  generalize ho' : (e.apply s).queue.find? i = o' at hm
  cases hm with
  | @claimed r limit now hs _ =>
    have hidle : ¬ s.queue.Sends i := by
      rw [Table.sends_iff_find? hk]
      rintro ⟨r₂, hr₂, hs₂⟩
      rw [ho, Option.some.injEq] at hr₂
      subst hr₂
      simp [hs₂] at hs
    have hsends : (Event.apply (.claim limit now) s).queue.Sends i :=
      (Table.sends_iff_find? (Event.apply_keyed _ hk)).mpr ⟨_, ho', rfl⟩
    rw [Event.apply, Event.perform, after_discard] at hsends
    rw [Event.taken]
    rcases claim_cases limit now s with ⟨fault, hc⟩ | hc | ⟨entries, q, hq, hc⟩
    · rw [after_error hc] at hsends
      exact absurd hsends hidle
    · rw [after_ok hc] at hsends
      exact absurd hsends hidle
    · rw [after_ok hc] at hsends
      rw [hc]
      exact ((Table.claim_sends hk hq).mp hsends).resolve_left hidle

theorem Attempts.count_moved (hk : s.queue.Keyed) (a : Attempts)
    (hm : Moved i m e (s.queue.find? i) ((e.apply s).queue.find? i)) :
    a.count i s e = a.move m := by
  have htaken (hm' : m = .claimed) : i ∈ e.taken s := taken_of_moved hk (hm' ▸ hm)
  unfold count Table.stateOf
  generalize s.queue.find? i = o at hm
  generalize (e.apply s).queue.find? i = o' at hm
  cases hm with
  | enqueued => simp [move, Request.row]
  | claimed => simp [move, htaken rfl]
  | released hs => simp [move, hs, Row.released]
  | requeued hs => simp [move, hs, Row.requeued]
  | _ => rfl

theorem Attempts.count_still (hk : s.queue.Keyed) (a : Attempts)
    (he : (e.apply s).queue.find? i = s.queue.find? i) : a.count i s e = a := by
  have htaken : i ∉ e.taken s := by
    intro hi
    obtain ⟨⟨r, hr, hs⟩, r', hr', hs'⟩ := Event.taken_moved hk hi
    rw [he, hr, Option.some.injEq] at hr'
    rw [← hr'] at hs'
    simp [hs'] at hs
  have hstate : (e.apply s).queue.stateOf i = s.queue.stateOf i := by
    rw [Table.stateOf, he, Table.stateOf]
  unfold count
  rw [hstate]
  cases e with
  | claim => exact if_neg htaken
  | enqueue | requeue | release =>
    refine if_neg ?_
    rintro ⟨hbefore, hafter⟩
    rw [hbefore] at hafter
    cases hafter
  | _ => rfl

namespace Accounted

theorem fresh (hc : r.retryCount = 0) (hs : r.state ≠ .sending ∧ r.state ≠ .delivered) :
    Accounted {} r where
  balance := by rw [if_neg (by simp [hs]), hc]; rfl
  spare hd := absurd hd hs.2

/-- A failure turns the attempt that is under way into a used up retry; the
counter of a row that is `sending` has room for it. -/
theorem spent (h : Accounted a r) (hsound : r.Sound) (hs : r.state = .sending) {r' : Row}
    (hf : r.failed text strategy now clock = .ok r')
    (hs' : r'.state ≠ .sending ∧ r'.state ≠ .delivered) : Accounted a r' where
  balance := by
    have hb := h.balance
    rw [if_pos (.inl hs)] at hb
    rw [if_neg (by simp [hs']), Row.failed_retryCount hf (hsound.retriesLeft (.inr (.inr hs)))]
    omega
  spare hd := absurd hd hs'.2

theorem moved (hsound : r.Sound) (h : Accounted a r) {r' : Row}
    (hm : Moved i m e (some r) (some r')) : Accounted (a.move m) r' := by
  have hb := h.balance
  cases hm with
  | claimed hs _ =>
    have hidle : ¬ (r.state = .sending ∨ r.state = .delivered) := by
      rcases hs with hs | hs | hs <;> simp [hs]
    rw [if_neg hidle] at hb
    refine ⟨?_, fun hd => by cases hd⟩
    simp only [Attempts.move, Row.claimed, true_or, if_true]
    omega
  | delivered hs =>
    rw [if_pos (.inl hs)] at hb
    refine ⟨?_, fun _ => hsound.retriesLeft (.inr (.inr hs))⟩
    simpa [Attempts.move, Row.delivered] using hb
  | failed hs hf hs' =>
    exact h.spent hsound hs hf (by simp [hs'])
  | buried hs hf hs' =>
    exact h.spent hsound hs hf (by simp [hs'])
  | released hs =>
    rw [if_pos (.inl hs)] at hb
    refine ⟨?_, fun hd => by cases hd⟩
    rw [if_neg (by simp [Row.released])]
    simp only [Attempts.move, Row.released]
    omega
  | requeued => exact fresh rfl (by simp [Row.requeued])

theorem bounded (hsound : r.Sound) (h : Accounted a r) :
    (a.claims : Int) ≤ r.maxRetries + a.releases ∧
      (r.state = .created ∨ r.state = .queued ∨ r.state = .failed →
        (a.claims : Int) < r.maxRetries + a.releases) := by
  have hb := h.balance
  have hcap := hsound.counted.2
  constructor
  · split at hb
    · rename_i hs
      have hleft : r.retryCount < r.maxRetries := by
        rcases hs with hs | hs
        · exact hsound.retriesLeft (.inr (.inr hs))
        · exact h.spare hs
      omega
    · omega
  · intro hs
    have hidle : ¬ (r.state = .sending ∨ r.state = .delivered) := by
      rcases hs with hs | hs | hs <;> simp [hs]
    rw [if_neg hidle] at hb
    have hleft : r.retryCount < r.maxRetries := by
      rcases hs with hs | hs | hs
      · exact hsound.retriesLeft (.inl hs)
      · exact hsound.retriesLeft (.inr (.inl hs))
      · exact (hsound.waiting hs).1.2
    omega

end Accounted

-- ---------------------------------------------------------------------------
-- Runs
-- ---------------------------------------------------------------------------

def AccountedIn (t : Table) (i : Int) (a : Attempts) : Prop :=
  ∀ r, t.find? i = some r → Accounted a r

theorem apply_accounted (h : s.queue.Sound) (ha : AccountedIn s.queue i a) (e : Event) :
    AccountedIn (e.apply s).queue i (a.count i s e) := by
  rcases e.apply_moved h.keyed i with he | ⟨m, hm⟩
  · rw [a.count_still h.keyed he, AccountedIn, he]
    exact ha
  · rw [a.count_moved h.keyed hm]
    intro r' hr'
    rw [hr'] at hm
    cases ho : s.queue.find? i with
    | none =>
      rw [ho] at hm
      cases hm
      exact .fresh rfl (by simp [Request.row])
    | some r =>
      rw [ho] at hm
      exact .moved (h.rows r (Table.mem_rows_of_find? ho).1) (ha r ho) hm

theorem run_accounted {events : List Event} (he : ∀ e ∈ events, e.Lawful) (h : s.queue.Sound)
    (ha : AccountedIn s.queue i a) :
    AccountedIn (run s events).queue i (a.countAll i s events) := by
  induction events generalizing s a with
  | nil => exact ha
  | cons e rest ih =>
    exact ih (fun e' he' => he e' (List.mem_cons_of_mem _ he'))
      (Event.apply_sound (he e List.mem_cons_self) h) (apply_accounted h ha e)

/-- In every run from the empty queue, failed operations and outages
included, the claims that gave a row since it was queued or last requeued are
its retry counter, its releases since then, and one more while it is
`sending` or when it is delivered. So they are at most the retries allowed
and the releases, and less than that while the row may still be claimed. -/
theorem attempts_accounted (events : List Event) (h : ∀ e ∈ events, e.Lawful) :
    ∀ r ∈ (run {} events).queue.rows,
      let a := Attempts.countAll r.id {} {} events
      (a.claims : Int) = r.retryCount + a.releases +
        (if r.state = .sending ∨ r.state = .delivered then 1 else 0) ∧
      (a.claims : Int) ≤ r.maxRetries + a.releases ∧
      (r.state = .created ∨ r.state = .queued ∨ r.state = .failed →
        (a.claims : Int) < r.maxRetries + a.releases) := by
  intro r hr a
  have hempty : Table.Sound {} := ⟨List.Pairwise.nil, by simp⟩
  have hsound := run_sound (s := {}) h hempty
  have ha : Accounted a r := run_accounted (s := {}) h hempty (fun _ hr => by cases hr) r
    ((Table.find?_eq_some hsound.keyed).mpr ⟨hr, rfl⟩)
  exact ⟨ha.balance, ha.bounded (hsound.rows r hr)⟩

def releasedOnce : List Event := [
  .enqueue { channel := "email", maxRetries := 1 } .first, .claim 1 .first,
  .markFailed 1 "boom" (.text "linear") .first .first, .requeue [1] .first, .claim 1 .first,
  .release (-1) .first [], .claim 1 .first]

theorem attempts_accounted_releasedOnce :
    Attempts.countAll 1 {} {} releasedOnce = { claims := 2, releases := 1 } ∧
      ∀ r ∈ (run {} releasedOnce).queue.rows,
        let a := Attempts.countAll r.id {} {} releasedOnce
        (a.claims : Int) = r.retryCount + a.releases +
          (if r.state = .sending ∨ r.state = .delivered then 1 else 0) ∧
        (a.claims : Int) ≤ r.maxRetries + a.releases ∧
        (r.state = .created ∨ r.state = .queued ∨ r.state = .failed →
          (a.claims : Int) < r.maxRetries + a.releases) := by
  refine ⟨by decide +kernel, attempts_accounted releasedOnce ?_⟩
  simp [releasedOnce, Event.Lawful]

end AlertDelivery.Queue
