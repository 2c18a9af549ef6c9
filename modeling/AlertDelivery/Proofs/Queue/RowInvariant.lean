import AlertDelivery.Proofs.Queue.Run
import Mathlib.Data.List.Permutation

/-!
# What holds of every row

`Row.Coherent` ties the state of a row to its retry counter and its times.
It is not inductive by itself: a requeued row starts again from zero, so it
has retries left only because every request allows at least one. `Row.Sound`
adds that, each change of a row keeps it, and so every run does.
-/

namespace AlertDelivery.Queue

/-- How the state of a row goes with its counter and its times. -/
structure Row.Coherent (r : Row) : Prop where
  counted : 0 ≤ r.retryCount ∧ r.retryCount ≤ r.maxRetries
  retriesLeft : r.state = .created ∨ r.state = .queued ∨ r.state = .sending →
    r.retryCount < r.maxRetries
  untried : r.state = .created → r.retryCount = 0 ∧ r.nextRetryAt = none
  waiting : r.state = .failed →
    (1 ≤ r.retryCount ∧ r.retryCount < r.maxRetries) ∧ r.nextRetryAt ≠ none
  dead : r.state = .deadLetter →
    r.retryCount = r.maxRetries ∧ r.nextRetryAt = none ∧ r.failedAt ≠ none
  delivered : r.deliveredAt ≠ none ↔ r.state = .delivered
  settled : r.state = .delivered → r.nextRetryAt = none
  tried : r.nextRetryAt ≠ none → 1 ≤ r.retryCount

structure Row.Sound (r : Row) : Prop extends r.Coherent where
  allowed : 1 ≤ r.maxRetries

variable {s : Store} {t t' : Table} {q : Request} {r r' : Row} {now clock : Instant} {text : String}
  {strategy : Value}

theorem Request.row_sound (h : 1 ≤ q.maxRetries) (id : Int) (now : Instant) :
    (q.row id now).Sound where
  counted := by simp only [row]; omega
  retriesLeft _ := by simp only [row]; omega
  untried _ := ⟨rfl, rfl⟩
  waiting h := by cases h
  dead h := by cases h
  delivered := by simp [row]
  settled h := by cases h
  tried h := absurd rfl h
  allowed := h

namespace Row

theorem Coherent.undelivered (hs : r.Coherent) (h : r.state ≠ .delivered) :
    r.deliveredAt = none := by
  by_contra hd
  exact h (hs.delivered.mp hd)

theorem Sound.claimed (hs : r.Sound) (he : r.isEligible now = true) : (r.claimed now).Sound where
  counted := hs.counted
  retriesLeft _ := by
    have hc := isEligible_state he
    cases h : r.state with
    | created => exact hs.retriesLeft (.inl h)
    | queued => exact hs.retriesLeft (.inr (.inl h))
    | failed => exact (hs.waiting h).1.2
    | _ => simp [h, DeliveryState.isClaimable] at hc
  untried h := by cases h
  waiting h := by cases h
  dead h := by cases h
  delivered := by simp [Row.claimed, hs.undelivered (isEligible_ne he).2.1]
  settled h := by cases h
  tried := hs.tried
  allowed := hs.allowed

theorem Sound.delivered_at (hs : r.Sound) : (r.delivered now).Sound where
  counted := hs.counted
  retriesLeft h := by rcases h with h | h | h <;> cases h
  untried h := by cases h
  waiting h := by cases h
  dead h := by cases h
  delivered := by simp [Row.delivered]
  settled _ := rfl
  tried h := absurd rfl h
  allowed := hs.allowed

theorem Sound.failed (hs : r.Sound) (h : r.state = .sending)
    (hf : r.failed text strategy now clock = .ok r') : r'.Sound := by
  have hlt := hs.retriesLeft (.inr (.inr h))
  have hpos := hs.counted.1
  have hd : r.deliveredAt = none := hs.undelivered (by simp [h])
  rcases failed_ok hf with ⟨hmax, rfl⟩ | ⟨hleft, _, due, -, -, rfl⟩
  · exact {
      counted := by simp only [buried, spent]; omega
      retriesLeft := fun h => by rcases h with h | h | h <;> cases h
      untried := fun h => by cases h
      waiting := fun h => by cases h
      dead := fun _ => ⟨by simp only [buried, spent]; omega, rfl, Option.some_ne_none _⟩
      delivered := by simp [buried, spent, hd]
      settled := fun h => by cases h
      tried := fun h => absurd rfl h
      allowed := hs.allowed }
  · exact {
      counted := by simp only [postponed, spent]; omega
      retriesLeft := fun h => by rcases h with h | h | h <;> cases h
      untried := fun h => by cases h
      waiting := fun _ => ⟨by simp only [postponed, spent]; omega, Option.some_ne_none _⟩
      dead := fun h => by cases h
      delivered := by simp [postponed, spent, hd]
      settled := fun h => by cases h
      tried := fun _ => by simp only [postponed, spent]; omega
      allowed := hs.allowed }

theorem Sound.released (hs : r.Sound) (h : r.state = .sending) : (r.released now).Sound where
  counted := hs.counted
  retriesLeft _ := hs.retriesLeft (.inr (.inr h))
  untried h := by cases h
  waiting h := by cases h
  dead h := by cases h
  delivered := by simp [Row.released, hs.undelivered (by simp [h])]
  settled h := by cases h
  tried := hs.tried
  allowed := hs.allowed

theorem Sound.requeued (hs : r.Sound) (h : r.state = .deadLetter) : (r.requeued now).Sound where
  counted := by
    have := hs.allowed
    simp only [Row.requeued]
    omega
  retriesLeft _ := by
    have := hs.allowed
    simp only [Row.requeued]
    omega
  untried h := by cases h
  waiting h := by cases h
  dead h := by cases h
  delivered := by simp [Row.requeued, hs.undelivered (by simp [h])]
  settled h := by cases h
  tried h := absurd rfl h
  allowed := hs.allowed

theorem Change.sound (h : Change r r') (hs : r.Sound) : r'.Sound := by
  cases h with
  | claim he => exact hs.claimed he
  | deliver => exact hs.delivered_at
  | fail h hf => exact hs.failed h hf
  | release _ h => exact hs.released h
  | requeue _ h => exact hs.requeued h

end Row

/-- Whether the caller of an operation keeps to what a policy guarantees:
every request allows at least one retry. -/
def Event.Lawful : Event → Prop
  | .enqueue q _ => 1 ≤ q.maxRetries
  | _ => True

structure Table.Sound (t : Table) : Prop where
  keyed : t.Keyed
  rows : ∀ r ∈ t.rows, r.Sound

theorem Event.Does.sound {e : Event} (hd : e.Does t t') (he : e.Lawful) (h : t.Sound) :
    t'.Sound := by
  refine ⟨hd.keyed h.keyed, fun r' hr' => ?_⟩
  rcases hd.mem h.keyed hr' with hr | ⟨r, hr, hc⟩ | ⟨q, now, rfl, rfl⟩
  · exact h.rows r' hr
  · exact hc.sound (h.rows r hr)
  · exact Request.row_sound he _ _

theorem Event.apply_sound {e : Event} (he : e.Lawful) (h : s.queue.Sound) :
    (e.apply s).queue.Sound := by
  rcases e.apply_cases s with heq | hd
  · rwa [heq]
  · exact hd.sound he h

theorem run_sound {events : List Event} (he : ∀ e ∈ events, e.Lawful) (h : s.queue.Sound) :
    (run s events).queue.Sound := by
  induction events generalizing s with
  | nil => exact h
  | cons e rest ih =>
    exact ih (fun e he' => he e (List.mem_cons_of_mem _ he'))
      (Event.apply_sound (he e List.mem_cons_self) h)

/-- In every run from the empty queue, with any operations in any order,
failed ones and outages included, every row is coherent. -/
theorem rows_coherent (events : List Event) (h : ∀ e ∈ events, e.Lawful) :
    ∀ r ∈ (run {} events).queue.rows, r.Coherent := by
  have hs : (run {} events).queue.Sound := run_sound h ⟨List.Pairwise.nil, by simp⟩
  exact fun r hr => (hs.rows r hr).toCoherent

def deliveryAndDeath : List Event := [
  .enqueue { channel := "email", maxRetries := 1 } Instant.clockStart,
  .enqueue { channel := "slack" } Instant.clockStart,
  .claim 10 Instant.clockStart,
  .markFailed 1 "boom" (.text "linear") Instant.clockStart Instant.clockStart,
  .markDelivered 2 Instant.clockStart]

theorem rows_coherent_deliveryAndDeath :
    (run {} deliveryAndDeath).queue.rows.map (·.state) = [.deadLetter, .delivered] ∧
      ∀ r ∈ (run {} deliveryAndDeath).queue.rows, r.Coherent := by
  refine ⟨by cbv, rows_coherent deliveryAndDeath ?_⟩
  simp [deliveryAndDeath, Event.Lawful]

end AlertDelivery.Queue
