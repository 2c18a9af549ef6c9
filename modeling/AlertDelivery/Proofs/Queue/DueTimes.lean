import AlertDelivery.Proofs.Queue.RowInvariant

/-!
# Which rows have a due time

A failure that leaves a retry sets the time when the row is due, and only the
end of delivery or a requeue clears it: a claim and a release leave it where
it is. So the due time tells that a retry was used up and is still to come,
but not that the row is `failed`.
-/

namespace AlertDelivery.Queue

/-- A row has a due time exactly while a used up retry is to be made or is
being made, and a claim comes no sooner. -/
structure Row.Dated (r : Row) : Prop where
  due_iff : r.nextRetryAt ≠ none ↔
    1 ≤ r.retryCount ∧ (r.state = .failed ∨ r.state = .queued ∨ r.state = .sending)
  reached : r.state = .sending → ∀ due, r.nextRetryAt = some due → due ≤ r.updatedAt

variable {s : Store} {t t' : Table} {r r' : Row} {now clock : Instant} {text : String}
  {strategy : Value}

theorem Request.row_dated (q : Request) (id : Int) (now : Instant) : (q.row id now).Dated where
  due_iff := by simp [row]
  reached h := by cases h

namespace Row

/-- Before a claim a row with a used up retry is `failed` or `queued`, and has
a due time in both states. -/
theorem Dated.claimed (h : r.Dated) (hs : r.Sound) (he : r.isEligible now = true) :
    (r.claimed now).Dated where
  due_iff := by
    have hd := h.due_iff
    have hc := isEligible_state he
    simp only [Row.claimed, reduceCtorEq, or_true, and_true]
    cases hst : r.state with
    | created =>
      have hnone := hs.untried hst
      simp [hnone]
    | queued | failed => simpa [hst] using hd
    | _ => simp [hst, DeliveryState.isClaimable] at hc
  reached _ due hdue := by
    have hnext : r.nextRetryAt = some due := hdue
    simp only [isEligible, hnext, Bool.and_eq_true, decide_eq_true_eq] at he
    exact he.2

theorem Dated.failed (hs : r.Sound) (h : r.state = .sending)
    (hf : r.failed text strategy now clock = .ok r') : r'.Dated := by
  have hpos := hs.counted.1
  have hlt := hs.retriesLeft (.inr (.inr h))
  rcases failed_ok hf with ⟨-, rfl⟩ | ⟨-, _, due, -, -, rfl⟩
  · exact { due_iff := by simp [buried], reached := fun h => by cases h }
  · refine { due_iff := ?_, reached := fun h => by cases h }
    have hcount : 1 ≤ (r.spent text now clock).retryCount := by
      simp only [spent]
      omega
    simp [postponed, hcount]

theorem Dated.released (h : r.Dated) (hs : r.state = .sending) : (r.released now).Dated where
  due_iff := by
    have hd := h.due_iff
    simpa [hs, Row.released] using hd
  reached h := by cases h

theorem Change.dated (h : Change r r') (hs : r.Sound) (hd : r.Dated) : r'.Dated := by
  cases h with
  | claim he => exact hd.claimed hs he
  | deliver => exact { due_iff := by simp [Row.delivered], reached := fun h => by cases h }
  | fail h hf => exact .failed hs h hf
  | release _ h => exact hd.released h
  | requeue => exact { due_iff := by simp [Row.requeued], reached := fun h => by cases h }

theorem Dated.left (h : r.Dated) (hs : r.Sound) (hdue : r.nextRetryAt ≠ none) :
    r.retryCount < r.maxRetries := by
  rcases (h.due_iff.mp hdue).2 with hst | hst | hst
  · exact (hs.waiting hst).1.2
  · exact hs.retriesLeft (.inr (.inl hst))
  · exact hs.retriesLeft (.inr (.inr hst))

end Row

theorem Event.apply_dated {e : Event} (h : s.queue.Sound) (hd : ∀ r ∈ s.queue.rows, r.Dated) :
    ∀ r ∈ (e.apply s).queue.rows, r.Dated := by
  rcases e.apply_cases s with heq | hdoes
  · rwa [heq]
  · intro r' hr'
    rcases hdoes.mem h.keyed hr' with hr | ⟨r, hr, hc⟩ | ⟨q, now, rfl, rfl⟩
    · exact hd r' hr
    · exact hc.dated (h.rows r hr) (hd r hr)
    · exact q.row_dated _ _

theorem run_dated {events : List Event} (he : ∀ e ∈ events, e.Lawful) (h : s.queue.Sound)
    (hd : ∀ r ∈ s.queue.rows, r.Dated) : ∀ r ∈ (run s events).queue.rows, r.Dated := by
  induction events generalizing s with
  | nil => exact hd
  | cons e rest ih =>
    exact ih (fun e he' => he e (List.mem_cons_of_mem _ he'))
      (Event.apply_sound (he e List.mem_cons_self) h) (Event.apply_dated h hd)

/-- In every run from the empty queue, with any operations in any order, a
row has a due time exactly if it has used up a retry and is `failed`,
`queued` or `sending`; it then has a retry left, and if it is `sending` the
time had come when it was claimed. -/
theorem rows_dated (events : List Event) (h : ∀ e ∈ events, e.Lawful) :
    ∀ r ∈ (run {} events).queue.rows,
      (r.nextRetryAt ≠ none ↔
        1 ≤ r.retryCount ∧ (r.state = .failed ∨ r.state = .queued ∨ r.state = .sending)) ∧
      (r.nextRetryAt ≠ none → r.retryCount < r.maxRetries) ∧
      (r.state = .sending → ∀ due, r.nextRetryAt = some due → due ≤ r.updatedAt) := by
  intro r hr
  have hempty : Table.Sound {} := ⟨List.Pairwise.nil, by simp⟩
  have hsound := (run_sound (s := {}) h hempty).rows r hr
  have hdated : r.Dated := run_dated (s := {}) h hempty (by simp) r hr
  exact ⟨hdated.due_iff, hdated.left hsound, hdated.reached⟩

def failedThenClaimed : List Event := [
  .enqueue { channel := "email" } .first, .claim 1 .first,
  .markFailed 1 "boom" (.text "linear") .first .first,
  .claim 1 Instant.clockStart]

theorem rows_dated_failedThenClaimed :
    (run {} failedThenClaimed).queue.rows.map (fun r => (r.state, r.retryCount)) =
      [(.sending, 1)] ∧
    ∀ r ∈ (run {} failedThenClaimed).queue.rows,
      (r.nextRetryAt ≠ none ↔
        1 ≤ r.retryCount ∧ (r.state = .failed ∨ r.state = .queued ∨ r.state = .sending)) ∧
      (r.nextRetryAt ≠ none → r.retryCount < r.maxRetries) ∧
      (r.state = .sending → ∀ due, r.nextRetryAt = some due → due ≤ r.updatedAt) := by
  refine ⟨by decide +kernel, rows_dated failedThenClaimed ?_⟩
  simp [failedThenClaimed, Event.Lawful]

/-- A row that is being sent again still has the due time of its failure. -/
theorem due_not_only_while_failed :
    ¬ ∀ events : List Event, (∀ e ∈ events, e.Lawful) → ∀ r ∈ (run {} events).queue.rows,
      r.nextRetryAt ≠ none → r.state = .failed ∧ r.retryCount < r.maxRetries := by
  intro h
  have hl : ∀ e ∈ failedThenClaimed, e.Lawful := by simp [failedThenClaimed, Event.Lawful]
  have hrow : ∃ r ∈ (run {} failedThenClaimed).queue.rows,
      r.nextRetryAt ≠ none ∧ r.state = .sending := by decide +kernel
  obtain ⟨r, hr, hdue, hs⟩ := hrow
  have hfailed := (h failedThenClaimed hl r hr hdue).1
  rw [hs] at hfailed
  cases hfailed

end AlertDelivery.Queue
