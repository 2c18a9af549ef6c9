import AlertDelivery.Proofs.OpLaws
import AlertDelivery.Proofs.Queue.Eligibility
import AlertDelivery.Proofs.Queue.Sends

/-!
# Reports of a failed attempt

The report of a failed attempt is recorded as a whole or not at all. A row
with retries left needs a known strategy and a next retry that has a date, a
row without needs neither: so whether a report can be recorded depends on
which of the two its row is. `Impedes` lists what may be in its way, and
`Row.FailedTo` says what it makes of its row.
-/

namespace AlertDelivery.Queue

variable {s s' : Store} {t : Table} {r r' : Row} {i : Int} {text : String} {strategy : Value}
  {now clock : Instant} {fault : Fault}

structure Row.MayRetry (r : Row) : Prop where
  sending : r.state = .sending
  left : r.retryCount + 1 < r.maxRetries

/-- What is in the way of a report. The strategy and the date of the next
retry matter only to a row that is left one. -/
inductive Impedes (s : Store) (i : Int) (strategy : Value) (now : Instant) : Fault → Prop
  | down (hup : s.isUp = false) : Impedes s i strategy now (Store.down "mark_failed")
  | id (hup : s.isUp = true) (hid : isStorable i = false) :
    Impedes s i strategy now tooLargeToStore
  | strategy {r : Row} {fault : Fault} (hup : s.isUp = true) (hid : isStorable i = true)
      (hr : s.queue.find? i = some r) (hretry : r.MayRetry)
      (hb : Backoff.read strategy = .error fault) : Impedes s i strategy now fault
  | date {r : Row} {b : Backoff} (hup : s.isUp = true) (hid : isStorable i = true)
      (hr : s.queue.find? i = some r) (hretry : r.MayRetry) (hb : Backoff.read strategy = .ok b)
      (hlate : (Instant.limit : Int) ≤
        now.micros + b.minutes (r.retryCount + 1) * Instant.microsPerMinute) :
    Impedes s i strategy now Fault.dateOverflow

/-- What a failure makes of a row: a dead letter if it was the last attempt
allowed, and a row that is due again after the delay of the strategy if it
was not. The text of the failure is kept, up to a length, and nothing else
of the row changes. -/
structure Row.FailedTo (r r' : Row) (text : String) (strategy : Value) (now clock : Instant) :
    Prop where
  dead : r.maxRetries ≤ r.retryCount + 1 → r'.state = .deadLetter ∧
    r'.retryCount = r.maxRetries ∧ r'.failedAt = some now ∧ r'.nextRetryAt = none
  waiting : r.retryCount + 1 < r.maxRetries → r'.state = .failed ∧
    r'.retryCount = r.retryCount + 1 ∧ r'.failedAt = r.failedAt ∧
    ∃ b due, Backoff.read strategy = .ok b ∧ r'.nextRetryAt = some due ∧
      (due.micros : Int) = now.micros + b.minutes (r.retryCount + 1) * Instant.microsPerMinute
  error : ∃ kept : String, r'.error = some kept ∧
    kept.toList = (if text = "" then "unknown error" else text).toList.take 2000
  updated : r'.updatedAt = if now = r.updatedAt then clock else now
  rest : { r' with
    state := r.state, retryCount := r.retryCount, nextRetryAt := r.nextRetryAt,
    failedAt := r.failedAt, error := r.error, updatedAt := r.updatedAt } = r

def Table.replace (t : Table) (r : Row) : Table :=
  ⟨t.rows.map fun old => if old.id = r.id then r else old⟩

-- ---------------------------------------------------------------------------
-- One row
-- ---------------------------------------------------------------------------

namespace Row

theorem failed_error_iff : r.failed text strategy now clock = .error fault ↔
    r.retryCount + 1 < r.maxRetries ∧ (Backoff.read strategy = .error fault ∨
      ∃ b, Backoff.read strategy = .ok b ∧ b.nextRetry? (r.retryCount + 1) now = none ∧
        fault = Fault.dateOverflow) := by
  rw [failed_eq]
  by_cases hdead : r.maxRetries ≤ r.retryCount + 1
  · have hnot : ¬ r.retryCount + 1 < r.maxRetries := by omega
    simp [hdead, hnot]
  · have hleft : r.retryCount + 1 < r.maxRetries := by omega
    rw [if_neg hdead, bind_error]
    refine ⟨fun h => ⟨hleft, h.imp_right ?_⟩, fun ⟨_, h⟩ => h.imp_right ?_⟩
    · rintro ⟨b, hb, h⟩
      split at h
      · cases h
      next hnone => exact ⟨b, hb, hnone, (Except.error.inj h).symm⟩
    · rintro ⟨b, hb, hnone, rfl⟩
      exact ⟨b, hb, by rw [hnone]⟩

theorem keptError_toList (text : String) : (keptError text).toList =
    (if text = "" then "unknown error" else text).toList.take 2000 :=
  String.toList_ofList

theorem failedTo_of_failed (h : r.failed text strategy now clock = .ok r') :
    r.FailedTo r' text strategy now clock := by
  rcases failed_ok h with ⟨hdead, rfl⟩ | ⟨hleft, b, due, hb, hdue, rfl⟩
  · refine
      { dead := fun _ => ⟨rfl, ?_, rfl, rfl⟩
        waiting := fun hleft => by omega
        error := ⟨_, rfl, keptError_toList text⟩
        updated := rfl
        rest := rfl }
    simp only [buried, spent]
    omega
  · refine
      { dead := fun hdead => by omega
        waiting := fun _ => ⟨rfl, ?_, rfl, b, due, hb, rfl, Backoff.nextRetry?_eq_some.mp hdue⟩
        error := ⟨_, rfl, keptError_toList text⟩
        updated := rfl
        rest := rfl }
    simp only [postponed, spent]
    omega

end Row

-- ---------------------------------------------------------------------------
-- One report
-- ---------------------------------------------------------------------------

/-- In a table whose ids are distinct, the row of an id that is being sent is
the only one that an outcome reaches. -/
theorem Table.updateWhere_isSending (hk : t.Keyed) (hr : t.find? i = some r)
    (hs : r.state = .sending) (hid : r'.id = i) :
    (t.updateWhere (Row.isSending i) fun _ => r') = t.replace r' := by
  have hrow (old : Row) (hold : old ∈ t.rows) :
      (if Row.isSending i old = true then r' else old) = if old.id = r'.id then r' else old := by
    by_cases hi : old.id = i
    · obtain rfl : old = r :=
        Option.some.inj (((find?_eq_some hk).mpr ⟨hold, hi⟩).symm.trans hr)
      rw [if_pos (Row.isSending_iff.mpr ⟨hi, hs⟩), if_pos (hi.trans hid.symm)]
    · rw [if_neg fun h => hi (Row.isSending_iff.mp h).1, if_neg (hid ▸ hi)]
  rw [updateWhere, replace, List.map_congr_left hrow]

theorem Table.markFailed_idle (hid : isStorable i = true) (hs : ¬ t.Sends i) (text : String)
    (strategy : Value) (now clock : Instant) :
    t.markFailed i text strategy now clock = .ok (none, t) := by
  have hst : storable [i] = .ok () := storable_of_forall (by simpa using hid)
  have hnone : t.rows.find? (Row.isSending i) = none :=
    List.find?_eq_none.mpr fun r hr hrow => hs ⟨r, hr, hrow⟩
  rw [markFailed, hst, ok_bind, hnone]
  rfl

theorem markFailed_faulty (hup : s.isUp = true)
    (h : s.queue.markFailed i text strategy now clock = .error fault) :
    Store.markFailed i text strategy now clock s = .error fault s :=
  Store.onQueue_fault (fun t => t.markFailed i text strategy now clock) hup h

theorem Impedes.run (hk : s.queue.Keyed) (h : Impedes s i strategy now fault) :
    Store.markFailed i text strategy now clock s = .error fault s := by
  cases h with
  | down hup => simp [Store.markFailed, Store.onQueue, Store.transact, hup]
  | id hup hid =>
    have hst : storable [i] = .error tooLargeToStore := by simp [storable, hid]
    refine markFailed_faulty hup ?_
    rw [Table.markFailed, hst]
    rfl
  | @strategy r _ hup hid hr hretry hb =>
    have hf : r.failed text strategy now clock = .error fault :=
      Row.failed_error_iff.mpr ⟨hretry.left, .inl hb⟩
    refine markFailed_faulty hup ?_
    rw [Table.markFailed_sending hk hr hretry.sending hid, hf]
    rfl
  | @date r b hup hid hr hretry hb hlate =>
    have hf : r.failed text strategy now clock = .error Fault.dateOverflow :=
      Row.failed_error_iff.mpr
        ⟨hretry.left, .inr ⟨b, hb, Backoff.nextRetry?_eq_none.mpr hlate, rfl⟩⟩
    refine markFailed_faulty hup ?_
    rw [Table.markFailed_sending hk hr hretry.sending hid, hf]
    rfl

theorem markFailed_cases (hk : s.queue.Keyed) (i : Int) (text : String) (strategy : Value)
    (now clock : Instant) :
    (∃ fault, Impedes s i strategy now fault) ∨
    (¬ s.queue.Sends i ∧ Store.markFailed i text strategy now clock s = .ok none s) ∨
    ∃ r r', s.queue.find? i = some r ∧ r.state = .sending ∧
      r.FailedTo r' text strategy now clock ∧
      Store.markFailed i text strategy now clock s =
        .ok (some r'.toEntry) { s with queue := s.queue.replace r' } := by
  by_cases hup : s.isUp = true
  · cases hid : isStorable i with
    | false => exact .inl ⟨_, .id hup hid⟩
    | true =>
      by_cases hs : s.queue.Sends i
      · obtain ⟨r, hr, hsending⟩ := (Table.sends_iff_find? hk).mp hs
        have hrow := Table.markFailed_sending hk hr hsending hid text strategy now clock
        cases hf : r.failed text strategy now clock with
        | error fault =>
          obtain ⟨hleft, hb | ⟨b, hb, hnone, rfl⟩⟩ := Row.failed_error_iff.mp hf
          · exact .inl ⟨_, .strategy hup hid hr ⟨hsending, hleft⟩ hb⟩
          · have hlate := Backoff.nextRetry?_eq_none.mp hnone
            exact .inl ⟨_, .date hup hid hr ⟨hsending, hleft⟩ hb hlate⟩
        | ok r' =>
          have hid' : r'.id = i := (Row.failed_id hf).trans (Table.mem_rows_of_find? hr).2
          rw [hf, Except.map, Table.updateWhere_isSending hk hr hsending hid'] at hrow
          exact .inr (.inr ⟨r, r', hr, hsending, Row.failedTo_of_failed hf,
            Store.onQueue_up (fun t => t.markFailed i text strategy now clock) hup hrow⟩)
      · have hidle := Table.markFailed_idle hid hs text strategy now clock
        exact .inr (.inl ⟨hs,
          Store.onQueue_up (fun t => t.markFailed i text strategy now clock) hup hidle⟩)
  · exact .inl ⟨_, .down (by simpa using hup)⟩

/-- A report is stopped by what is in its way, and by nothing else, and the
store stays as it was. Of the others, one for a row that is not being sent
changes nothing either, and one for a row that is changes that row alone. -/
theorem failure_whole (hk : s.queue.Keyed) (i : Int) (text : String) (strategy : Value)
    (now clock : Instant) :
    (∀ fault s', Store.markFailed i text strategy now clock s = .error fault s' ↔
      Impedes s i strategy now fault ∧ s' = s) ∧
    ((∀ fault, ¬ Impedes s i strategy now fault) →
      (¬ s.queue.Sends i ∧ Store.markFailed i text strategy now clock s = .ok none s) ∨
      ∃ r r', s.queue.find? i = some r ∧ r.state = .sending ∧
        r.FailedTo r' text strategy now clock ∧
        Store.markFailed i text strategy now clock s =
          .ok (some r'.toEntry) { s with queue := s.queue.replace r' }) := by
  have hcases := markFailed_cases hk i text strategy now clock
  refine ⟨fun fault s' => ⟨fun h => ?_, ?_⟩, fun hfree => ?_⟩
  · rcases hcases with ⟨fault', hf⟩ | ⟨-, hidle⟩ | ⟨_, _, -, -, -, hrecorded⟩
    · cases h.symm.trans (hf.run hk)
      exact ⟨hf, rfl⟩
    · cases h.symm.trans hidle
    · cases h.symm.trans hrecorded
  · rintro ⟨hf, rfl⟩
    exact hf.run hk
  · exact hcases.resolve_left fun ⟨fault, hf⟩ => hfree fault hf

def secondAttempt : Store where
  queue := ⟨[{
    id := 1, channel := "email", state := .sending, body := "River rising", retryCount := 1,
    createdAt := .first, updatedAt := .first }]⟩

theorem failure_whole_unknownStrategy : secondAttempt.queue.Keyed ∧
    Impedes secondAttempt 1 (.text "weekly") .first
      (.badValue "'weekly' is not a valid BackoffStrategy") := by
  have hk : secondAttempt.queue.Keyed := List.pairwise_singleton _ _
  have hrun : Store.markFailed 1 "refused" (.text "weekly") .first .first secondAttempt =
      .error (.badValue "'weekly' is not a valid BackoffStrategy") secondAttempt := by rfl
  exact ⟨hk, ((failure_whole hk 1 "refused" (.text "weekly") .first .first).1 _ _).mp hrun |>.1⟩

end AlertDelivery.Queue
