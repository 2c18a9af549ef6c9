import AlertDelivery.Proofs.Queue.Claiming
import AlertDelivery.Proofs.Queue.Tallies

/-!
# Queue statistics

The statistics of a queue agree with its rows and with one another, and what
they call pending is what a claim takes that is allowed as many as there are
rows.
-/

namespace AlertDelivery.Queue

-- ---------------------------------------------------------------------------
-- Rows by their states
-- ---------------------------------------------------------------------------

variable {t : Table} {rows : List Row} {s : Store} {now : Instant} {limit : Int}

def Row.IsOpen (r : Row) : Prop := r.state ≠ .delivered ∧ r.state ≠ .deadLetter

instance : DecidablePred Row.IsOpen := fun _ => inferInstanceAs (Decidable (_ ∧ _))

theorem Row.not_isTerminal (r : Row) : (!r.state.isTerminal) = decide r.IsOpen := by
  rw [Bool.eq_iff_iff, decide_eq_true_eq, Row.IsOpen]
  cases hs : r.state <;> simp [DeliveryState.isTerminal]

theorem Row.counted_once (r : Row) : (if r.IsOpen then 1 else 0) +
    (if r.state = .delivered then 1 else 0) + (if r.state = .deadLetter then 1 else 0) = 1 := by
  by_cases hdelivered : r.state = .delivered
  · simp [Row.IsOpen, hdelivered]
  · by_cases hdead : r.state = .deadLetter <;> simp [Row.IsOpen, hdelivered, hdead]

theorem countP_states (rows : List Row) : (rows.countP fun r => r.IsOpen) +
    (rows.countP fun r => r.state = .delivered) +
    (rows.countP fun r => r.state = .deadLetter) = rows.length := by
  induction rows with
  | nil => rfl
  | cons r rest ih =>
    have hone := r.counted_once
    simp only [List.countP_cons, List.length_cons, decide_eq_true_eq]
    omega

/-- A row as the store gives it: its state is the one that the stored word
stands for. -/
def Row.IsWorded (r : Row) : Prop := r.state = .ofStored r.state.name

theorem Row.IsWorded.dead_iff {r : Row} (h : r.IsWorded) :
    r.state.name = "dead_letter" ↔ r.state = .deadLetter := by
  constructor
  · intro hname
    rw [h, hname]
    rfl
  · intro hstate
    rw [hstate]
    rfl

-- ---------------------------------------------------------------------------
-- Statistics
-- ---------------------------------------------------------------------------

namespace Table

structure Stats.Agrees (stats : Stats) (rows : List Row) : Prop where
  total : stats.total = rows.length
  states : (stats.byState.map (·.1)).Nodup ∧ ∀ word n, (word, n) ∈ stats.byState ↔
    0 < n ∧ n = rows.countP fun r => r.state.name = word
  stateSum : (stats.byState.map (·.2)).sum = stats.total
  dead : stats.deadLetters = rows.countP fun r => r.state = .deadLetter
  deadAmongStates : (∀ r ∈ rows, r.IsWorded) →
    stats.deadLetters = (stats.byState.lookup "dead_letter").getD 0
  channels : (stats.byChannel.map (·.1)).Nodup ∧ ∀ channel n, (channel, n) ∈ stats.byChannel ↔
    0 < n ∧ n = rows.countP fun r => r.channel = channel ∧ r.IsOpen
  channelSum : (stats.byChannel.map (·.2)).sum +
    (rows.countP fun r => r.state = .delivered) + stats.deadLetters = stats.total

theorem stats_total (t : Table) (now : Instant) : (t.stats now).total = t.rows.length := by
  rw [Stats.total, stats, countTotal_tallies, List.length_map]

theorem stats_deadLetters (t : Table) (now : Instant) :
    (t.stats now).deadLetters = t.rows.countP fun r => r.state = .deadLetter := by
  rw [stats, countWhere]
  exact List.countP_congr fun r _ => by simp

theorem stats_agrees (t : Table) (now : Instant) : (t.stats now).Agrees t.rows where
  total := stats_total t now
  states := by
    refine ⟨tallies_nodup _, fun word n => ?_⟩
    rw [stats, mem_tallies, List.count_eq_countP, List.countP_map]
    rfl
  stateSum := by rw [← countTotal_eq_sum, Stats.total]
  dead := stats_deadLetters t now
  deadAmongStates hworded := by
    rw [stats_deadLetters, stats, getD_lookup_tallies, List.count_eq_countP, List.countP_map]
    refine List.countP_congr fun r hr => ?_
    simp [(hworded r hr).dead_iff]
  channels := by
    refine ⟨tallies_nodup _, fun channel n => ?_⟩
    rw [stats, mem_tallies, List.count_eq_countP, List.countP_map, List.countP_filter]
    simp only [Row.not_isTerminal, Bool.decide_and]
    rfl
  channelSum := by
    rw [stats_total, stats_deadLetters, ← countTotal_eq_sum, stats, countTotal_tallies,
      List.length_map, ← List.countP_eq_length_filter, ← countP_states]
    simp only [Row.not_isTerminal]

theorem claim_all (hrows : t.rows.length ≤ limit) (hs : isStorable limit = true)
    (now : Instant) : ∃ entries t', t.claim limit now = .ok (entries, t') ∧
      entries.length = t.countWhere (Row.isEligible now) := by
  have hst : storable [limit] = .ok () := storable_of_forall (by simpa using hs)
  refine ⟨_, _, by rw [claim, hst, ok_bind]; rfl, ?_⟩
  have hall : t.countWhere (Row.isEligible now) ≤ limit.toNat := by
    have := List.countP_le_length (p := Row.isEligible now) (l := t.rows)
    unfold countWhere
    omega
  rw [List.length_map, List.length_take, eligible, List.length_mergeSort,
    ← List.countP_eq_length_filter]
  exact min_eq_right hall

end Table

theorem claim_pending (hup : s.isUp = true) (hrows : s.queue.rows.length ≤ limit)
    (hlimit : limit ≤ 9223372036854775807) (now : Instant) :
    ∃ entries s', Store.claim limit now s = .ok entries s' ∧
      (s.queue.stats now).pending = entries.length := by
  unfold Store.claim
  split
  next hle =>
    have hempty : s.queue.rows = [] := List.eq_nil_of_length_eq_zero (by omega)
    exact ⟨[], s, rfl, by simp [Table.stats, Table.countWhere, hempty]⟩
  next hpos =>
    have hs : isStorable limit = true := by
      simp only [isStorable, Bool.and_eq_true, decide_eq_true_eq]
      omega
    obtain ⟨entries, queue, hclaim, hlength⟩ := Table.claim_all hrows hs now
    exact ⟨entries, _, Store.onQueue_up (fun t => t.claim limit now) hup hclaim, hlength.symm⟩

theorem claim_too_large (hup : s.isUp = true) (hlimit : 9223372036854775807 < limit)
    (now : Instant) : Store.claim limit now s = .error tooLargeToStore s := by
  refine claim_refused (fun _ => hup) (Bool.eq_false_iff.mpr fun hs => ?_) now
  have := isStorable_zero_max.mp hs
  omega

/-- The statistics of a queue agree with its rows and with one another, and
they call as many rows pending as a claim takes that is allowed all rows. But
a claim for more than a column can hold takes none. -/
theorem statistics_agree (hup : s.isUp = true) (now : Instant) :
    ∃ stats, Store.queueStats now s = .ok stats s ∧ stats.Agrees s.queue.rows ∧
      ∀ limit : Int, s.queue.rows.length ≤ limit →
        (limit ≤ 9223372036854775807 → ∃ entries s',
          Store.claim limit now s = .ok entries s' ∧ stats.pending = entries.length) ∧
        (9223372036854775807 < limit →
          Store.claim limit now s = .error tooLargeToStore s) := by
  refine ⟨s.queue.stats now, Store.query_up (fun s => .ok (s.queue.stats now)) hup rfl,
    Table.stats_agrees s.queue now, fun limit hrows => ⟨fun hlimit => ?_, fun hlimit => ?_⟩⟩
  · exact claim_pending hup hrows hlimit now
  · exact claim_too_large hup hlimit now

def assorted : Store := { queue := ⟨[
  { id := 1, channel := "email", body := "", createdAt := .first, updatedAt := .first },
  { id := 2, channel := "slack", body := "", state := .failed, nextRetryAt := some .first,
    createdAt := .first, updatedAt := .first },
  { id := 3, channel := "slack", body := "", state := .failed, nextRetryAt := some .clockStart,
    createdAt := .first, updatedAt := .first },
  { id := 4, channel := "email", body := "", state := .sending, createdAt := .first,
    updatedAt := .first },
  { id := 5, channel := "email", body := "", state := .delivered, createdAt := .first,
    updatedAt := .first },
  { id := 6, channel := "slack", body := "", state := .deadLetter, createdAt := .first,
    updatedAt := .first }]⟩ }

theorem statistics_agree_assorted : ∃ stats entries s',
    Store.queueStats .first assorted = .ok stats assorted ∧
      Store.claim 6 .first assorted = .ok entries s' ∧ entries.length = 2 ∧
      ("slack", 2) ∈ stats.byChannel ∧ stats.deadLetters = 1 := by
  obtain ⟨stats, hstats, hagrees, hclaim⟩ := statistics_agree (s := assorted) rfl .first
  obtain ⟨entries, s', htaken, hpending⟩ := (hclaim 6 (by decide)).1 (by decide)
  have htwo : stats = assorted.queue.stats .first := by
    cases hstats
    rfl
  refine ⟨stats, entries, s', hstats, htaken, ?_, ?_, ?_⟩
  · rw [← hpending, htwo]
    decide +kernel
  · exact (hagrees.channels.2 "slack" 2).mpr (by decide +kernel)
  · rw [hagrees.dead]
    decide +kernel

def lone : Store := { queue := ⟨[
  { id := 1, channel := "email", body := "B", createdAt := .clockStart,
    updatedAt := .clockStart }]⟩ }

/-- A claim that is allowed more than all rows may take none of what is
pending. -/
theorem pending_not_always_claimed :
    ¬ ∀ (s : Store) (now : Instant) (limit : Int), s.isUp = true →
      s.queue.rows.length ≤ limit → ∃ stats entries s',
        Store.queueStats now s = .ok stats s ∧ Store.claim limit now s = .ok entries s' ∧
          stats.pending = entries.length := by
  intro h
  obtain ⟨_, _, _, -, hclaim, -⟩ := h lone .clockStart 9223372036854775808 rfl (by decide)
  rw [claim_too_large rfl (by decide)] at hclaim
  cases hclaim

end AlertDelivery.Queue
