import AlertDelivery.Proofs.Queue.Sends
import AlertDelivery.Proofs.Queue.Run

/-!
# The way of a notification

The row of an id is not there, or is in one of the states, and goes from one
to another by a `Move`. `Moved` is the state machine: which operation makes
which move, what the row must be for it, and the whole row afterwards. An
event that makes no move leaves the row as it is, and what happens between
two moments of a run is read off the states at its ends.
-/

namespace AlertDelivery.Queue

inductive Move where
  | enqueued
  | claimed
  | delivered
  | failed
  | buried
  | released
  | requeued
  | deleted
deriving DecidableEq

/-- The state machine of the row of an id. -/
inductive Moved (i : Int) : Move → Event → Option Row → Option Row → Prop
  | enqueued {q : Request} {now : Instant} :
      Moved i .enqueued (.enqueue q now) none (some (q.row i now))
  | claimed {r : Row} {limit : Int} {now : Instant}
      (hs : r.state = .created ∨ r.state = .queued ∨ r.state = .failed)
      (hdue : ∀ due, r.nextRetryAt = some due → due ≤ now) :
      Moved i .claimed (.claim limit now) (some r) (some (r.claimed now))
  | delivered {r : Row} {now : Instant} (hs : r.state = .sending) :
      Moved i .delivered (.markDelivered i now) (some r) (some (r.delivered now))
  | failed {r r' : Row} {text : String} {strategy : Value} {now clock : Instant}
      (hs : r.state = .sending) (hf : r.failed text strategy now clock = .ok r')
      (hs' : r'.state = .failed) :
      Moved i .failed (.markFailed i text strategy now clock) (some r) (some r')
  | buried {r r' : Row} {text : String} {strategy : Value} {now clock : Instant}
      (hs : r.state = .sending) (hf : r.failed text strategy now clock = .ok r')
      (hs' : r'.state = .deadLetter) :
      Moved i .buried (.markFailed i text strategy now clock) (some r) (some r')
  | released {r : Row} {age : Int} {now cutoff : Instant} {exclude : List Int}
      (hs : r.state = .sending) (hx : i ∉ exclude) (hc : now.shift? (-age) = some cutoff)
      (hold : r.updatedAt < cutoff) :
      Moved i .released (.release age now exclude) (some r) (some (r.released now))
  | requeued {r : Row} {ids : List Int} {now : Instant} (hs : r.state = .deadLetter)
      (hi : i ∈ ids) : Moved i .requeued (.requeue ids now) (some r) (some (r.requeued now))
  | deleted {r : Row} {days : Int} {now cutoff : Instant} (hs : r.state = .delivered)
      (hc : now.daysBefore? days = some cutoff) (hold : r.deliveredBefore cutoff = true) :
      Moved i .deleted (.cleanup days now) (some r) none

variable {s : Store} {t t' : Table} {e e' : Event} {r : Row} {i : Int} {m : Move} {now : Instant}
  {o o' : Option Row}

-- ---------------------------------------------------------------------------
-- One event
-- ---------------------------------------------------------------------------

theorem Row.isEligible_iff : r.isEligible now = true ↔
    (r.state = .created ∨ r.state = .queued ∨ r.state = .failed) ∧
      ∀ due, r.nextRetryAt = some due → due ≤ now := by
  have hclaimable : r.state.isClaimable = true ↔
      r.state = .created ∨ r.state = .queued ∨ r.state = .failed := by
    cases r.state <;> simp [DeliveryState.isClaimable]
  rw [isEligible, Bool.and_eq_true, hclaimable]
  cases r.nextRetryAt <;> simp

theorem Table.find?_filter (hk : t.Keyed) (p : Row → Bool) :
    Table.find? ⟨t.rows.filter p⟩ i = (t.find? i).filter p := by
  cases h : t.find? i with
  | none =>
    rw [Option.filter_none]
    exact List.find?_eq_none.mpr fun r hr =>
      List.find?_eq_none.mp h r (List.mem_filter.mp hr).1
  | some r =>
    obtain ⟨hr, hid⟩ := (find?_eq_some hk).mp h
    cases hp : p r with
    | true =>
      rw [Option.filter_some_pos hp]
      exact (find?_eq_some (hk.filter p)).mpr ⟨List.mem_filter.mpr ⟨hr, hp⟩, hid⟩
    | false =>
      rw [Option.filter_some_neg (by simp [hp])]
      refine List.find?_eq_none.mpr fun r' hr' hid' => ?_
      obtain ⟨hr', hp'⟩ := List.mem_filter.mp hr'
      have h' := (find?_eq_some hk).mpr ⟨hr', by simpa using hid'⟩
      rw [h, Option.some.injEq] at h'
      rw [← h', hp] at hp'
      cases hp'

theorem moved_updateWhere {p : Row → Bool} {f : Row → Row}
    (hf : ∀ r, p r = true → (f r).id = r.id)
    (hm : ∀ r ∈ t.rows, r.id = i → p r = true → ∃ m, Moved i m e (some r) (some (f r))) :
    (t.updateWhere p f).find? i = t.find? i ∨
      ∃ m, Moved i m e (t.find? i) ((t.updateWhere p f).find? i) := by
  rw [Table.find?_updateWhere hf]
  cases h : t.find? i with
  | none => exact .inl rfl
  | some r =>
    obtain ⟨hr, hid⟩ := Table.mem_rows_of_find? h
    cases hp : p r with
    | true => exact .inr (by simpa [hp] using hm r hr hid hp)
    | false => exact .inl (by simp [hp])

theorem Event.Does.moved (h : e.Does t t') (hk : t.Keyed) (i : Int) :
    t'.find? i = t.find? i ∨ ∃ m, Moved i m e (t.find? i) (t'.find? i) := by
  cases e with
  | enqueue q now =>
    obtain ⟨_, h⟩ := h
    rw [(Table.enqueue_ok h).2.1]
    have hfind : Table.find? ⟨t.rows ++ [q.row t.nextId now]⟩ i =
        (t.find? i).or ([q.row t.nextId now].find? (·.id == i)) := List.find?_append
    rw [hfind]
    cases t.find? i with
    | some r => exact .inl rfl
    | none =>
      by_cases hi : t.nextId = i
      · subst hi
        exact .inr ⟨.enqueued, by simpa [Request.row] using Moved.enqueued⟩
      · exact .inl (by simp [Request.row, hi])
  | claim limit now =>
    obtain ⟨entries, h⟩ := h
    obtain ⟨-, rfl, hel, -⟩ := Table.claim_ok hk h
    refine moved_updateWhere (fun _ _ => rfl) fun r hr _ hp => ⟨.claimed, ?_⟩
    obtain ⟨hs, hdue⟩ := Row.isEligible_iff.mp (hel r hr (by simpa using hp))
    exact .claimed hs hdue
  | markDelivered id now =>
    obtain ⟨_, h⟩ := h
    rw [(Table.markDelivered_ok h).2]
    refine moved_updateWhere (fun _ _ => rfl) fun r _ hid hp => ⟨.delivered, ?_⟩
    obtain ⟨rfl, hs⟩ := Row.isSending_iff.mp hp
    exact hid ▸ .delivered hs
  | markFailed id text strategy now clock =>
    obtain ⟨_, h⟩ := h
    rcases Table.markFailed_ok h with ⟨-, rfl, -⟩ | ⟨r, r', hr, hs, hf, -, rfl⟩
    · exact .inl rfl
    · have hid := (Row.isSending_iff.mp hs).1
      refine moved_updateWhere (fun r₂ hp => ?_) fun r₂ hr₂ hi hp => ?_
      · rw [Row.failed_id hf, hid, (Row.isSending_iff.mp hp).1]
      · obtain ⟨hid₂, hs₂⟩ := Row.isSending_iff.mp hp
        cases List.inj_on_of_nodup_map hk.nodup hr hr₂ (hid.trans hid₂.symm)
        obtain rfl : id = i := hid₂.symm.trans hi
        rcases Row.failed_state hf with hs' | hs'
        · exact ⟨_, .failed hs₂ hf hs'⟩
        · exact ⟨_, .buried hs₂ hf hs'⟩
  | requeue ids now =>
    obtain ⟨_, h⟩ := h
    rw [Table.requeue_ok h]
    refine moved_updateWhere (fun _ _ => rfl) fun r _ hid hp => ⟨.requeued, ?_⟩
    obtain ⟨hi, hs⟩ := Row.isDeadAmong_iff.mp hp
    exact .requeued hs (hid ▸ hi)
  | release age now exclude =>
    obtain ⟨cutoff, _, hc, h⟩ := h
    rw [Table.release_ok h]
    refine moved_updateWhere (fun _ _ => rfl) fun r _ hid hp => ⟨.released, ?_⟩
    obtain ⟨hs, hold, hx⟩ := Row.isStale_iff.mp hp
    exact .released hs (hid ▸ hx) hc hold
  | cleanup days now =>
    obtain ⟨cutoff, hc, rfl⟩ := h
    rw [Table.cleanup, Table.find?_filter hk]
    cases t.find? i with
    | none => exact .inl rfl
    | some r =>
      cases hold : r.deliveredBefore cutoff with
      | false => exact .inl (by simp [hold])
      | true =>
        have hs : r.state = .delivered := by
          simp only [Row.deliveredBefore, Bool.and_eq_true, beq_iff_eq] at hold
          exact hold.1
        rw [Option.filter_some_neg (by simp [hold])]
        exact .inr ⟨_, .deleted hs hc hold⟩
  | store isUp => exact .inl (h ▸ rfl)

theorem Event.apply_moved (e : Event) (hk : s.queue.Keyed) (i : Int) :
    (e.apply s).queue.find? i = s.queue.find? i ∨
      ∃ m, Moved i m e (s.queue.find? i) ((e.apply s).queue.find? i) := by
  rcases e.apply_cases s with h | h
  · exact .inl (by rw [h])
  · exact h.moved hk i

theorem Event.apply_keyed (e : Event) (hk : s.queue.Keyed) : (e.apply s).queue.Keyed := by
  rcases e.apply_cases s with h | h
  · rwa [h]
  · exact h.keyed hk

-- ---------------------------------------------------------------------------
-- Runs
-- ---------------------------------------------------------------------------

theorem run_append (s : Store) (past rest : List Event) :
    run s (past ++ rest) = run (run s past) rest :=
  List.foldl_append

theorem run_keyed (hk : s.queue.Keyed) (events : List Event) : (run s events).queue.Keyed := by
  induction events generalizing s with
  | nil => exact hk
  | cons e rest ih => exact ih (e.apply_keyed hk)

def Stays (i : Int) (s : Store) (events : List Event) : Prop :=
  ∀ past, past <+: events → (run s past).queue.find? i = s.queue.find? i

theorem Stays.run (h : Stays i s events) : (run s events).queue.find? i = s.queue.find? i :=
  h events (List.prefix_refl events)

theorem Stays.nil (i : Int) (s : Store) : Stays i s [] := by
  intro past hp
  rw [List.prefix_nil.mp hp]
  rfl

theorem Stays.cons (he : (e.apply s).queue.find? i = s.queue.find? i)
    (h : Stays i (e.apply s) events) : Stays i s (e :: events) := by
  intro past hp
  cases past with
  | nil => rfl
  | cons first past =>
    obtain ⟨rfl, hrest⟩ := List.cons_prefix_cons.mp hp
    exact (h past hrest).trans he

theorem first_move (hk : s.queue.Keyed) (i : Int) (events : List Event) : Stays i s events ∨
    ∃ past e rest m, events = past ++ e :: rest ∧ Stays i s past ∧
      Moved i m e (s.queue.find? i) ((e.apply (run s past)).queue.find? i) := by
  induction events generalizing s with
  | nil => exact .inl (Stays.nil i s)
  | cons e rest ih =>
    rcases e.apply_moved hk i with he | ⟨m, hm⟩
    · rcases ih (e.apply_keyed hk) with h | ⟨past, e', rest, m, rfl, h, hm⟩
      · exact .inl (h.cons he)
      · rw [he] at hm
        exact .inr ⟨e :: past, e', rest, m, rfl, h.cons he, hm⟩
    · exact .inr ⟨[], e, rest, m, rfl, Stays.nil i s, hm⟩

def LastMove (i : Int) (s : Store) (events : List Event) (m : Move) (e : Event) : Prop :=
  ∃ past rest, events = past ++ e :: rest ∧
    Moved i m e ((run s past).queue.find? i) ((e.apply (run s past)).queue.find? i) ∧
    Stays i (e.apply (run s past)) rest

theorem LastMove.moved (h : LastMove i s events m e) :
    ∃ before, Moved i m e before ((run s events).queue.find? i) := by
  obtain ⟨past, rest, rfl, hm, hrest⟩ := h
  have hend : (run s (past ++ e :: rest)).queue.find? i =
      (e.apply (run s past)).queue.find? i := by
    rw [run_append]
    exact hrest.run
  exact ⟨_, hend ▸ hm⟩

theorem LastMove.cons (h : LastMove i (e.apply s) events m e') :
    LastMove i s (e :: events) m e' := by
  obtain ⟨past, rest, rfl, hm, hrest⟩ := h
  exact ⟨e :: past, rest, rfl, hm, hrest⟩

theorem last_move (hk : s.queue.Keyed) (i : Int) (events : List Event) :
    Stays i s events ∨ ∃ m e, LastMove i s events m e := by
  induction events generalizing s with
  | nil => exact .inl (Stays.nil i s)
  | cons e rest ih =>
    rcases ih (e.apply_keyed hk) with h | ⟨m, e', h⟩
    · rcases e.apply_moved hk i with he | ⟨m, hm⟩
      · exact .inl (h.cons he)
      · exact .inr ⟨m, e, [], rest, rfl, hm, h⟩
    · exact .inr ⟨m, e', h.cons⟩

-- ---------------------------------------------------------------------------
-- Moves by the state before them
-- ---------------------------------------------------------------------------

namespace Moved

theorem of_absent (h : Moved i m e none o) : m = .enqueued := by
  cases h
  rfl

theorem of_delivered (h : Moved i m e (some r) o) (hs : r.state = .delivered) :
    m = .deleted ∧ o = none ∧ ∃ days now, e = .cleanup days now := by
  cases h with
  | deleted => exact ⟨rfl, rfl, _, _, rfl⟩
  | claimed hs' => simp [hs] at hs'
  | delivered hs' => cases hs.symm.trans hs'
  | failed hs' => cases hs.symm.trans hs'
  | buried hs' => cases hs.symm.trans hs'
  | released hs' => cases hs.symm.trans hs'
  | requeued hs' => cases hs.symm.trans hs'

theorem of_dead (h : Moved i m e (some r) o) (hs : r.state = .deadLetter) :
    m = .requeued ∧ ∃ ids now, e = .requeue ids now ∧ i ∈ ids ∧ o = some (r.requeued now) := by
  cases h with
  | requeued _ hi => exact ⟨rfl, _, _, rfl, hi, rfl⟩
  | claimed hs' => simp [hs] at hs'
  | delivered hs' => cases hs.symm.trans hs'
  | failed hs' => cases hs.symm.trans hs'
  | buried hs' => cases hs.symm.trans hs'
  | released hs' => cases hs.symm.trans hs'
  | deleted hs' => cases hs.symm.trans hs'

theorem of_sending (h : Moved i m e (some r) o) (hs : r.state = .sending) :
    m = .released ∨ m = .failed ∨
      (m = .buried ∧ ∃ r', o = some r' ∧ r'.state = .deadLetter) ∨
      (m = .delivered ∧ ∃ r', o = some r' ∧ r'.state = .delivered) := by
  cases h with
  | released => exact .inl rfl
  | failed => exact .inr (.inl rfl)
  | buried _ _ hs' => exact .inr (.inr (.inl ⟨rfl, _, rfl, hs'⟩))
  | delivered => exact .inr (.inr (.inr ⟨rfl, _, rfl, rfl⟩))
  | claimed hs' => simp [hs] at hs'
  | requeued hs' => cases hs.symm.trans hs'
  | deleted hs' => cases hs.symm.trans hs'

-- ---------------------------------------------------------------------------
-- Moves by the state after them
-- ---------------------------------------------------------------------------

theorem to_sending (h : Moved i m e o (some r)) (hs : r.state = .sending) :
    m = .claimed ∧ ∃ limit, e = .claim limit r.updatedAt := by
  cases h with
  | claimed => exact ⟨rfl, _, rfl⟩
  | failed _ _ hs' => cases hs.symm.trans hs'
  | buried _ _ hs' => cases hs.symm.trans hs'
  | _ => cases hs

theorem to_failed (h : Moved i m e o (some r)) (hs : r.state = .failed) :
    m = .failed ∧ ∃ (r₀ : Row) (text : String) (strategy : Value) (now clock : Instant),
      e = .markFailed i text strategy now clock ∧
      r₀.failed text strategy now clock = .ok r := by
  cases h with
  | failed _ hf => exact ⟨rfl, _, _, _, _, _, rfl, hf⟩
  | buried _ _ hs' => cases hs.symm.trans hs'
  | _ => cases hs

end Moved

-- ---------------------------------------------------------------------------
-- Between two claims
-- ---------------------------------------------------------------------------

def Undergoes (i : Int) : List Move → Store → List Event → Prop
  | [], _, _ => True
  | m :: moves, s, events => ∃ past e rest, events = past ++ e :: rest ∧
      Moved i m e ((run s past).queue.find? i) ((e.apply (run s past)).queue.find? i) ∧
      Undergoes i moves (e.apply (run s past)) rest

/-- Whether a claim may take a row, but for the time when it is due. -/
def Claimable (o : Option Row) : Prop :=
  ∃ r, o = some r ∧ (r.state = .created ∨ r.state = .queued ∨ r.state = .failed)

section
variable (hk : s.queue.Keyed) (hend : Claimable ((run s events).queue.find? i))
include hk hend

/-- A row that no claim may take, and that one may take later on, is moved
in between. -/
theorem next_move (hn : ¬ Claimable (s.queue.find? i)) :
    ∃ m e s' rest, Moved i m e (s.queue.find? i) (s'.queue.find? i) ∧ s'.queue.Keyed ∧
      Claimable ((run s' rest).queue.find? i) ∧
      ∀ moves, Undergoes i moves s' rest → Undergoes i (m :: moves) s events := by
  rcases first_move hk i events with h | ⟨past, e, rest, m, rfl, h, hm⟩
  · rw [h.run] at hend
    exact absurd hend hn
  · rw [run_append] at hend
    refine ⟨m, e, _, rest, hm, e.apply_keyed (run_keyed hk past), hend, fun moves hu => ?_⟩
    exact ⟨past, e, rest, rfl, by rwa [h.run], hu⟩

theorem enqueued_of_absent (h : s.queue.find? i = none) : Undergoes i [.enqueued] s events := by
  obtain ⟨m, e, s', rest, hm, -, -, hu⟩ := next_move hk hend (by simp [h, Claimable])
  rw [h] at hm
  obtain rfl := hm.of_absent
  exact hu [] trivial

theorem deleted_of_delivered (h : s.queue.find? i = some r) (hs : r.state = .delivered) :
    Undergoes i [.deleted, .enqueued] s events := by
  obtain ⟨m, e, s', rest, hm, hk', hend', hu⟩ := next_move hk hend (by simp [h, Claimable, hs])
  rw [h] at hm
  obtain ⟨rfl, hnone, -⟩ := hm.of_delivered hs
  exact hu _ (enqueued_of_absent hk' hend' hnone)

theorem requeued_of_dead (h : s.queue.find? i = some r) (hs : r.state = .deadLetter) :
    Undergoes i [.requeued] s events := by
  obtain ⟨m, e, s', rest, hm, -, -, hu⟩ := next_move hk hend (by simp [h, Claimable, hs])
  rw [h] at hm
  obtain ⟨rfl, -⟩ := hm.of_dead hs
  exact hu [] trivial

/-- There are four ways from `sending` back to where a claim may take the
row. -/
theorem ways_of_sending (h : s.queue.find? i = some r) (hs : r.state = .sending) :
    Undergoes i [.released] s events ∨ Undergoes i [.failed] s events ∨
      Undergoes i [.buried, .requeued] s events ∨
      Undergoes i [.delivered, .deleted, .enqueued] s events := by
  obtain ⟨m, e, s', rest, hm, hk', hend', hu⟩ := next_move hk hend (by simp [h, Claimable, hs])
  rw [h] at hm
  rcases hm.of_sending hs with rfl | rfl | ⟨rfl, r', h', hs'⟩ | ⟨rfl, r', h', hs'⟩
  · exact .inl (hu [] trivial)
  · exact .inr (.inl (hu [] trivial))
  · exact .inr (.inr (.inl (hu _ (requeued_of_dead hk' hend' h' hs'))))
  · exact .inr (.inr (.inr (hu _ (deleted_of_delivered hk' hend' h' hs'))))

end

def Event.taken (s : Store) : Event → List Int
  | .claim limit now => match Store.claim limit now s with
    | .ok entries _ => entries.map (·.id)
    | .error _ _ => []
  | _ => []

theorem Event.taken_moved (hk : s.queue.Keyed) (hi : i ∈ e.taken s) :
    Claimable (s.queue.find? i) ∧
      ∃ r, (e.apply s).queue.find? i = some r ∧ r.state = .sending := by
  cases e with
  | claim limit now =>
    simp only [taken] at hi
    rcases claim_cases limit now s with ⟨fault, he⟩ | he | ⟨entries, q, hq, he⟩ <;>
      rw [he] at hi
    · cases hi
    · cases hi
    · have hafter : (Event.apply (.claim limit now) s).queue = q :=
        congrArg Store.queue (after_ok (discard_ok he))
      have hk' := (Table.claim_moves hk hq).keyed hk
      obtain ⟨-, -, hel, hrows⟩ := Table.claim_ok hk hq
      obtain ⟨x, hx, hid⟩ := List.mem_map.mp hi
      obtain ⟨r, hr, rfl⟩ := hrows x hx
      have hid : r.id = i := hid
      have hstate := (Row.isEligible_iff.mp (hel r hr (hid ▸ hi))).1
      refine ⟨⟨r, (Table.find?_eq_some hk).mpr ⟨hr, hid⟩, hstate⟩, ?_⟩
      rw [hafter]
      exact (Table.sends_iff_find? hk').mp ((Table.claim_sends hk hq).mpr (.inr hi))
  | _ => cases hi

/-- In a run on any table, every event moves the row of an id along an arrow
of the state machine or leaves it as it is. So a delivered row stays until
it is deleted and a dead letter until it is requeued; and between two claims
that give the same id its row was released, or failed, or dead and requeued,
or delivered and deleted and its id given to a new row. -/
theorem rows_keep_to_moves (s : Store) (hk : s.queue.Keyed) (events : List Event) (i : Int) :
    (∀ past e rest, events = past ++ e :: rest →
      (run s (past ++ [e])).queue.find? i = (run s past).queue.find? i ∨
        ∃ m, Moved i m e ((run s past).queue.find? i) ((run s (past ++ [e])).queue.find? i)) ∧
    (∀ past rest r, events = past ++ rest → (run s past).queue.find? i = some r →
      (r.state = .delivered → Stays i (run s past) rest ∨
        ∃ before days now later, rest = before ++ .cleanup days now :: later ∧
          Stays i (run s past) before ∧
          (run s (past ++ before ++ [.cleanup days now])).queue.find? i = none) ∧
      (r.state = .deadLetter → Stays i (run s past) rest ∨
        ∃ before ids now later, rest = before ++ .requeue ids now :: later ∧
          Stays i (run s past) before ∧ i ∈ ids ∧
          (run s (past ++ before ++ [.requeue ids now])).queue.find? i =
            some (r.requeued now))) ∧
    (∀ past first between second rest, events = past ++ first :: between ++ second :: rest →
      i ∈ first.taken (run s past) → i ∈ second.taken (run s (past ++ first :: between)) →
      let s' := run s (past ++ [first])
      Undergoes i [.released] s' between ∨ Undergoes i [.failed] s' between ∨
        Undergoes i [.buried, .requeued] s' between ∨
        Undergoes i [.delivered, .deleted, .enqueued] s' between) := by
  refine ⟨?_, ?_, ?_⟩
  · rintro past e rest -
    rw [run_append]
    exact e.apply_moved (run_keyed hk past) i
  · rintro past rest r - hr
    have hfirst := first_move (run_keyed hk past) i rest
    rw [hr] at hfirst
    refine ⟨fun hs => ?_, fun hs => ?_⟩
    · rcases hfirst with h | ⟨before, e, later, m, rfl, h, hm⟩
      · exact .inl h
      · obtain ⟨-, hnone, days, now, rfl⟩ := hm.of_delivered hs
        refine .inr ⟨before, days, now, later, rfl, h, ?_⟩
        rw [run_append, run_append]
        exact hnone
    · rcases hfirst with h | ⟨before, e, later, m, rfl, h, hm⟩
      · exact .inl h
      · obtain ⟨-, ids, now, rfl, hi, hsome⟩ := hm.of_dead hs
        refine .inr ⟨before, ids, now, later, rfl, h, hi, ?_⟩
        rw [run_append, run_append]
        exact hsome
  · rintro past first between second rest - hfirst hsecond
    have hk₁ := run_keyed hk past
    have hafter : run s (past ++ first :: between) = run (first.apply (run s past)) between :=
      run_append s past (first :: between)
    rw [hafter] at hsecond
    obtain ⟨-, r, hr, hs⟩ := Event.taken_moved hk₁ hfirst
    have hk₂ := first.apply_keyed hk₁
    have hend := (Event.taken_moved (run_keyed hk₂ between) hsecond).1
    simp only [run_append]
    exact ways_of_sending hk₂ hend hr hs

def idGivenAgain : List Event := [
  .enqueue { channel := "email" } .first, .claim 1 .first,
  .markDelivered 1 .first, .cleanup 0 ⟨1, Instant.one_lt_limit⟩,
  .enqueue { channel := "slack" } ⟨1, Instant.one_lt_limit⟩, .claim 1 ⟨1, Instant.one_lt_limit⟩]

theorem rows_keep_to_moves_idGivenAgain :
    let s : Store := run {} (idGivenAgain.take 2)
    let between := (idGivenAgain.drop 2).take 3
    Undergoes 1 [.released] s between ∨ Undergoes 1 [.failed] s between ∨
      Undergoes 1 [.buried, .requeued] s between ∨
      Undergoes 1 [.delivered, .deleted, .enqueued] s between := by
  have hfirst : Event.taken (run {} (idGivenAgain.take 1)) (.claim 1 ⟨0, by decide⟩) = [1] := by
    decide +kernel
  have hsecond : Event.taken (run {} (idGivenAgain.take 5)) (.claim 1 ⟨1, by decide⟩) = [1] := by
    decide +kernel
  exact (rows_keep_to_moves {} List.Pairwise.nil idGivenAgain 1).2.2
    (idGivenAgain.take 1) (.claim 1 ⟨0, by decide⟩) ((idGivenAgain.drop 2).take 3)
    (.claim 1 ⟨1, by decide⟩) [] rfl (hfirst ▸ List.mem_singleton_self 1)
    (hsecond ▸ List.mem_singleton_self 1)

end AlertDelivery.Queue
