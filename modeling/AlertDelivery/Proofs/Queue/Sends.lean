import AlertDelivery.Proofs.Queue.Delays
import AlertDelivery.Proofs.Queue.TableLaws

/-!
# Rows that are being sent

Whether the row of an id is `sending`, and what each operation does to
that. Only a claim makes a row `sending`; an outcome, or a sweep that does
not exclude its id, takes it out again. A row that is `sending` takes every
outcome, but for a failure so late that its next retry has no date.
-/

namespace AlertDelivery.Queue

def Table.Sends (t : Table) (i : Int) : Prop := ∃ r ∈ t.rows, Row.isSending i r = true

variable {t t' : Table} {r r' : Row} {q : Request} {i j limit : Int} {now clock cutoff : Instant}
  {ids exclude : List Int} {entries : List Entry} {text : String} {strategy : Value}

namespace Table

theorem any_isSending : t.rows.any (Row.isSending i) = true ↔ t.Sends i := List.any_eq_true

theorem any_isSending_false : t.rows.any (Row.isSending i) = false ↔ ¬ t.Sends i := by
  rw [← any_isSending, Bool.not_eq_true]

theorem sends_iff_find? (h : t.Keyed) :
    t.Sends i ↔ ∃ r, t.find? i = some r ∧ r.state = .sending := by
  simp only [find?_eq_some h, Sends, Row.isSending_iff, and_assoc]

theorem sends_of_updateWhere {p : Row → Bool} {f : Row → Row}
    (hf : ∀ r, p r = true → (f r).state ≠ .sending) (h : (t.updateWhere p f).Sends i) :
    t.Sends i := by
  obtain ⟨r', hr', hs⟩ := h
  obtain ⟨r, hr, ⟨hp, rfl⟩ | ⟨-, rfl⟩⟩ := mem_updateWhere.mp hr'
  · exact absurd (Row.isSending_iff.mp hs).2 (hf r hp)
  · exact ⟨r, hr, hs⟩

theorem not_sends_updateWhere {f : Row → Row}
    (hf : ∀ r, Row.isSending i r = true → (f r).state ≠ .sending) :
    ¬ (t.updateWhere (Row.isSending i) f).Sends i := by
  rintro ⟨r', hr', hs⟩
  obtain ⟨r, -, ⟨hp, rfl⟩ | ⟨hp, rfl⟩⟩ := mem_updateWhere.mp hr'
  · exact hf r hp (Row.isSending_iff.mp hs).2
  · exact Bool.false_ne_true (hp.symm.trans hs)

/-- After a claim the rows that are `sending` are those that were and those
that it gave. -/
theorem claim_sends (hk : t.Keyed) (h : t.claim limit now = .ok (entries, t')) :
    t'.Sends i ↔ t.Sends i ∨ i ∈ entries.map (·.id) := by
  obtain ⟨-, rfl, -, hrows⟩ := claim_ok hk h
  constructor
  · rintro ⟨r', hr', hs⟩
    obtain ⟨r, hr, ⟨hp, rfl⟩ | ⟨-, rfl⟩⟩ := mem_updateWhere.mp hr'
    · exact .inr ((Row.isSending_iff.mp hs).1 ▸ List.contains_iff_mem.mp hp)
    · exact .inl ⟨r, hr, hs⟩
  · have key (r : Row) (hr : r ∈ t.rows) (hid : r.id = i)
        (hs : r.state = .sending ∨ i ∈ entries.map (·.id)) : (t.updateWhere
          (fun r => (entries.map (·.id)).contains r.id) (Row.claimed now)).Sends i := by
      cases hp : (entries.map (·.id)).contains r.id with
      | true =>
        exact ⟨_, mem_updateWhere.mpr ⟨r, hr, .inl ⟨hp, rfl⟩⟩, Row.isSending_iff.mpr ⟨hid, rfl⟩⟩
      | false =>
        have hn : i ∉ entries.map (·.id) := by
          rw [← hid, ← List.contains_iff_mem, hp]
          exact Bool.false_ne_true
        exact ⟨r, mem_updateWhere.mpr ⟨r, hr, .inr ⟨hp, rfl⟩⟩,
          Row.isSending_iff.mpr ⟨hid, hs.resolve_right hn⟩⟩
    rintro (⟨r, hr, hs⟩ | hm)
    · obtain ⟨hid, hs⟩ := Row.isSending_iff.mp hs
      exact key r hr hid (.inl hs)
    · obtain ⟨e, he, hid⟩ := List.mem_map.mp hm
      obtain ⟨r, hr, rfl⟩ := hrows e he
      exact key r hr hid (.inr hm)

theorem sends_updateWhere {p : Row → Bool} {f : Row → Row}
    (hp : ∀ r, r.id = i → r.state = .sending → p r = false) (h : t.Sends i) :
    (t.updateWhere p f).Sends i := by
  obtain ⟨r, hr, hs⟩ := h
  obtain ⟨hid, hst⟩ := Row.isSending_iff.mp hs
  exact ⟨r, mem_updateWhere.mpr ⟨r, hr, .inr ⟨hp r hid hst, rfl⟩⟩, hs⟩

theorem claim_fresh (hk : t.Keyed) (h : t.claim limit now = .ok (entries, t'))
    (hi : i ∈ entries.map (·.id)) : ¬ t.Sends i := by
  obtain ⟨-, -, hel, -⟩ := claim_ok hk h
  rintro ⟨r, hr, hs⟩
  obtain ⟨hid, hst⟩ := Row.isSending_iff.mp hs
  exact (Row.isEligible_ne (hel r hr (hid ▸ hi))).1 hst

theorem enqueue_sends (h : t.enqueue q now = .ok (j, t')) (hs : t.Sends i) : t'.Sends i := by
  obtain ⟨r, hr, hs⟩ := hs
  rw [(enqueue_ok h).2.1]
  exact ⟨r, List.mem_append_left _ hr, hs⟩

theorem requeue_sends (h : t.requeue ids now = .ok (n, t')) (hs : t.Sends i) : t'.Sends i := by
  rw [requeue_ok h]
  refine sends_updateWhere (fun r _ hst => ?_) hs
  simp [Row.isDeadAmong, hst]

theorem release_sends (h : t.release cutoff now exclude = .ok (n, t')) (hi : i ∈ exclude)
    (hs : t.Sends i) : t'.Sends i := by
  rw [release_ok h]
  refine sends_updateWhere (fun r hid _ => ?_) hs
  simp [Row.isStale, hid, hi]

theorem cleanup_sends (cutoff : Instant) (hs : t.Sends i) : (t.cleanup cutoff).2.Sends i := by
  obtain ⟨r, hr, hs⟩ := hs
  refine ⟨r, List.mem_filter.mpr ⟨hr, ?_⟩, hs⟩
  simp [Row.deliveredBefore, (Row.isSending_iff.mp hs).2]

theorem markDelivered_sends (h : t.markDelivered j now = .ok (b, t')) (hij : i ≠ j)
    (hs : t.Sends i) : t'.Sends i := by
  rw [(markDelivered_ok h).2]
  refine sends_updateWhere (fun r hid _ => ?_) hs
  simp [Row.isSending, hid, hij]

theorem markFailed_sends (h : t.markFailed j text strategy now clock = .ok (out, t'))
    (hij : i ≠ j) (hs : t.Sends i) : t'.Sends i := by
  rcases markFailed_ok h with ⟨-, rfl, -⟩ | ⟨r, r', -, -, -, -, rfl⟩
  · exact hs
  · refine sends_updateWhere (fun r hid _ => ?_) hs
    simp [Row.isSending, hid, hij]

end Table

-- ---------------------------------------------------------------------------
-- Outcomes of a row that is being sent
-- ---------------------------------------------------------------------------

/-- Whether a failure leaves a retry, which would be due after the last
year. -/
def Row.Overflows (r : Row) (b : Backoff) (now : Instant) : Prop :=
  r.retryCount + 1 < r.maxRetries ∧ b.nextRetry? (r.retryCount + 1) now = none

theorem Row.failed_cases (r : Row) (text : String) (b : Backoff) (now clock : Instant) :
    (r.Overflows b now ∧ r.failed text (.text b.name) now clock = .error Fault.dateOverflow) ∨
      (¬ r.Overflows b now ∧ ∃ r', r.failed text (.text b.name) now clock = .ok r') := by
  rw [failed_eq, Backoff.read_name, ok_bind]
  unfold Overflows
  split
  · refine .inr ⟨fun h => ?_, _, rfl⟩
    have := h.1
    omega
  · have hlt : r.retryCount + 1 < r.maxRetries := by omega
    cases b.nextRetry? (r.retryCount + 1) now with
    | none => exact .inl ⟨⟨hlt, rfl⟩, rfl⟩
    | some due => exact .inr ⟨fun h => (Option.some_ne_none due h.2).elim, _, rfl⟩

theorem Row.not_overflows {b : Backoff} (h : r.failed text (.text b.name) now clock = .ok r') :
    ¬ r.Overflows b now := by
  rcases r.failed_cases text b now clock with ⟨-, he⟩ | ⟨hn, -⟩
  · rw [he] at h
    cases h
  · exact hn

namespace Table

theorem find?_isSending (hk : t.Keyed) (hf : t.find? i = some r) (hs : r.state = .sending) :
    t.rows.find? (Row.isSending i) = some r := by
  obtain ⟨hr, hid⟩ := (find?_eq_some hk).mp hf
  cases h : t.rows.find? (Row.isSending i) with
  | none => exact absurd (Row.isSending_iff.mpr ⟨hid, hs⟩) (List.find?_eq_none.mp h r hr)
  | some r₂ =>
    have h₂ := (find?_eq_some hk).mpr
      ⟨List.mem_of_find?_eq_some h, (Row.isSending_iff.mp (List.find?_some h)).1⟩
    exact h₂.symm.trans hf

theorem find?_updateWhere_isSending {f : Row → Row} (hf : t.find? i = some r)
    (hs : r.state = .sending) (hid : ∀ r, Row.isSending i r = true → (f r).id = r.id) :
    (t.updateWhere (Row.isSending i) f).find? i = some (f r) := by
  rw [find?_updateWhere hid, hf, Option.map_some,
    if_pos (Row.isSending_iff.mpr ⟨(mem_rows_of_find? hf).2, hs⟩)]

theorem markDelivered_sending (hs : t.Sends i) (hid : isStorable i = true) (now : Instant) :
    t.markDelivered i now =
      .ok (true, t.updateWhere (Row.isSending i) (Row.delivered now)) := by
  have hst : storable [i] = .ok () := storable_of_forall (by simpa using hid)
  simp only [markDelivered, hst, any_isSending.mpr hs]
  rfl

theorem markFailed_sending (hk : t.Keyed) (hf : t.find? i = some r) (hs : r.state = .sending)
    (hid : isStorable i = true) (text : String) (strategy : Value) (now clock : Instant) :
    t.markFailed i text strategy now clock = (r.failed text strategy now clock).map fun r' =>
      (some r'.toEntry, t.updateWhere (Row.isSending i) fun _ => r') := by
  have hst : storable [i] = .ok () := storable_of_forall (by simpa using hid)
  simp only [markFailed, hst, find?_isSending hk hf hs]
  cases r.failed text strategy now clock <;> rfl

end Table

end AlertDelivery.Queue
