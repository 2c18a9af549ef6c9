import AlertDelivery.Proofs.ExceptLaws
import AlertDelivery.Queue.Table
import Mathlib.Data.List.Nodup

/-!
# Laws of the queue table

`Keyed`: the rows stand in the order of their ids, so an id names one row.
Each operation that succeeds is read as what it does to the row of an id;
`Row.Change` lists every way in which one operation changes one row, with
what has to hold of the row before.
-/

namespace AlertDelivery.Queue

theorem eraseDups_nodup {α : Type} [BEq α] [LawfulBEq α] (xs : List α) : xs.eraseDups.Nodup := by
  cases xs with
  | nil => exact List.nodup_nil
  | cons x rest =>
    rw [List.eraseDups_cons]
    refine List.nodup_cons.mpr ⟨fun hmem => ?_, eraseDups_nodup _⟩
    simpa using (List.mem_filter.mp (List.mem_eraseDups.mp hmem)).2
termination_by xs.length
decreasing_by exact Nat.lt_succ_of_le (List.length_filter_le _ rest)

theorem storable_ok : storable ints = .ok u ↔ ∀ i ∈ ints, isStorable i = true := by
  unfold storable
  split <;> simp_all

theorem storable_of_forall (h : ∀ i ∈ ints, isStorable i = true) : storable ints = .ok () :=
  storable_ok.mpr h

theorem nameable_ok : nameable operation own ids = .ok u ↔
    own + ids.length ≤ maxVariables ∧ ∀ i ∈ ids, isStorable i = true := by
  unfold nameable
  split
  · next hfew => rw [storable_ok, and_iff_right hfew]
  · next hmany => exact ⟨nofun, fun h => absurd h.1 hmany⟩

/-- One change of a stored row, with what the row must be for it. -/
inductive Row.Change : Row → Row → Prop
  | claim {r : Row} {now : Instant} (h : r.isEligible now = true) : Change r (r.claimed now)
  | deliver {r : Row} (now : Instant) (h : r.state = .sending) : Change r (r.delivered now)
  | fail {r r' : Row} {text : String} {strategy : Value} {now clock : Instant}
      (h : r.state = .sending) (hf : r.failed text strategy now clock = .ok r') : Change r r'
  | release {r : Row} (now : Instant) (h : r.state = .sending) : Change r (r.released now)
  | requeue {r : Row} (now : Instant) (h : r.state = .deadLetter) : Change r (r.requeued now)

variable {t t' : Table} {r r' : Row} {i : Int} {now clock cutoff : Instant} {ids exclude : List Int}
  {text : String} {strategy : Value}

-- ---------------------------------------------------------------------------
-- One row
-- ---------------------------------------------------------------------------

namespace Row

theorem isSending_iff : isSending i r = true ↔ r.id = i ∧ r.state = .sending := by
  simp [isSending]

theorem isStale_iff : isStale cutoff exclude r = true ↔
    r.state = .sending ∧ r.updatedAt < cutoff ∧ r.id ∉ exclude := by
  simp [isStale, and_assoc]

theorem isDeadAmong_iff : isDeadAmong ids r = true ↔ r.id ∈ ids ∧ r.state = .deadLetter := by
  simp [isDeadAmong]

theorem isEligible_state (h : isEligible now r = true) : r.state.isClaimable = true := by
  simp only [isEligible, Bool.and_eq_true] at h
  exact h.1

theorem isEligible_ne (h : isEligible now r = true) :
    r.state ≠ .sending ∧ r.state ≠ .delivered ∧ r.state ≠ .deadLetter := by
  have hc := isEligible_state h
  cases hs : r.state <;> simp [hs, DeliveryState.isClaimable] at hc ⊢

theorem failed_eq (r : Row) (text : String) (strategy : Value) (now clock : Instant) :
    r.failed text strategy now clock =
      if r.maxRetries ≤ r.retryCount + 1 then .ok ((r.spent text now clock).buried now)
      else (do
        let backoff ← Backoff.read strategy
        match backoff.nextRetry? (r.retryCount + 1) now with
        | some due => pure ((r.spent text now clock).postponed due)
        | none => .error Fault.dateOverflow) := by
  have hm : (r.spent text now clock).maxRetries ≤ (r.spent text now clock).retryCount ↔
      r.maxRetries ≤ r.retryCount + 1 := by
    simp only [spent]
    omega
  by_cases hle : r.maxRetries ≤ r.retryCount + 1
  · rw [if_pos hle]
    exact if_pos (hm.mpr hle)
  · rw [if_neg hle]
    have hc : (r.spent text now clock).retryCount = r.retryCount + 1 := by
      simp only [spent]
      omega
    rw [← hc]
    exact if_neg (mt hm.mp hle)

theorem failed_ok (h : r.failed text strategy now clock = .ok r') :
    (r.maxRetries ≤ r.retryCount + 1 ∧ r' = (r.spent text now clock).buried now) ∨
      (r.retryCount + 1 < r.maxRetries ∧ ∃ backoff due, Backoff.read strategy = .ok backoff ∧
        backoff.nextRetry? (r.retryCount + 1) now = some due ∧
        r' = (r.spent text now clock).postponed due) := by
  rw [failed_eq] at h
  split at h
  · cases h
    exact .inl ⟨‹_›, rfl⟩
  · obtain ⟨backoff, hb, h⟩ := bind_ok.mp h
    split at h
    · rename_i due hdue
      exact .inr ⟨by omega, backoff, due, hb, hdue, (pure_ok.mp h).symm⟩
    · cases h

theorem failed_id (h : r.failed text strategy now clock = .ok r') : r'.id = r.id := by
  rcases failed_ok h with ⟨-, rfl⟩ | ⟨-, _, _, -, -, rfl⟩ <;> rfl

theorem failed_state (h : r.failed text strategy now clock = .ok r') :
    r'.state = .failed ∨ r'.state = .deadLetter := by
  rcases failed_ok h with ⟨-, rfl⟩ | ⟨-, _, _, -, -, rfl⟩
  · exact .inr rfl
  · exact .inl rfl

/-- The cap on the counter takes nothing from a row with retries left. -/
theorem failed_retryCount (h : r.failed text strategy now clock = .ok r')
    (hleft : r.retryCount < r.maxRetries) : r'.retryCount = r.retryCount + 1 := by
  rcases failed_ok h with ⟨-, rfl⟩ | ⟨-, _, _, -, -, rfl⟩
  · simp only [buried, spent]
    omega
  · simp only [postponed, spent]
    omega

theorem Change.id_eq (h : Change r r') : r'.id = r.id := by
  cases h with
  | fail _ hf => exact failed_id hf
  | _ => rfl

theorem Change.user_eq (h : Change r r') : r'.user = r.user := by
  cases h with
  | fail _ hf => rcases failed_ok hf with ⟨-, rfl⟩ | ⟨-, _, _, -, -, rfl⟩ <;> rfl
  | _ => rfl

def Storable (r : Row) : Prop := ∀ i ∈ r.id :: r.user.toList, isStorable i = true

theorem Change.storable (h : Change r r') (hs : r.Storable) : r'.Storable := by
  unfold Storable
  rw [h.id_eq, h.user_eq]
  exact hs

end Row

-- ---------------------------------------------------------------------------
-- Rows by their ids
-- ---------------------------------------------------------------------------

namespace Table

/-- The rows stand in the order of their ids, so an id names one row. -/
def Keyed (t : Table) : Prop := t.rows.Pairwise (·.id < ·.id)

theorem Keyed.nodup (h : t.Keyed) : (t.rows.map (·.id)).Nodup :=
  List.pairwise_map.mpr (h.imp fun hlt => by omega)

theorem find?_eq_some (h : t.Keyed) : t.find? i = some r ↔ r ∈ t.rows ∧ r.id = i := by
  constructor
  · intro hf
    exact ⟨List.mem_of_find?_eq_some hf, by simpa using List.find?_some hf⟩
  · rintro ⟨hr, rfl⟩
    cases hf : t.find? r.id with
    | none =>
      have := List.find?_eq_none.mp hf r hr
      simp at this
    | some r' =>
      have hid : r'.id = r.id := by simpa using List.find?_some hf
      exact congrArg some (List.inj_on_of_nodup_map h.nodup (List.mem_of_find?_eq_some hf) hr hid)

theorem mem_rows_of_find? (h : t.find? i = some r) : r ∈ t.rows ∧ r.id = i :=
  ⟨List.mem_of_find?_eq_some h, by simpa using List.find?_some h⟩

theorem mem_updateWhere {f : Row → Row} {p : Row → Bool} : r' ∈ (t.updateWhere p f).rows ↔
    ∃ r ∈ t.rows, (p r = true ∧ f r = r') ∨ (p r = false ∧ r = r') := by
  simp only [updateWhere, List.mem_map]
  refine exists_congr fun r => and_congr_right fun _ => ?_
  cases p r <;> simp

theorem updateWhere_none {f : Row → Row} {p : Row → Bool} (h : ∀ r ∈ t.rows, p r = false) :
    t.updateWhere p f = t := by
  have hid : t.rows.map (fun r => if p r = true then f r else r) = t.rows.map id :=
    List.map_congr_left fun r hr => by simp [h r hr]
  rw [updateWhere, hid, List.map_id]

section
variable {f : Row → Row} {p : Row → Bool} (hf : ∀ r, p r = true → (f r).id = r.id)
include hf

theorem find?_updateWhere (t : Table) (i : Int) :
    (t.updateWhere p f).find? i = (t.find? i).map fun r => if p r then f r else r := by
  have hid : ∀ r, (if p r = true then f r else r).id = r.id := by
    intro r
    split
    · exact hf r ‹_›
    · rfl
  simp only [find?, updateWhere, List.find?_map, Function.comp_def, hid]

theorem find?_updateWhere_ne (hi : ∀ r, p r = true → r.id ≠ i) :
    (t.updateWhere p f).find? i = t.find? i := by
  rw [find?_updateWhere hf]
  cases hr : t.find? i with
  | none => rfl
  | some r =>
    have hn : ¬ p r = true := fun hp => hi r hp (by simpa using List.find?_some hr)
    rw [Option.map_some, if_neg hn]

end

def Moves (t t' : Table) : Prop :=
  ∃ f : Row → Row, t'.rows = t.rows.map f ∧ ∀ r ∈ t.rows, f r = r ∨ Row.Change r (f r)

theorem Moves.id_eq {f : Row → Row} (h : ∀ r ∈ t.rows, f r = r ∨ Row.Change r (f r))
    (hr : r ∈ t.rows) : (f r).id = r.id := by
  rcases h r hr with he | hc
  · rw [he]
  · exact hc.id_eq

theorem Moves.keyed (h : t.Moves t') (hk : t.Keyed) : t'.Keyed := by
  obtain ⟨f, hf, hc⟩ := h
  unfold Keyed
  rw [hf, List.pairwise_map]
  refine List.Pairwise.imp_of_mem ?_ hk
  intro a b ha hb hlt
  rw [Moves.id_eq hc ha, Moves.id_eq hc hb]
  exact hlt

theorem Moves.mem (h : t.Moves t') (hr : r' ∈ t'.rows) :
    r' ∈ t.rows ∨ ∃ r ∈ t.rows, Row.Change r r' := by
  obtain ⟨f, hf, hc⟩ := h
  rw [hf] at hr
  obtain ⟨r, hm, rfl⟩ := List.mem_map.mp hr
  rcases hc r hm with he | hch
  · exact .inl (by rwa [he])
  · exact .inr ⟨r, hm, hch⟩

theorem Moves.forall {p : Row → Prop} (h : t.Moves t')
    (hp : ∀ r r', Row.Change r r' → p r → p r') (ht : ∀ r ∈ t.rows, p r) : ∀ r ∈ t'.rows, p r := by
  intro r' hr'
  rcases h.mem hr' with hr | ⟨r, hr, hc⟩
  · exact ht r' hr
  · exact hp r r' hc (ht r hr)

theorem Moves.refl (t : Table) : t.Moves t :=
  ⟨id, (List.map_id _).symm, fun _ _ => .inl rfl⟩

theorem moves_updateWhere {f : Row → Row} {p : Row → Bool}
    (h : ∀ r ∈ t.rows, p r = true → Row.Change r (f r)) : t.Moves (t.updateWhere p f) := by
  refine ⟨fun r => if p r then f r else r, rfl, ?_⟩
  intro r hr
  cases hp : p r with
  | true => exact .inr (by simpa [hp] using h r hr hp)
  | false => exact .inl (by simp [hp])

theorem Keyed.filter (h : t.Keyed) (p : Row → Bool) : Keyed ⟨t.rows.filter p⟩ :=
  List.Pairwise.filter p h

theorem le_foldl_max (l : List Int) (a : Int) :
    a ≤ l.foldl max a ∧ ∀ x ∈ l, x ≤ l.foldl max a := by
  induction l generalizing a with
  | nil => simp
  | cons y l ih =>
    obtain ⟨h, hall⟩ := ih (max a y)
    simp only [List.foldl_cons, List.mem_cons, forall_eq_or_imp]
    exact ⟨by omega, by omega, hall⟩

theorem id_lt_nextId (h : r ∈ t.rows) : r.id < t.nextId := by
  have := (le_foldl_max (t.rows.map (·.id)) 0).2 r.id (List.mem_map_of_mem h)
  unfold nextId
  omega

-- ---------------------------------------------------------------------------
-- The operations
-- ---------------------------------------------------------------------------

theorem enqueue_ok (h : t.enqueue q now = .ok (i, t')) :
    i = t.nextId ∧ t' = ⟨t.rows ++ [q.row t.nextId now]⟩ ∧
      isStorable t.nextId = true ∧ ∀ user ∈ q.user, isStorable user = true := by
  simp only [enqueue, bind_ok, pure_ok, Prod.mk.injEq] at h
  obtain ⟨_, hs, rfl, rfl⟩ := h
  have hs := storable_ok.mp hs
  exact ⟨rfl, rfl, hs _ (by simp), fun user hu => hs _ (by simp [Option.mem_def.mp hu])⟩

theorem Keyed.append (h : t.Keyed) (hid : r.id = t.nextId) : Keyed ⟨t.rows ++ [r]⟩ := by
  refine List.pairwise_append.mpr ⟨h, List.pairwise_singleton _ _, ?_⟩
  intro a ha b hb
  rw [List.mem_singleton.mp hb, hid]
  exact id_lt_nextId ha

theorem claim_ok (hk : t.Keyed) (h : t.claim limit now = .ok (entries, t')) :
    (entries.map (·.id)).Nodup ∧
      t' = t.updateWhere (fun r => (entries.map (·.id)).contains r.id) (Row.claimed now) ∧
      (∀ r ∈ t.rows, r.id ∈ entries.map (·.id) → r.isEligible now = true) ∧
      ∀ e ∈ entries, ∃ r ∈ t.rows, e = (r.claimed now).toEntry := by
  simp only [claim, bind_ok, pure_ok, Prod.mk.injEq] at h
  obtain ⟨_, _, rfl, rfl⟩ := h
  let taken := (t.eligible now).take limit.toNat
  have hids : (taken.map fun r => (r.claimed now).toEntry).map (·.id) = taken.map (·.id) := by
    simp only [List.map_map]
    rfl
  have htaken : ∀ r ∈ taken, r ∈ t.rows ∧ r.isEligible now = true := fun r hr =>
    List.mem_filter.mp (List.mem_mergeSort.mp (List.mem_of_mem_take hr))
  have hnodup : (taken.map (·.id)).Nodup := by
    have hf : ((t.rows.filter (Row.isEligible now)).map (·.id)).Nodup :=
      hk.nodup.sublist (List.filter_sublist.map _)
    have hs := ((List.mergeSort_perm (t.rows.filter (Row.isEligible now))
      Row.claimedBefore).map (·.id)).nodup_iff.mpr hf
    exact hs.sublist ((List.take_sublist _ _).map _)
  refine ⟨hids ▸ hnodup, by rw [hids], ?_, ?_⟩
  · intro r hr hin
    rw [hids] at hin
    obtain ⟨r', hr', hid⟩ := List.mem_map.mp hin
    rw [← List.inj_on_of_nodup_map hk.nodup (htaken r' hr').1 hr hid]
    exact (htaken r' hr').2
  · intro e he
    obtain ⟨r, hr, rfl⟩ := List.mem_map.mp he
    exact ⟨r, (htaken r hr).1, rfl⟩

theorem markDelivered_ok (h : t.markDelivered i now = .ok (b, t')) :
    b = t.rows.any (Row.isSending i) ∧
      t' = t.updateWhere (Row.isSending i) (Row.delivered now) := by
  simp only [markDelivered, bind_ok, pure_ok, Prod.mk.injEq] at h
  obtain ⟨_, _, rfl, rfl⟩ := h
  exact ⟨rfl, rfl⟩

theorem markFailed_ok (h : t.markFailed i text strategy now clock = .ok (out, t')) :
    (out = none ∧ t' = t ∧ ∀ r ∈ t.rows, Row.isSending i r = false) ∨
      ∃ r r', r ∈ t.rows ∧ Row.isSending i r = true ∧
        r.failed text strategy now clock = .ok r' ∧ out = some r'.toEntry ∧
        t' = t.updateWhere (Row.isSending i) fun _ => r' := by
  simp only [markFailed, bind_ok] at h
  obtain ⟨_, _, h⟩ := h
  split at h
  · rename_i hn
    simp only [pure_ok, Prod.mk.injEq] at h
    obtain ⟨rfl, rfl⟩ := h
    exact .inl ⟨rfl, rfl, fun r hr => by simpa using List.find?_eq_none.mp hn r hr⟩
  · rename_i r hr
    simp only [bind_ok, pure_ok, Prod.mk.injEq] at h
    obtain ⟨r', hf, rfl, rfl⟩ := h
    exact .inr ⟨r, r', List.mem_of_find?_eq_some hr, List.find?_some hr, hf, rfl, rfl⟩

theorem claim_moves (hk : t.Keyed) (h : t.claim limit now = .ok (entries, t')) : t.Moves t' := by
  obtain ⟨-, rfl, hel, -⟩ := claim_ok hk h
  exact moves_updateWhere fun r hr hp => .claim (hel r hr (by simpa using hp))

theorem markDelivered_moves (h : t.markDelivered i now = .ok (b, t')) : t.Moves t' := by
  obtain ⟨-, rfl⟩ := markDelivered_ok h
  exact moves_updateWhere fun r _ hp => .deliver now (Row.isSending_iff.mp hp).2

theorem markFailed_moves (hk : t.Keyed)
    (h : t.markFailed i text strategy now clock = .ok (out, t')) : t.Moves t' := by
  rcases markFailed_ok h with ⟨-, rfl, -⟩ | ⟨r, r', hr, hs, hf, -, rfl⟩
  · exact Moves.refl _
  · refine moves_updateWhere fun r₂ hr₂ hs₂ => ?_
    have hid := (Row.isSending_iff.mp hs).1.trans (Row.isSending_iff.mp hs₂).1.symm
    cases List.inj_on_of_nodup_map hk.nodup hr hr₂ hid
    exact .fail (Row.isSending_iff.mp hs).2 hf

theorem requeue_ok (h : t.requeue ids now = .ok (n, t')) :
    t' = t.updateWhere (Row.isDeadAmong ids) (Row.requeued now) := by
  simp only [requeue, bind_ok, pure_ok, Prod.mk.injEq] at h
  obtain ⟨_, _, _, rfl⟩ := h
  rfl

theorem requeue_moves (h : t.requeue ids now = .ok (n, t')) : t.Moves t' := by
  rw [requeue_ok h]
  exact moves_updateWhere fun r _ hp => .requeue now (Row.isDeadAmong_iff.mp hp).2

theorem release_ok (h : t.release cutoff now exclude = .ok (n, t')) :
    t' = t.updateWhere (Row.isStale cutoff exclude) (Row.released now) := by
  simp only [release, bind_ok, pure_ok, Prod.mk.injEq] at h
  obtain ⟨_, _, _, rfl⟩ := h
  rfl

theorem release_moves (h : t.release cutoff now exclude = .ok (n, t')) : t.Moves t' := by
  rw [release_ok h]
  exact moves_updateWhere fun r _ hp => .release now (Row.isStale_iff.mp hp).1

end Table

end AlertDelivery.Queue
