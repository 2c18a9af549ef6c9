import AlertDelivery.Proofs.OpLaws
import AlertDelivery.Proofs.Queue.TableLaws
import Mathlib.Data.List.Dedup

/-!
# Requeueing is a set operation

A requeue moves the dead letters among its ids and counts each of them once,
whatever the order of the ids and however often one is named. So two requeues
move together what one with all the ids moves, and a requeue that is repeated
finds nothing to do.
-/

namespace AlertDelivery.Queue

variable {t : Table} {ids xs ys : List Int} {s : Store}

-- ---------------------------------------------------------------------------
-- One row
-- ---------------------------------------------------------------------------

theorem Row.isDeadAmong_append (r : Row) (xs ys : List Int) :
    r.isDeadAmong (xs ++ ys) = (r.isDeadAmong xs || r.isDeadAmong ys) := by
  simp [isDeadAmong, Bool.and_or_distrib_right]

theorem Row.isDeadAmong_congr (h : ∀ i, i ∈ xs ↔ i ∈ ys) :
    Row.isDeadAmong xs = Row.isDeadAmong ys := by
  funext r
  simp [isDeadAmong, h]

theorem Row.isDeadAmong_requeued (r : Row) (xs ys : List Int) (now : Instant) :
    (if r.isDeadAmong xs then r.requeued now else r).isDeadAmong ys =
      (!r.isDeadAmong xs && r.isDeadAmong ys) := by
  cases h : r.isDeadAmong xs with
  | true => simp [isDeadAmong, requeued]
  | false => simp

-- ---------------------------------------------------------------------------
-- The ids
-- ---------------------------------------------------------------------------

/-- Whether one statement can name the ids: each of them is a variable of it,
beside six others, and an integer that a column can hold. -/
structure CanRequeue (ids : List Int) : Prop where
  few : ids.dedup.length ≤ 32760
  storable : ∀ i ∈ ids, isStorable i = true

theorem dedup_length_congr (h : ∀ i, i ∈ xs ↔ i ∈ ys) : xs.dedup.length = ys.dedup.length :=
  ((List.perm_ext_iff_of_nodup (List.nodup_dedup xs) (List.nodup_dedup ys)).mpr fun i => by
    rw [List.mem_dedup, List.mem_dedup, h]).length_eq

theorem eraseDups_length (ids : List Int) : ids.eraseDups.length = ids.dedup.length :=
  ((List.perm_ext_iff_of_nodup (eraseDups_nodup ids) (List.nodup_dedup ids)).mpr fun _ => by
    rw [List.mem_eraseDups, List.mem_dedup]).length_eq

theorem storable_congr (h : ∀ i, i ∈ xs ↔ i ∈ ys) : Queue.storable xs = Queue.storable ys := by
  have hall : xs.all isStorable = ys.all isStorable := by
    rw [Bool.eq_iff_iff, List.all_eq_true, List.all_eq_true]
    simp only [h]
  rw [Queue.storable, Queue.storable, hall]

/-- The statement of a requeue has a variable for each different id. -/
theorem nameable_eraseDups (operation : String) (own : Nat) (ids : List Int) :
    nameable operation own ids.eraseDups =
      if own + ids.dedup.length ≤ maxVariables then Queue.storable ids
      else .error (tooManyVariables operation) := by
  rw [nameable, eraseDups_length, storable_congr fun _ => List.mem_eraseDups]

theorem CanRequeue.nameable (h : CanRequeue ids) (operation : String) :
    nameable operation 6 ids.eraseDups = .ok () := by
  have hfew : 6 + ids.dedup.length ≤ maxVariables := Nat.add_le_add_left h.few 6
  rw [nameable_eraseDups, if_pos hfew, storable_of_forall h.storable]

-- ---------------------------------------------------------------------------
-- The table
-- ---------------------------------------------------------------------------

namespace Table

def requeueing (t : Table) (ids : List Int) (now : Instant) : Table :=
  t.updateWhere (Row.isDeadAmong ids) (Row.requeued now)

def IsDead (t : Table) (i : Int) : Prop := ∃ r ∈ t.rows, r.id = i ∧ r.state = .deadLetter

instance : DecidablePred t.IsDead := fun _ => inferInstanceAs (Decidable (∃ _ ∈ _, _))

theorem requeue_eq (h : CanRequeue ids) (t : Table) (now : Instant) :
    t.requeue ids now = .ok (t.countWhere (Row.isDeadAmong ids), t.requeueing ids now) := by
  rw [requeue, h.nameable, ok_bind]
  rfl

theorem countWhere_isDeadAmong (hk : t.Keyed) (ids : List Int) :
    t.countWhere (Row.isDeadAmong ids) = (ids.dedup.filter fun i => t.IsDead i).length := by
  have hrows : ((t.rows.filter (Row.isDeadAmong ids)).map (·.id)).Nodup :=
    hk.nodup.sublist (List.filter_sublist.map _)
  have hids : (ids.dedup.filter fun i => t.IsDead i).Nodup := (List.nodup_dedup ids).filter _
  have hperm := (List.perm_ext_iff_of_nodup hrows hids).mpr fun i => by
    simp only [List.mem_map, List.mem_filter, Row.isDeadAmong_iff, List.mem_dedup,
      decide_eq_true_eq]
    constructor
    · rintro ⟨r, ⟨hr, hi, hdead⟩, rfl⟩
      exact ⟨hi, r, hr, rfl, hdead⟩
    · rintro ⟨hi, r, hr, rfl, hdead⟩
      exact ⟨r, ⟨hr, hi, hdead⟩, rfl⟩
  rw [countWhere, List.countP_eq_length_filter, ← List.length_map, hperm.length_eq]

theorem requeueing_requeueing (t : Table) (xs ys : List Int) (now : Instant) :
    (t.requeueing xs now).requeueing ys now = t.requeueing (xs ++ ys) now := by
  refine congrArg Table.mk (List.map_map.trans (List.map_congr_left fun r _ => ?_))
  simp only [Function.comp, Row.isDeadAmong_requeued, Row.isDeadAmong_append]
  cases r.isDeadAmong xs <;> simp

/-- What the second requeue moves is what the first one left. -/
theorem countWhere_requeueing (t : Table) (xs ys : List Int) (now : Instant) :
    t.countWhere (Row.isDeadAmong xs) + (t.requeueing xs now).countWhere (Row.isDeadAmong ys) =
      t.countWhere (Row.isDeadAmong (xs ++ ys)) := by
  obtain ⟨rows⟩ := t
  simp only [countWhere, requeueing, updateWhere, List.countP_map, Function.comp_def,
    Row.isDeadAmong_requeued]
  induction rows with
  | nil => rfl
  | cons r rest ih =>
    simp only [List.countP_cons, ← ih, Row.isDeadAmong_append]
    cases r.isDeadAmong xs <;> cases r.isDeadAmong ys <;> simp <;> omega

theorem requeueing_settled (t : Table) (ids : List Int) (now : Instant) :
    ∀ r ∈ (t.requeueing ids now).rows, r.isDeadAmong ids = false := by
  intro r hr
  obtain ⟨r, -, rfl⟩ := List.mem_map.mp hr
  simp [Row.isDeadAmong_requeued]

theorem requeueing_again (t : Table) (ids : List Int) (now later : Instant) :
    (t.requeueing ids now).requeueing ids later = t.requeueing ids now ∧
      (t.requeueing ids now).countWhere (Row.isDeadAmong ids) = 0 := by
  have hsettled := t.requeueing_settled ids now
  exact ⟨updateWhere_none hsettled, List.countP_eq_zero.mpr fun r hr => by simp [hsettled r hr]⟩

end Table

-- ---------------------------------------------------------------------------
-- Requeues through the store
-- ---------------------------------------------------------------------------

theorem requeue_run (hup : s.isUp = true) (h : CanRequeue ids) (now : Instant) :
    Store.requeue ids now s = .ok (s.queue.countWhere (Row.isDeadAmong ids))
      { s with queue := s.queue.requeueing ids now } := by
  cases ids with
  | nil =>
    have hnone : s.queue.requeueing [] now = s.queue := Table.updateWhere_none fun _ _ => rfl
    have hzero : s.queue.countWhere (Row.isDeadAmong []) = 0 :=
      List.countP_eq_zero.mpr fun _ _ => Bool.false_ne_true
    rw [hnone, hzero]
    rfl
  | cons i rest =>
    exact Store.onQueue_up (fun t => t.requeue (i :: rest) now) hup (Table.requeue_eq h _ now)

theorem requeue_refused {fault : Fault} (hup : s.isUp = true) (hne : ids ≠ [])
    (h : nameable "requeue_dead_letters" 6 ids.eraseDups = .error fault) (now : Instant) :
    Store.requeue ids now s = .error fault s := by
  have hr : s.queue.requeue ids now = .error fault := by
    rw [Table.requeue, h]
    rfl
  rw [Store.requeue, if_neg (by simpa using hne)]
  exact Store.onQueue_fault (fun t => t.requeue ids now) hup hr

theorem requeue_tooMany (hup : s.isUp = true) (hmany : 32760 < ids.dedup.length) (now : Instant) :
    Store.requeue ids now s = .error (tooManyVariables "requeue_dead_letters") s := by
  refine requeue_refused hup (fun hnil => by simp [hnil] at hmany) ?_ now
  have hlimit : ¬ 6 + ids.dedup.length ≤ maxVariables := by
    rw [maxVariables]
    omega
  rw [nameable_eraseDups, if_neg hlimit]

theorem requeue_tooLarge (hup : s.isUp = true) (hfew : ids.dedup.length ≤ 32760)
    (hs : ∃ i ∈ ids, isStorable i = false) (now : Instant) :
    Store.requeue ids now s = .error tooLargeToStore s := by
  obtain ⟨i, hi, hlarge⟩ := hs
  refine requeue_refused hup (List.ne_nil_of_mem hi) ?_ now
  have hlimit : 6 + ids.dedup.length ≤ maxVariables := Nat.add_le_add_left hfew 6
  rw [nameable_eraseDups, if_pos hlimit, Queue.storable, if_neg]
  intro hall
  simp [List.all_eq_true.mp hall i hi] at hlarge

theorem requeue_congr (h : ∀ i, i ∈ xs ↔ i ∈ ys) (now : Instant) :
    Store.requeue xs now = Store.requeue ys now := by
  have hempty : xs.isEmpty = ys.isEmpty := by
    rw [Bool.eq_iff_iff, List.isEmpty_iff, List.isEmpty_iff, List.eq_nil_iff_forall_not_mem,
      List.eq_nil_iff_forall_not_mem]
    simp only [h]
  simp only [Store.requeue, Table.requeue, hempty, nameable_eraseDups, dedup_length_congr h,
    storable_congr h, Row.isDeadAmong_congr h]

/-- A requeue moves exactly the dead letters among its ids, puts their counters
back, and answers how many they are. Two requeues come to one with the ids of
both, and the same requeue once more does nothing at any time. But it moves
nothing when there are more ids than a statement can name, or one that no
column can hold. -/
theorem requeues_unite (hup : s.isUp = true) (hk : s.queue.Keyed) (now : Instant) :
    (∀ ids : List Int, CanRequeue ids → Store.requeue ids now s =
      .ok (ids.dedup.filter fun i => ∃ r ∈ s.queue.rows, r.id = i ∧ r.state = .deadLetter).length
        { s with queue := ⟨s.queue.rows.map fun r =>
          if r.id ∈ ids ∧ r.state = .deadLetter then
            { r with
              state := .queued, retryCount := 0, nextRetryAt := none, error := none,
              updatedAt := now }
          else r⟩ }) ∧
    (∀ ids : List Int, 32760 < ids.dedup.length → Store.requeue ids now s =
      .error (.storeUnavailable "requeue_dead_letters" "too many SQL variables") s) ∧
    (∀ ids : List Int, ids.dedup.length ≤ 32760 → (∃ i ∈ ids, isStorable i = false) →
      Store.requeue ids now s = .error tooLargeToStore s) ∧
    (∀ xs ys : List Int, (∀ i, i ∈ xs ↔ i ∈ ys) →
      Store.requeue xs now s = Store.requeue ys now s) ∧
    ∀ xs ys : List Int, CanRequeue xs → CanRequeue ys →
      ∃ m n s₁ s₂, Store.requeue xs now s = .ok m s₁ ∧ Store.requeue ys now s₁ = .ok n s₂ ∧
        (CanRequeue (xs ++ ys) → Store.requeue (xs ++ ys) now s = .ok (m + n) s₂) ∧
        ∀ later, Store.requeue xs later s₁ = .ok 0 s₁ := by
  refine ⟨fun ids h => ?_, fun ids hmany => requeue_tooMany hup hmany now,
    fun ids hfew hs => requeue_tooLarge hup hfew hs now,
    fun xs ys h => by rw [requeue_congr h], fun xs ys hxs hys => ?_⟩
  · have hmoved : (fun r : Row => if r.isDeadAmong ids = true then r.requeued now else r) =
        fun r : Row => if r.id ∈ ids ∧ r.state = .deadLetter then r.requeued now else r := by
      funext r
      simp only [Row.isDeadAmong_iff]
    rw [requeue_run hup h now, Table.countWhere_isDeadAmong hk, Table.requeueing,
      Table.updateWhere, hmoved]
    rfl
  · let s₁ : Store := { s with queue := s.queue.requeueing xs now }
    refine ⟨_, _, s₁, _, requeue_run hup hxs now, requeue_run (s := s₁) hup hys now,
      fun hboth => ?_, fun later => ?_⟩
    · rw [requeue_run hup hboth now, Table.requeueing_requeueing, Table.countWhere_requeueing]
    · obtain ⟨hsame, hzero⟩ := s.queue.requeueing_again xs now later
      rw [requeue_run (s := s₁) hup hxs later, hsame, hzero]

def buried : Store := { queue := ⟨[
  { id := 1, channel := "email", body := "", state := .deadLetter, retryCount := 3,
    failedAt := some .first, error := some "refused", createdAt := .first, updatedAt := .first },
  { id := 2, channel := "email", body := "", state := .delivered, deliveredAt := some .first,
    createdAt := .first, updatedAt := .first },
  { id := 3, channel := "slack", body := "", state := .deadLetter, retryCount := 3,
    failedAt := some .first, createdAt := .first, updatedAt := .first },
  { id := 4, channel := "slack", body := "", state := .sending, createdAt := .first,
    updatedAt := .first }]⟩ }

theorem buried_keyed : buried.queue.Keyed := by simp [buried, Table.Keyed]

instance (ids : List Int) : Decidable (CanRequeue ids) :=
  decidable_of_iff (ids.dedup.length ≤ 32760 ∧ ∀ i ∈ ids, isStorable i = true)
    ⟨fun h => ⟨h.1, h.2⟩, fun h => ⟨h.few, h.storable⟩⟩

theorem requeues_unite_overlapping : ∃ s₁ s₂,
    Store.requeue [3, 9, 3, 2] .clockStart buried = .ok 1 s₁ ∧
      Store.requeue [4, 1, 3] .clockStart s₁ = .ok 1 s₂ ∧
      Store.requeue [3, 9, 3, 2, 4, 1, 3] .clockStart buried = .ok 2 s₂ := by
  obtain ⟨hmoves, -, -, -, hunion⟩ := requeues_unite (s := buried) rfl buried_keyed .clockStart
  obtain ⟨m, n, s₁, s₂, hfirst, hsecond, hboth, -⟩ :=
    hunion [3, 9, 3, 2] [4, 1, 3] (by decide) (by decide)
  have hboth := hboth (by decide)
  obtain rfl : m = 1 :=
    (EStateM.Result.ok.inj (hfirst.symm.trans (hmoves _ (by decide)))).1.trans (by decide +kernel)
  obtain rfl : n = 1 := Nat.add_left_cancel
    ((EStateM.Result.ok.inj (hboth.symm.trans (hmoves _ (by decide)))).1.trans (by decide +kernel))
  exact ⟨s₁, s₂, hfirst, hsecond, hboth⟩

/-- An id that no row can have is not passed over. -/
theorem requeue_not_always_counted :
    ¬ ∀ (s : Store) (ids : List Int) (now : Instant), s.isUp = true → s.queue.Keyed →
      ∃ s', Store.requeue ids now s = .ok
        (ids.dedup.filter fun i => ∃ r ∈ s.queue.rows, r.id = i ∧ r.state = .deadLetter).length
        s' := by
  intro h
  obtain ⟨s', hs'⟩ := h buried [1, 9223372036854775808] .clockStart rfl buried_keyed
  rw [requeue_tooLarge rfl (by decide) ⟨9223372036854775808, by simp, by decide⟩] at hs'
  cases hs'

end AlertDelivery.Queue
