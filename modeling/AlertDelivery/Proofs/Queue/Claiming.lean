import AlertDelivery.Proofs.Queue.Journey
import Mathlib.Data.List.Sort
import Mathlib.Data.Prod.Lex

/-!
# Claims take the best rows

The rows that may be claimed have one order, best first. A claim takes the
first of them, as many as it is allowed to, in whatever order the database
gives them back, and leaves the others as they were. So the next claim goes
on where the last one stopped, and two claims take together what one takes
that is allowed as many as both.
-/

namespace AlertDelivery.Queue

variable {t : Table} {r a b : Row} {rows yielded : List Row} {now : Instant} {limit : Int}
  {k m n : Nat} {s : Store}

-- ---------------------------------------------------------------------------
-- The order of claiming
-- ---------------------------------------------------------------------------

namespace Row

/-- One row is better than another: it has the higher priority, or the same
and is older, or is as old and has the lower id. -/
def Precedes (a b : Row) : Prop :=
  b.priority < a.priority ∨ a.priority = b.priority ∧
    (a.createdAt < b.createdAt ∨ a.createdAt = b.createdAt ∧ a.id < b.id)

def rank (r : Row) : Int ×ₗ Nat ×ₗ Int := toLex (-r.priority, toLex (r.createdAt.micros, r.id))

theorem createdAt_inj : a.createdAt = b.createdAt ↔ a.createdAt.micros = b.createdAt.micros := by
  rw [Instant.mk.injEq]

theorem createdAt_lt : a.createdAt < b.createdAt ↔ a.createdAt.micros < b.createdAt.micros :=
  Iff.rfl

theorem id_of_rank (h : a.rank = b.rank) : a.id = b.id :=
  congrArg (fun x => (ofLex (ofLex x).2).2) h

theorem precedes_iff : a.Precedes b ↔ a.rank < b.rank := by
  simp only [Precedes, rank, Prod.Lex.toLex_lt_toLex, Int.neg_lt_neg_iff, Int.neg_inj,
    createdAt_inj, createdAt_lt]

theorem claimedBefore_iff : a.claimedBefore b = true ↔ a.rank ≤ b.rank := by
  rw [← not_lt, ← precedes_iff, Precedes, claimedBefore]
  simp only [createdAt_inj, createdAt_lt, ne_eq]
  split
  · simp
    omega
  · split <;> simp <;> omega

instance : DecidableRel Precedes := fun _ _ => inferInstanceAs (Decidable (_ ∨ _ ∧ (_ ∨ _ ∧ _)))

instance : Std.Irrefl Precedes := ⟨fun _ h => lt_irrefl _ (precedes_iff.mp h)⟩

instance : Std.Antisymm Precedes :=
  ⟨fun _ _ h h' => absurd (precedes_iff.mp h') (lt_asymm (precedes_iff.mp h))⟩

theorem mergeSort_precedes (h : (rows.map (·.id)).Nodup) :
    (rows.mergeSort claimedBefore).Pairwise Precedes := by
  have htrans (a b c : Row) (hab : a.claimedBefore b = true) (hbc : b.claimedBefore c = true) :
      a.claimedBefore c = true :=
    claimedBefore_iff.mpr ((claimedBefore_iff.mp hab).trans (claimedBefore_iff.mp hbc))
  have htotal (a b : Row) : (a.claimedBefore b || b.claimedBefore a) = true := by
    simp only [Bool.or_eq_true, claimedBefore_iff]
    exact le_total _ _
  have hsorted := List.pairwise_mergeSort htrans htotal rows
  have hids : ((rows.mergeSort claimedBefore).map (·.id)).Nodup :=
    ((List.mergeSort_perm rows claimedBefore).map _).nodup_iff.mpr h
  refine (hsorted.and (List.pairwise_map.mp hids)).imp fun ⟨hle, hne⟩ => ?_
  exact precedes_iff.mpr (lt_of_le_of_ne (claimedBefore_iff.mp hle) (mt id_of_rank hne))

end Row

-- ---------------------------------------------------------------------------
-- What is taken
-- ---------------------------------------------------------------------------

namespace Table

theorem mem_eligible : r ∈ t.eligible now ↔ r ∈ t.rows ∧ r.isEligible now = true := by
  rw [eligible, List.mem_mergeSort, List.mem_filter]

theorem eligible_precedes (hk : t.Keyed) (now : Instant) :
    (t.eligible now).Pairwise Row.Precedes :=
  Row.mergeSort_precedes (hk.nodup.sublist (List.filter_sublist.map _))

theorem Keyed.eligible (hk : t.Keyed) (now : Instant) :
    ((t.eligible now).map (·.id)).Nodup :=
  ((List.mergeSort_perm _ _).map _).nodup_iff.mpr (hk.nodup.sublist (List.filter_sublist.map _))

theorem eligible_nodup (hk : t.Keyed) (now : Instant) : (t.eligible now).Nodup :=
  (eligible_precedes hk now).nodup

def best (t : Table) (k : Nat) (now : Instant) : List Row := (t.eligible now).take k

def taking (t : Table) (k : Nat) (now : Instant) : Table :=
  ⟨t.rows.map fun r => if r ∈ t.best k now then r.claimed now else r⟩

theorem of_mem_best (h : r ∈ t.best k now) : r ∈ t.rows ∧ r.isEligible now = true :=
  mem_eligible.mp (List.mem_of_mem_take h)

theorem contains_best (hk : t.Keyed) (hr : r ∈ t.rows) :
    ((t.best k now).map (·.id)).contains r.id = true ↔ r ∈ t.best k now := by
  rw [List.contains_iff_mem]
  refine ⟨fun h => ?_, List.mem_map_of_mem⟩
  obtain ⟨r', hr', hid⟩ := List.mem_map.mp h
  rwa [← List.inj_on_of_nodup_map hk.nodup (of_mem_best hr').1 hr hid]

theorem claim_eq (hk : t.Keyed) (hs : isStorable limit = true) (now : Instant) :
    t.claim limit now = .ok ((t.best limit.toNat now).map fun r => (r.claimed now).toEntry,
      t.taking limit.toNat now) := by
  have hst : storable [limit] = .ok () := storable_of_forall (by simpa using hs)
  have hrows : t.updateWhere (fun r => ((t.best limit.toNat now).map (·.id)).contains r.id)
      (Row.claimed now) = t.taking limit.toNat now := by
    refine congrArg Table.mk (List.map_congr_left fun r hr => ?_)
    simp only [contains_best hk hr]
  rw [← hrows, claim, hst, ok_bind]
  rfl

theorem Keyed.taking (hk : t.Keyed) (k : Nat) (now : Instant) : (t.taking k now).Keyed := by
  refine List.pairwise_map.mpr (hk.imp fun {a b} hlt => ?_)
  have hid (r : Row) : (if r ∈ t.best k now then r.claimed now else r).id = r.id := by
    split <;> rfl
  rwa [hid, hid]

/-- What is left to claim is what came after the best rows. -/
theorem eligible_taking (hk : t.Keyed) (k : Nat) (now : Instant) :
    (t.taking k now).eligible now = (t.eligible now).drop k := by
  have hdisjoint : List.Disjoint (t.best k now) ((t.eligible now).drop k) :=
    List.disjoint_take_drop (eligible_nodup hk now) (Nat.le_refl k)
  refine List.Pairwise.eq_of_mem_iff (eligible_precedes (hk.taking k now) now)
    ((eligible_precedes hk now).sublist (List.drop_sublist k _)) fun r => ?_
  rw [mem_eligible]
  constructor
  · rintro ⟨hr, hel⟩
    obtain ⟨r₀, hr₀, hr⟩ := List.mem_map.mp hr
    split at hr <;> subst hr
    · exact absurd rfl (Row.isEligible_ne hel).1
    · have hmem := mem_eligible.mpr ⟨hr₀, hel⟩
      rw [← List.take_append_drop k (t.eligible now), List.mem_append] at hmem
      exact hmem.resolve_left ‹_›
  · intro hr
    obtain ⟨hrow, hel⟩ := mem_eligible.mp (List.mem_of_mem_drop hr)
    exact ⟨List.mem_map.mpr ⟨r, hrow, if_neg fun hb => hdisjoint hb hr⟩, hel⟩

theorem best_add (hk : t.Keyed) (m n : Nat) (now : Instant) :
    t.best (m + n) now = t.best m now ++ (t.taking m now).best n now := by
  rw [best, best, best, eligible_taking hk, List.take_add]

theorem taking_taking (hk : t.Keyed) (m n : Nat) (now : Instant) :
    (t.taking m now).taking n now = t.taking (m + n) now := by
  refine congrArg Table.mk ((List.map_map).trans (List.map_congr_left fun r hr => ?_))
  simp only [Function.comp, best_add hk, List.mem_append]
  by_cases hfirst : r ∈ t.best m now
  · have hgone : r.claimed now ∉ (t.taking m now).best n now := fun h =>
      (Row.isEligible_ne (of_mem_best h).2).1 rfl
    rw [if_pos hfirst, if_neg hgone, if_pos (.inl hfirst)]
  · simp only [hfirst, if_false, false_or]

theorem taking_zero (t : Table) (now : Instant) : t.taking 0 now = t := by
  simp [taking, best]

end Table

-- ---------------------------------------------------------------------------
-- The one statement of a claim
-- ---------------------------------------------------------------------------

/-- Whether the statement of a claim changes a row: its id is chosen and it
may still be claimed. -/
def Row.isChosen (ids : List Int) (r : Row) : Bool := ids.contains r.id && r.state.isClaimable

/-- The order in which the entries of a claim are handed out. One without a
time of its own counts as new. -/
def Entry.claimedBefore (now : Instant) (a b : Entry) : Bool :=
  if a.priority ≠ b.priority then b.priority < a.priority
  else if a.createdAt.getD now ≠ b.createdAt.getD now then
    a.createdAt.getD now < b.createdAt.getD now
  else a.id ≤ b.id

namespace Table

def chosen (t : Table) (limit : Int) (now : Instant) : List Int :=
  (t.best limit.toNat now).map (·.id)

def changed (t : Table) (limit : Int) (now : Instant) : List Row :=
  (t.rows.filter (Row.isChosen (t.chosen limit now))).map (Row.claimed now)

theorem isChosen_iff (hk : t.Keyed) (hr : r ∈ t.rows) :
    r.isChosen (t.chosen limit now) = true ↔ r ∈ t.best limit.toNat now := by
  rw [Row.isChosen, Bool.and_eq_true, chosen, contains_best hk hr]
  exact and_iff_left_of_imp fun h => Row.isEligible_state (of_mem_best h).2

theorem updateWhere_isChosen (hk : t.Keyed) (limit : Int) (now : Instant) :
    t.updateWhere (Row.isChosen (t.chosen limit now)) (Row.claimed now) =
      t.taking limit.toNat now := by
  refine congrArg Table.mk (List.map_congr_left fun r hr => ?_)
  simp only [isChosen_iff hk hr]

theorem changed_perm (hk : t.Keyed) (limit : Int) (now : Instant) :
    (t.changed limit now).Perm ((t.best limit.toNat now).map (Row.claimed now)) := by
  have hrows : t.rows.Nodup := .of_map _ hk.nodup
  have hbest : (t.best limit.toNat now).Nodup :=
    (eligible_nodup hk now).sublist (List.take_sublist _ _)
  refine List.Perm.map _ ((List.perm_ext_iff_of_nodup (hrows.filter _) hbest).mpr fun r => ?_)
  rw [List.mem_filter]
  constructor
  · rintro ⟨hr, hc⟩
    exact (isChosen_iff hk hr).mp hc
  · intro hr
    have hrow := (of_mem_best hr).1
    exact ⟨hrow, (isChosen_iff hk hrow).mpr hr⟩

theorem mergeSort_yielded (hk : t.Keyed) (h : yielded.Perm (t.changed limit now)) :
    (yielded.map Row.toEntry).mergeSort (Entry.claimedBefore now) =
      (t.best limit.toNat now).map fun r => (r.claimed now).toEntry := by
  let taken := (t.best limit.toNat now).map (Row.claimed now)
  have hperm : yielded.Perm taken := h.trans (changed_perm hk limit now)
  have htaken : taken.Pairwise Row.Precedes :=
    List.pairwise_map.mpr ((eligible_precedes hk now).sublist (List.take_sublist _ _))
  have hids : (yielded.map (·.id)).Nodup := by
    refine (h.map _).nodup_iff.mpr ?_
    rw [changed, List.map_map]
    exact hk.nodup.sublist (List.filter_sublist.map _)
  have hsorted : yielded.mergeSort Row.claimedBefore = taken :=
    (Row.mergeSort_precedes hids).eq_of_mem_iff htaken fun r => by
      rw [List.mem_mergeSort, hperm.mem_iff]
  have hmap : (yielded.mergeSort Row.claimedBefore).map Row.toEntry =
      (yielded.map Row.toEntry).mergeSort (Entry.claimedBefore now) :=
    List.map_mergeSort fun _ _ _ _ => rfl
  rw [← hmap, hsorted, List.map_map]
  rfl

end Table

-- ---------------------------------------------------------------------------
-- Claims through the store
-- ---------------------------------------------------------------------------

theorem isStorable_zero_max : isStorable (max limit 0) = true ↔ limit ≤ 9223372036854775807 := by
  simp only [isStorable, Bool.and_eq_true, decide_eq_true_eq]
  omega

theorem claim_run (hup : 0 < limit → s.isUp = true) (hk : s.queue.Keyed)
    (hs : isStorable (max limit 0) = true) (now : Instant) :
    Store.claim limit now s =
      .ok ((s.queue.best limit.toNat now).map fun r => (r.claimed now).toEntry)
        { s with queue := s.queue.taking limit.toNat now } := by
  unfold Store.claim
  split
  next hle =>
    rw [Int.toNat_of_nonpos hle, Table.taking_zero]
    rfl
  next hpos =>
    rw [max_eq_left (by omega)] at hs
    exact Store.onQueue_up (fun t => t.claim limit now) (hup (by omega)) (Table.claim_eq hk hs now)

theorem claim_refused (hup : 0 < limit → s.isUp = true)
    (hs : isStorable (max limit 0) = false) (now : Instant) :
    Store.claim limit now s = .error tooLargeToStore s := by
  have hpos : ¬ limit ≤ 0 := fun hle => by
    rw [max_eq_right hle] at hs
    cases hs
  rw [max_eq_left (by omega)] at hs
  have hst : storable [limit] = .error tooLargeToStore := by simp [storable, hs]
  have hc : s.queue.claim limit now = .error tooLargeToStore := by
    rw [Table.claim, hst]
    rfl
  rw [Store.claim, if_neg hpos]
  exact Store.onQueue_fault (fun t => t.claim limit now) (hup (by omega)) hc

theorem claim_down (hdown : s.isUp = false) (hpos : 0 < limit) (now : Instant) :
    Store.claim limit now s = .error (Store.down "claim_batch") s := by
  rw [Store.claim, if_neg (by omega)]
  simp [Store.onQueue, Store.transact, hdown]

/-- With the eligible rows in their order, best first, a claim hands out the
first of them, as many as it is allowed to and there are, and marks exactly
these as being sent; it is refused only while the store is down, or for a
number that no column can hold. It comes to the same when the database
changes the chosen rows that may still be claimed, gives them back in any
order, and their entries are put in order afterwards. -/
theorem claim_takes_best (s : Store) (hk : s.queue.Keyed) (limit : Int) (now : Instant) :
    ∃ best : List Row, best.Pairwise Row.Precedes ∧
      (∀ r, r ∈ best ↔ r ∈ s.queue.rows ∧
        (r.state = .created ∨ r.state = .queued ∨ r.state = .failed) ∧
        ∀ due, r.nextRetryAt = some due → due ≤ now) ∧
      let taken := best.take limit.toNat
      let entries := taken.map fun r =>
        { r.toEntry with state := .sending, updatedAt := some now }
      let queue : Table := ⟨s.queue.rows.map fun r =>
        if r ∈ taken then { r with state := .sending, updatedAt := now } else r⟩
      (Store.claim limit now s =
        if 0 < limit ∧ s.isUp = false then .error (Store.down "claim_batch") s
        else if isStorable (max limit 0) then .ok entries { s with queue }
        else .error tooLargeToStore s) ∧
      s.queue.updateWhere (Row.isChosen (s.queue.chosen limit now)) (Row.claimed now) = queue ∧
      ∀ yielded : List Row, yielded.Perm (s.queue.changed limit now) →
        (yielded.map Row.toEntry).mergeSort (Entry.claimedBefore now) = entries := by
  refine ⟨s.queue.eligible now, Table.eligible_precedes hk now, fun r => ?_, ?_,
    Table.updateWhere_isChosen hk limit now, fun yielded h => Table.mergeSort_yielded hk h⟩
  · rw [Table.mem_eligible, Row.isEligible_iff]
  · split
    next hdown => exact claim_down hdown.2 hdown.1 now
    next hup =>
      have hup (hpos : 0 < limit) : s.isUp = true :=
        Bool.eq_true_of_not_eq_false fun hdown => hup ⟨hpos, hdown⟩
      split
      next hs => exact claim_run hup hk hs now
      next hs => exact claim_refused hup (Bool.eq_false_iff.mpr hs) now

/-- Six rows: two of priority 9 that may not be claimed, three of priority 5
that may, of which the oldest two are as old, and one of priority 1. -/
def contested : Store := { queue := ⟨[
  { id := 1, channel := "email", body := "", priority := 1, createdAt := .first,
    updatedAt := .first },
  { id := 2, channel := "email", body := "", priority := 9, state := .delivered,
    createdAt := .first, updatedAt := .first },
  { id := 3, channel := "email", body := "", priority := 9, state := .failed,
    nextRetryAt := some .clockStart, createdAt := .first, updatedAt := .first },
  { id := 4, channel := "email", body := "", createdAt := .clockStart, updatedAt := .first },
  { id := 5, channel := "email", body := "", state := .queued, createdAt := .first,
    updatedAt := .first },
  { id := 6, channel := "email", body := "", state := .failed, nextRetryAt := some .first,
    createdAt := .first, updatedAt := .first }]⟩ }

theorem contested_keyed : contested.queue.Keyed := by simp [contested, Table.Keyed]

theorem contested_eligible :
    contested.queue.eligible .first = [4, 5, 3, 0].filterMap (contested.queue.rows[·]?) := by
  refine (Table.eligible_precedes contested_keyed .first).eq_of_mem_iff (by decide +kernel)
    fun r => ?_
  rw [Table.mem_eligible, ← List.mem_filter]
  have hperm : (contested.queue.rows.filter (Row.isEligible .first)).Perm
      ([4, 5, 3, 0].filterMap (contested.queue.rows[·]?)) := by decide +kernel
  exact hperm.mem_iff

theorem contested_claim {entries : List Entry} {s' : Store}
    (hs : isStorable (max limit 0) = true)
    (h : Store.claim limit .first contested = .ok entries s') :
    entries.map (·.id) = [5, 6, 4, 1].take limit.toNat := by
  rw [claim_run (fun _ => rfl) contested_keyed hs, Table.best, contested_eligible] at h
  cases h
  rw [List.map_map, List.map_take]
  rfl

theorem claim_takes_best_contested :
    ∃ entries s', Store.claim 2 .first contested = .ok entries s' ∧
      entries.map (·.id) = [5, 6] ∧
      ∀ yielded : List Row, yielded.Perm (contested.queue.changed 2 .first) →
        (yielded.map Row.toEntry).mergeSort (Entry.claimedBefore .first) = entries := by
  obtain ⟨best, -, -, hclaim, -, hyielded⟩ :=
    claim_takes_best contested contested_keyed 2 .first
  rw [if_neg (by decide), if_pos (by decide)] at hclaim
  exact ⟨_, _, hclaim, contested_claim (by decide) hclaim, hyielded⟩

/-- A claim for more rows than a column can count takes none. -/
theorem claim_not_always_answered :
    ¬ ∀ (s : Store) (limit : Int) (now : Instant), s.isUp = true → s.queue.Keyed →
      ∃ entries s', Store.claim limit now s = .ok entries s' ∧
        entries.length = min limit.toNat (s.queue.eligible now).length := by
  intro h
  obtain ⟨_, _, hclaim, -⟩ := h contested 9223372036854775808 .first rfl contested_keyed
  rw [claim_refused (fun _ => rfl) (by decide)] at hclaim
  cases hclaim

theorem claim_claim (hk : s.queue.Keyed) (m n : Int) (now : Instant)
    (hup : 0 < max m 0 + max n 0 → s.isUp = true)
    (hs : isStorable (max m 0 + max n 0) = true) : ∃ first second s₁,
    Store.claim m now s = .ok first s₁ ∧
    Store.claim n now s₁ =
      .ok second { s with queue := s.queue.taking (m.toNat + n.toNat) now } ∧
    first ++ second =
      (s.queue.best (m.toNat + n.toNat) now).map fun r => (r.claimed now).toEntry := by
  simp only [isStorable, Bool.and_eq_true, decide_eq_true_eq] at hs
  have hm : isStorable (max m 0) = true := isStorable_zero_max.mpr (by omega)
  have hn : isStorable (max n 0) = true := isStorable_zero_max.mpr (by omega)
  let s₁ : Store := { s with queue := s.queue.taking m.toNat now }
  have hfirst := claim_run (fun hpos => hup (by omega)) hk hm now
  have hup₁ (hpos : 0 < n) : s₁.isUp = true := hup (by omega)
  have hsecond := claim_run hup₁ (hk.taking m.toNat now) hn now
  rw [Table.taking_taking hk] at hsecond
  exact ⟨_, _, s₁, hfirst, hsecond, by rw [Table.best_add hk, List.map_append]⟩

/-- Two claims one after the other take what one claim takes that is allowed
as many as both, in the same order, and leave the same; and so do the two in
the other order. But the one claim may be for more than a column can hold,
and then it takes nothing. -/
theorem claims_compose (s : Store) (hk : s.queue.Keyed) (m n : Int) (now : Instant) :
    let both := max m 0 + max n 0
    ((0 < both → s.isUp = true) → isStorable both = true → ∃ first second s₁ s₂,
      Store.claim m now s = .ok first s₁ ∧ Store.claim n now s₁ = .ok second s₂ ∧
      Store.claim both now s = .ok (first ++ second) s₂ ∧
      ((first ++ second).map (·.id)).Nodup ∧
      ∃ first' second' s₁', Store.claim n now s = .ok first' s₁' ∧
        Store.claim m now s₁' = .ok second' s₂ ∧ first' ++ second' = first ++ second) ∧
    (0 < both → s.isUp = false →
      Store.claim both now s = .error (Store.down "claim_batch") s) ∧
    (s.isUp = true → isStorable both = false →
      Store.claim both now s = .error tooLargeToStore s) := by
  intro both
  have hnonneg : max both 0 = both := by omega
  have hsum : both.toNat = m.toNat + n.toNat := by omega
  have hcomm : max n 0 + max m 0 = both := Int.add_comm _ _
  refine ⟨fun hup hs => ?_, fun hpos hdown => claim_down hdown hpos now, fun hup hs => ?_⟩
  · obtain ⟨first, second, s₁, hm, hn, happend⟩ := claim_claim hk m n now hup hs
    obtain ⟨first', second', s₁', hn', hm', happend'⟩ :=
      claim_claim hk n m now (by rwa [hcomm]) (by rwa [hcomm])
    rw [Nat.add_comm] at hm' happend'
    have hboth := claim_run hup hk (by rwa [hnonneg]) now
    rw [hsum, ← happend] at hboth
    have hids : ((first ++ second).map (·.id)).Nodup := by
      rw [happend, List.map_map]
      exact (hk.eligible now).sublist ((List.take_sublist _ _).map _)
    exact ⟨first, second, s₁, _, hm, hn, hboth, hids, first', second', s₁', hn', hm',
      happend'.trans happend.symm⟩
  · exact claim_refused (fun _ => hup) (by rwa [hnonneg]) now

theorem claims_compose_contested :
    ∃ first second s₁ s₂, Store.claim 1 .first contested = .ok first s₁ ∧
      Store.claim 2 .first s₁ = .ok second s₂ ∧
      Store.claim 3 .first contested = .ok (first ++ second) s₂ ∧
      (first ++ second).map (·.id) = [5, 6, 4] := by
  obtain ⟨first, second, s₁, s₂, hfirst, hsecond, hboth, -⟩ :=
    (claims_compose contested contested_keyed 1 2 .first).1 (fun _ => rfl) (by decide)
  exact ⟨first, second, s₁, s₂, hfirst, hsecond, hboth, contested_claim (by decide) hboth⟩

/-- Two claims for less than a column can count may be for more together. -/
theorem claims_not_always_compose :
    ¬ ∀ (s : Store) (m n : Int) (now : Instant), s.isUp = true → s.queue.Keyed →
      ∃ first second s₁ s₂, Store.claim m now s = .ok first s₁ ∧
        Store.claim n now s₁ = .ok second s₂ ∧
        Store.claim (max m 0 + max n 0) now s = .ok (first ++ second) s₂ := by
  intro h
  obtain ⟨_, _, _, _, -, -, hboth⟩ :=
    h {} 9223372036854775807 1 .first rfl List.Pairwise.nil
  rw [claim_refused (fun _ => rfl) (by decide)] at hboth
  cases hboth

end AlertDelivery.Queue
