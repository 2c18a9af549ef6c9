import AlertDelivery.Proofs.OpLaws
import AlertDelivery.Proofs.Queue.TableLaws
import Mathlib.Algebra.Group.Nat.Defs
import Mathlib.Data.List.Forall2
import Mathlib.Data.List.Sort
import Mathlib.Data.Prod.Lex
import Mathlib.Order.Lattice

/-!
# Paging through the listings

The rows that pass a filter have one order, newest first, in which no two of
them are level, and each page is a slice of it. So the pages that follow one
another, up to the first empty one, show every row that passes, and show it
once.
-/

namespace AlertDelivery

-- ---------------------------------------------------------------------------
-- The order of a listing
-- ---------------------------------------------------------------------------

section
variable {α : Type} {time : α → Instant} {id : α → Int} {before : α → α → Bool} {xs found : List α}

def ListedFirst (time : α → Instant) (id : α → Int) (a b : α) : Prop :=
  time b < time a ∨ time a = time b ∧ id b < id a

def listingRank (time : α → Instant) (id : α → Int) (a : α) : Int ×ₗ Int :=
  toLex (-((time a).micros : Int), -id a)

theorem listedFirst_iff {a b : α} :
    ListedFirst time id a b ↔ listingRank time id a < listingRank time id b := by
  have hlt : time b < time a ↔ (time b).micros < (time a).micros := Iff.rfl
  have heq : time a = time b ↔ (time a).micros = (time b).micros := by rw [Instant.mk.injEq]
  simp only [ListedFirst, listingRank, Prod.Lex.toLex_lt_toLex, hlt, heq]
  omega

theorem mergeSort_listedFirst (hids : (xs.map id).Nodup)
    (hbefore : ∀ a b, before a b = if time a ≠ time b then decide (time b < time a)
      else decide (id b ≤ id a)) : (xs.mergeSort before).Pairwise (ListedFirst time id) := by
  have hrank (a b : α) : before a b = true ↔ listingRank time id a ≤ listingRank time id b := by
    have hlt (a b : α) : time b < time a ↔ (time b).micros < (time a).micros := Iff.rfl
    have heq (a b : α) : time a = time b ↔ (time a).micros = (time b).micros := by
      rw [Instant.mk.injEq]
    rw [← not_lt, ← listedFirst_iff, ListedFirst, hbefore]
    simp only [hlt, heq, ne_eq]
    split <;> simp <;> omega
  have hsorted : (xs.mergeSort before).Pairwise fun a b => before a b = true :=
    List.pairwise_mergeSort
      (fun a b c hab hbc => (hrank a c).mpr (((hrank a b).mp hab).trans ((hrank b c).mp hbc)))
      (fun a b => by simpa only [Bool.or_eq_true, hrank] using le_total _ _) xs
  have hdistinct : ((xs.mergeSort before).map id).Nodup :=
    ((List.mergeSort_perm xs before).map id).nodup_iff.mpr hids
  refine (hsorted.and (List.pairwise_map.mp hdistinct)).imp fun {a b} ⟨hle, hne⟩ => ?_
  have hother : listingRank time id a ≠ listingRank time id b := fun h =>
    hne (by simpa [listingRank] using congrArg (fun x => (ofLex x).2) h)
  exact listedFirst_iff.mpr (lt_of_le_of_ne ((hrank a b).mp hle) hother)

instance {time : α → Instant} {id : α → Int} : DecidableRel (ListedFirst time id) :=
  fun _ _ => inferInstanceAs (Decidable (_ ∨ _ ∧ _))

instance {time : α → Instant} {id : α → Int} : Std.Irrefl (ListedFirst time id) :=
  ⟨fun _ h => lt_irrefl _ (listedFirst_iff.mp h)⟩

instance {time : α → Instant} {id : α → Int} : Std.Antisymm (ListedFirst time id) :=
  ⟨fun _ _ h h' => absurd (listedFirst_iff.mp h') (lt_asymm (listedFirst_iff.mp h))⟩

/-- A list with everything that passes, once, in the order of a listing. -/
structure Lists (time : α → Instant) (id : α → Int) (passes : α → Prop) [DecidablePred passes]
    (xs found : List α) : Prop where
  perm : found.Perm (xs.filter fun a => passes a)
  ordered : found.Pairwise (ListedFirst time id)

theorem Lists.unique {passes : α → Prop} [DecidablePred passes] {found found' : List α}
    (h : Lists time id passes xs found) (h' : Lists time id passes xs found') : found = found' :=
  h.ordered.eq_of_mem_iff h'.ordered fun _ => (h.perm.trans h'.perm.symm).mem_iff

theorem Lists.of_mergeSort {passes : α → Prop} [DecidablePred passes] {p : α → Bool}
    (hids : (xs.map id).Nodup) (hp : ∀ a, p a = decide (passes a))
    (hbefore : ∀ a b, before a b = if time a ≠ time b then decide (time b < time a)
      else decide (id b ≤ id a)) : Lists time id passes xs ((xs.filter p).mergeSort before) where
  perm := by
    rw [← funext hp]
    exact List.mergeSort_perm _ _
  ordered := mergeSort_listedFirst (hids.sublist (List.filter_sublist.map id)) hbefore

end

-- ---------------------------------------------------------------------------
-- One page after another
-- ---------------------------------------------------------------------------

section
variable {α π : Type} {fetch : Nat → Store.Op π} {items : π → List α} {size offset : Nat}
  {s : Store} {pages : List π}

/-- The pages from an offset on: each starts where the one before it ends, and
the first empty one ends them. -/
inductive Paged (fetch : Nat → Store.Op π) (items : π → List α) (size : Nat) (s : Store) :
    Nat → List π → Prop
  | done {offset : Nat} {page : π} (h : fetch offset s = .ok page s) (hempty : items page = []) :
    Paged fetch items size s offset []
  | next {offset : Nat} {page : π} {pages : List π} (h : fetch offset s = .ok page s)
    (hshown : items page ≠ []) (rest : Paged fetch items size s (offset + size) pages) :
    Paged fetch items size s offset (page :: pages)

theorem Paged.of_slices {out : List α} (hsize : 0 < size) (hroom : out.length + size ≤ 2 ^ 63)
    (hfetch : ∀ offset < 2 ^ 63, ∃ page, fetch offset s = .ok page s ∧
      items page = (out.drop offset).take size) (offset : Nat) (hoffset : offset < 2 ^ 63) :
    ∃ pages, Paged fetch items size s offset pages ∧ pages.flatMap items = out.drop offset := by
  induction hleft : out.length - offset using Nat.strongRecOn generalizing offset with
  | ind left ih =>
    obtain ⟨page, hpage, hitems⟩ := hfetch offset hoffset
    by_cases hend : out.length ≤ offset
    · have hempty : out.drop offset = [] := List.drop_eq_nil_of_le hend
      refine ⟨[], .done hpage ?_, hempty.symm⟩
      rw [hitems, hempty, List.take_nil]
    · obtain ⟨pages, hpages, hout⟩ := ih _ (by omega) (offset + size) (by omega) rfl
      refine ⟨page :: pages, .next hpage (fun hempty => ?_) hpages, ?_⟩
      · have hlength := congrArg List.length (hitems.symm.trans hempty)
        rw [List.length_take, List.length_drop, List.length_nil] at hlength
        omega
      · rw [List.flatMap_cons, hitems, hout, ← List.drop_drop, List.take_append_drop]

theorem Paged.first (h : Paged fetch items size s offset pages) :
    ∃ page, fetch offset s = .ok page s := by
  cases h with
  | done h | next h => exact ⟨_, h⟩

theorem Paged.last (h : Paged fetch items size s offset pages) :
    ∃ n page, fetch (offset + n * size) s = .ok page s ∧ items page = [] := by
  induction h with
  | done h hempty => exact ⟨0, _, by simpa using h, hempty⟩
  | next _ _ _ ih =>
    obtain ⟨n, page, h, hempty⟩ := ih
    exact ⟨n + 1, page, by rwa [Nat.add_one_mul, Nat.add_comm (n * _), ← Nat.add_assoc], hempty⟩

end

section
variable {α β : Type} {f : α → Except Fault β} {xs : List α} {ys : List β}

theorem mapM_ok : xs.mapM f = .ok ys ↔ List.Forall₂ (fun x y => f x = .ok y) xs ys := by
  induction xs generalizing ys with
  | nil =>
    rw [List.mapM_nil, pure_ok, List.forall₂_nil_left_iff, eq_comm]
  | cons x xs ih =>
    simp only [List.mapM_cons, bind_ok, pure_ok, ih, List.forall₂_cons_left_iff]
    constructor
    · rintro ⟨y, hy, ys, hys, rfl⟩
      exact ⟨y, ys, hy, hys, rfl⟩
    · rintro ⟨y, ys, hy, hys, rfl⟩
      exact ⟨y, hy, ys, hys, rfl⟩

theorem mapM_slice (h : xs.mapM f = .ok ys) (offset size : Nat) :
    ((xs.drop offset).take size).mapM f = .ok ((ys.drop offset).take size) :=
  mapM_ok.mpr (List.forall₂_take size (List.forall₂_drop offset (mapM_ok.mp h)))

end

theorem Store.lift_ok {α : Type} {x : Except Fault α} {a : α} {s s' : Store} :
    Store.lift x s = .ok a s' ↔ x = .ok a ∧ s = s' := by
  constructor
  · intro h
    cases x <;> cases h
    exact ⟨rfl, rfl⟩
  · rintro ⟨rfl, rfl⟩
    rfl

theorem Queue.Table.page_eq {α : Type} (size : Nat) (offset : Int) (xs : List α) :
    page (some (size : Int)) offset xs = (xs.drop offset.toNat).take size := by
  simp [page]

theorem Queue.isStorable_nat {n : Nat} (h : n < 2 ^ 63) : Queue.isStorable n = true := by
  simp only [Queue.isStorable, Bool.and_eq_true, decide_eq_true_eq]
  omega

-- ---------------------------------------------------------------------------
-- The rows of the queue
-- ---------------------------------------------------------------------------

namespace Queue

/-- Whether a row passes a filter; an empty text filters nothing. -/
def Row.Passes (state : Option DeliveryState) (channel : Option String) (r : Row) : Prop :=
  (∀ st ∈ state, r.state = st) ∧ ∀ c ∈ channel, c = "" ∨ r.channel = c

instance (state : Option DeliveryState) (channel : Option String) :
    DecidablePred (Row.Passes state channel) := fun _ => inferInstanceAs (Decidable (_ ∧ _))

variable {state : Option DeliveryState} {channel : Option String} {s : Store} {found : List Row}
  {size offset : Nat}

theorem Row.matches_iff (state : Option DeliveryState) (channel : Option String) (r : Row) :
    (state.all (r.state == ·) && (Table.wanted channel).all (r.channel == ·)) =
      decide (r.Passes state channel) := by
  rw [Bool.eq_iff_iff, decide_eq_true_eq, Passes]
  cases state <;> cases channel with
  | none => simp [Table.wanted]
  | some c => by_cases hc : c = "" <;> simp [Table.wanted, Option.filter, hc]

theorem read_known (h : ∀ st ∈ state, st ∈ DeliveryState.known) :
    (Table.wanted (state.map (·.name))).mapM DeliveryState.read =
      (.ok state : Except Fault (Option DeliveryState)) := by
  cases state with
  | none => rfl
  | some st =>
    have hst := h st rfl
    simp only [DeliveryState.known, List.mem_cons, List.not_mem_nil, or_false] at hst
    rcases hst with rfl | rfl | rfl | rfl | rfl | rfl <;> rfl

theorem matching_lists (hids : (s.queue.rows.map (·.id)).Nodup) (state : Option DeliveryState)
    (channel : Option String) :
    Lists (·.createdAt) (·.id) (Row.Passes state channel) s.queue.rows
      (s.queue.matching state (Table.wanted channel)) :=
  .of_mergeSort hids (Row.matches_iff state channel) fun a b => by rw [Row.listedBefore]

theorem Row.entry_of_known {r : Row} (h : r.state ∈ DeliveryState.known) :
    r.entry = .ok r.toEntry := by
  unfold entry
  split
  next hforeign => simp [hforeign, DeliveryState.known] at h
  · rfl

section
variable (hup : s.isUp = true) (hstate : ∀ st ∈ state, st ∈ DeliveryState.known)
  (hfound : s.queue.matching state (Table.wanted channel) = found)
include hup hstate hfound

theorem entries_run {size offset : Nat} (hsize : size < 2 ^ 63) (hoffset : offset < 2 ^ 63) :
    Store.entries (state.map (·.name)) channel (some size) offset s =
      Store.lift (((found.drop offset).take size).mapM Row.entry) s := by
  have hst : storable [(size : Int), offset] = .ok () :=
    storable_of_forall (by simp [isStorable_nat hsize, isStorable_nat hoffset])
  have hread : Store.entries (state.map (·.name)) channel (some size) offset s =
      Store.query "list_entries" (fun s => s.queue.list state (Table.wanted channel) (some size)
        offset) s := by
    rw [Store.entries, read_known hstate]
    rfl
  rw [hread, Store.query_run, if_pos hup, Table.list, hfound]
  simp only [Option.toList_some, List.singleton_append, hst, ok_bind, Table.page_eq,
    Int.toNat_natCast]

theorem entries_paged (hsize : 0 < size) (hmax : size ≤ 500)
    (hroom : found.length + size ≤ 2 ^ 63) (hknown : ∀ r ∈ found, r.state ∈ DeliveryState.known) :
    ∃ pages, Paged (fun offset => Store.entries (state.map (·.name)) channel (some size) offset)
      id size s 0 pages ∧ pages.flatten = found.map Row.toEntry := by
  have hshown : found.mapM Row.entry = .ok (found.map Row.toEntry) :=
    mapM_ok.mpr (List.forall₂_map_right_iff.mpr (List.forall₂_same.mpr fun r hr =>
      Row.entry_of_known (hknown r hr)))
  have hfetch (offset : Nat) (hoffset : offset < 2 ^ 63) : ∃ page,
      Store.entries (state.map (·.name)) channel (some size) offset s = .ok page s ∧
        id page = ((found.map Row.toEntry).drop offset).take size := by
    refine ⟨_, ?_, rfl⟩
    rw [entries_run hup hstate hfound (by omega) hoffset, mapM_slice hshown]
    rfl
  obtain ⟨pages, hpages, hout⟩ :=
    Paged.of_slices hsize (by rwa [List.length_map]) hfetch 0 (by decide)
  exact ⟨pages, hpages, by rwa [List.flatMap_id] at hout⟩

end

end Queue

-- ---------------------------------------------------------------------------
-- The attempts of the history
-- ---------------------------------------------------------------------------

namespace History

def Attempt.Passes (status : Option Status) (channel : Option String) (a : Attempt) : Prop :=
  (∀ st ∈ status, a.status = st) ∧ ∀ c ∈ channel, c = "" ∨ a.channel = c

instance (status : Option Status) (channel : Option String) :
    DecidablePred (Attempt.Passes status channel) :=
  fun _ => inferInstanceAs (Decidable (_ ∧ _))

variable {status : Option Status} {channel : Option String} {s : Store} {found : List Attempt}
  {items : List Value} {size offset : Nat}

theorem Attempt.matches_iff (status : Option Status) (channel : Option String) (a : Attempt) :
    ((Queue.Table.wanted channel).all (a.channel == ·) && status.all (a.status == ·)) =
      decide (a.Passes status channel) := by
  rw [Bool.eq_iff_iff, decide_eq_true_eq, Passes]
  cases status <;> cases channel with
  | none => simp [Queue.Table.wanted]
  | some c => by_cases hc : c = "" <;> simp [Queue.Table.wanted, Option.filter, hc, and_comm]

theorem read_known (h : ∀ st ∈ status, st ∈ Status.known) :
    (Queue.Table.wanted (status.map (·.name))).mapM Status.read =
      (.ok status : Except Fault (Option Status)) := by
  cases status with
  | none => rfl
  | some st =>
    have hst := h st rfl
    simp only [Status.known, List.mem_cons, List.not_mem_nil, or_false] at hst
    rcases hst with rfl | rfl | rfl <;> rfl

theorem matching_lists (hids : (s.history.attempts.map (·.id)).Nodup) (status : Option Status)
    (channel : Option String) :
    Lists (·.sentAt) (·.id) (Attempt.Passes status channel) s.history.attempts
      (s.history.matching (Queue.Table.wanted channel) status) :=
  .of_mergeSort hids (Attempt.matches_iff status channel) fun a b => by rw [Attempt.listedBefore]

theorem item_of_known {a : Attempt} (h : a.status ∈ Status.known) : ∃ v, a.item = .ok v := by
  unfold Attempt.item
  split
  next hforeign => simp [hforeign, Status.known] at h
  · exact ⟨_, rfl⟩

theorem clampLimit_clampLimit (limit : Int) :
    Log.clampLimit (max 1 (min limit 500)) = Log.clampLimit limit := by
  unfold Log.clampLimit Log.maxPageSize
  omega

theorem attempts_clamped (channel status : Option String) (limit offset : Int) :
    Store.attempts channel status limit offset =
      Store.attempts channel status (max 1 (min limit 500)) (max 0 offset) := by
  simp only [Store.attempts, Log.list, clampLimit_clampLimit,
    max_eq_right (le_max_left (0 : Int) offset)]

section
variable (hup : s.isUp = true) (hstatus : ∀ st ∈ status, st ∈ Status.known)
  (hfound : s.history.matching (Queue.Table.wanted channel) status = found)
include hup hstatus hfound

theorem attempts_run (limit : Int) (hoffset : offset < 2 ^ 63) :
    Store.attempts channel (status.map (·.name)) limit offset s =
      Store.lift ((((found.drop offset).take (Log.clampLimit limit).toNat).mapM
        Attempt.item).map fun items => ⟨items, found.length, Log.clampLimit limit, offset⟩) s := by
  have hst : Queue.storable [(offset : Int)] = .ok () :=
    Queue.storable_of_forall (by simp [Queue.isStorable_nat hoffset])
  have hread : Store.attempts channel (status.map (·.name)) limit offset s =
      Store.query "list_history" (fun s => s.history.list (Queue.Table.wanted channel) status limit
        offset) s := by
    rw [Store.attempts, read_known hstatus]
    rfl
  have hlimit : (Log.clampLimit limit).toNat = Log.clampLimit limit := by
    unfold Log.clampLimit Log.maxPageSize
    omega
  rw [hread, Store.query_run, if_pos hup, Log.list, hfound, ← hlimit]
  simp only [max_eq_right (Int.natCast_nonneg offset), hst, ok_bind, Queue.Table.page_eq,
    Int.toNat_natCast]
  rfl

theorem attempts_paged (hsize : 0 < size) (hmax : size ≤ 500)
    (hroom : found.length + size ≤ 2 ^ 63) (hknown : ∀ a ∈ found, a.status ∈ Status.known) :
    ∃ pages items, Paged (fun offset => Store.attempts channel (status.map (·.name)) size offset)
      (·.items) size s 0 pages ∧ found.mapM Attempt.item = .ok items ∧
      pages.flatMap (·.items) = items := by
  obtain ⟨items, hitems⟩ : ∃ items, found.mapM Attempt.item = .ok items := by
    choose! shown hshown using fun a (ha : a ∈ found) => item_of_known (hknown a ha)
    exact ⟨found.map shown, mapM_ok.mpr (List.forall₂_map_right_iff.mpr
      (List.forall₂_same.mpr hshown))⟩
  have hfetch (offset : Nat) (hoffset : offset < 2 ^ 63) : ∃ page,
      Store.attempts channel (status.map (·.name)) size offset s = .ok page s ∧
        page.items = (items.drop offset).take size := by
    have hclamp : (Log.clampLimit size).toNat = size := by
      unfold Log.clampLimit Log.maxPageSize
      omega
    refine ⟨⟨(items.drop offset).take size, found.length, Log.clampLimit size, offset⟩, ?_, rfl⟩
    rw [attempts_run hup hstatus hfound size hoffset, hclamp, mapM_slice hitems]
    rfl
  have hlength : items.length = found.length := (mapM_ok.mp hitems).length_eq.symm
  obtain ⟨pages, hpages, hout⟩ :=
    Paged.of_slices hsize (by rwa [hlength]) hfetch 0 (by decide)
  exact ⟨pages, items, hpages, hitems, hout⟩

end

end History

-- ---------------------------------------------------------------------------
-- Both listings
-- ---------------------------------------------------------------------------

section
variable {s : Store}

/-- The pages of a listing show all that passes its filter, each once and
newest first, as long as every state that is found is a known one and every
offset can be asked for; a page of the history tells how many there are, and
keeps its limit and offset within bounds. A page on which a foreign state would
stand is refused. -/
theorem listings_paged (hup : s.isUp = true) (hrows : (s.queue.rows.map (·.id)).Nodup)
    (hattempts : (s.history.attempts.map (·.id)).Nodup) (channel : Option String) :
    (∀ state : Option DeliveryState, (∀ st ∈ state, st ∈ DeliveryState.known) →
      ∃ found, Lists (·.createdAt) (·.id) (Queue.Row.Passes state channel) s.queue.rows found ∧
        ∀ size : Nat, 1 ≤ size → size ≤ 500 →
          (∀ offset : Nat, offset < 2 ^ 63 →
            Store.entries (state.map (·.name)) channel (some size) offset s =
              Store.lift (((found.drop offset).take size).mapM Queue.Row.entry) s) ∧
          ((∀ r ∈ found, r.state ∈ DeliveryState.known) → found.length + size ≤ 2 ^ 63 →
            ∃ pages, Paged (fun offset =>
                Store.entries (state.map (·.name)) channel (some size) offset) id size s 0 pages ∧
              pages.flatten = found.map Queue.Row.toEntry)) ∧
    (∀ status : Option History.Status, (∀ st ∈ status, st ∈ History.Status.known) →
      ∃ found, Lists (·.sentAt) (·.id) (History.Attempt.Passes status channel) s.history.attempts
          found ∧
        (∀ (limit : Int) (offset : Nat), offset < 2 ^ 63 →
          Store.attempts channel (status.map (·.name)) limit offset s =
            Store.lift ((((found.drop offset).take (max 1 (min limit 500)).toNat).mapM
              History.Attempt.item).map fun items =>
                ⟨items, found.length, max 1 (min limit 500), offset⟩) s) ∧
        ∀ size : Nat, 1 ≤ size → size ≤ 500 →
          (∀ a ∈ found, a.status ∈ History.Status.known) → found.length + size ≤ 2 ^ 63 →
            ∃ pages items, Paged (fun offset =>
                Store.attempts channel (status.map (·.name)) size offset) (·.items) size s 0 pages ∧
              found.mapM History.Attempt.item = .ok items ∧ pages.flatMap (·.items) = items) ∧
    ∀ (status : Option String) (limit offset : Int), Store.attempts channel status limit offset =
      Store.attempts channel status (max 1 (min limit 500)) (max 0 offset) := by
  refine ⟨fun state hstate => ?_, fun status hstatus => ?_,
    fun status limit offset => History.attempts_clamped channel status limit offset⟩
  · refine ⟨_, Queue.matching_lists hrows state channel, fun size hsize hmax =>
      ⟨fun offset hoffset => ?_, fun hknown hroom => ?_⟩⟩
    · exact Queue.entries_run hup hstate rfl (by omega) hoffset
    · exact Queue.entries_paged hup hstate rfl hsize hmax hroom hknown
  · refine ⟨_, History.matching_lists hattempts status channel, fun limit offset hoffset => ?_,
      fun size hsize hmax hknown hroom => ?_⟩
    · exact History.attempts_run hup hstatus rfl limit hoffset
    · exact History.attempts_paged hup hstatus rfl hsize hmax hroom hknown

def mailbox : Store := { queue := ⟨[
  { id := 1, channel := "email", body := "", createdAt := .first, updatedAt := .first },
  { id := 2, channel := "email", body := "", state := .delivered, createdAt := .clockStart,
    updatedAt := .clockStart },
  { id := 3, channel := "slack", body := "", createdAt := .clockStart, updatedAt := .clockStart },
  { id := 4, channel := "email", body := "", createdAt := .first, updatedAt := .first }]⟩ }

theorem mailbox_lists : Lists (·.createdAt) (·.id) (Queue.Row.Passes none (some "email"))
    mailbox.queue.rows ([1, 3, 0].filterMap (mailbox.queue.rows[·]?)) where
  perm := by decide +kernel
  ordered := by decide +kernel

theorem listings_paged_mailbox : ∃ pages, Paged (fun offset =>
      Store.entries none (some "email") (some 2) offset) id 2 mailbox 0 pages ∧
    pages.flatten.map (·.id) = [2, 4, 1] := by
  obtain ⟨hentries, -, -⟩ :=
    listings_paged (s := mailbox) rfl (by decide) (by decide) (some "email")
  obtain ⟨found, hfound, hpages⟩ := hentries none (by simp)
  obtain rfl := hfound.unique mailbox_lists
  obtain ⟨pages, hpages, hout⟩ :=
    (hpages 2 (by decide) (by decide)).2 (by decide +kernel) (by decide +kernel)
  refine ⟨pages, hpages, ?_⟩
  rw [hout]
  decide +kernel

/-- A row and an attempt whose states are words of another version. -/
def outdated : Store := {
  queue := ⟨[
  { id := 1, channel := "x", body := "", state := .foreign "weird", createdAt := .clockStart,
    updatedAt := .clockStart }]⟩
  history := ⟨[
  { id := 1, channel := "x", status := .foreign "weird", sentAt := .clockStart }]⟩ }

def crowded (n : Nat) : Store := { queue := ⟨(List.range n).map fun i : Nat =>
  { id := i, channel := "x", body := "", createdAt := .clockStart, updatedAt := .clockStart }⟩ }

theorem crowded_ids (n : Nat) : ((crowded n).queue.rows.map (·.id)).Nodup := by
  rw [crowded, List.map_map]
  exact List.nodup_range.map fun i j h => Int.ofNat.inj h

theorem no_state : ∀ st ∈ (none : Option DeliveryState), st ∈ DeliveryState.known := by simp

theorem entries_too_far (hup : s.isUp = true) (channel : Option String) (limit : Option Int)
    {offset : Nat} (hoffset : 2 ^ 63 ≤ offset) :
    Store.entries none channel limit offset s = .error Queue.tooLargeToStore s := by
  have hst : Queue.storable (limit.toList ++ [(offset : Int)]) = .error Queue.tooLargeToStore := by
    have hlarge : Queue.isStorable offset = false := by
      simp only [Queue.isStorable, Bool.and_eq_false_iff, decide_eq_false_iff_not]
      omega
    simp [Queue.storable, hlarge]
  have hread : Store.entries none channel limit offset s = Store.query "list_entries"
      (fun s => s.queue.list none (Queue.Table.wanted channel) limit offset) s := rfl
  rw [hread, Store.query_run, if_pos hup, Queue.Table.list, hst]
  rfl

/-- The last page of too many rows has an offset that no column can hold. -/
theorem crowded_not_paged {n : Nat} (hn : 2 ^ 63 ≤ n) {pages : List (List Queue.Entry)} :
    ¬ Paged (fun offset => Store.entries none none (some 1) offset) id 1 (crowded n) 0 pages := by
  intro h
  obtain ⟨k, page, hpage, hempty⟩ := h.last
  rw [Nat.zero_add, Nat.mul_one] at hpage
  by_cases hk : k < 2 ^ 63
  · have hrun := Queue.entries_run (s := crowded n) rfl no_state
      (show (crowded n).queue.matching none (Queue.Table.wanted none) = _ from rfl)
      (show 1 < 2 ^ 63 by decide) hk
    have hshown := (Store.lift_ok.mp (hrun.symm.trans hpage)).1
    have hlength := (mapM_ok.mp hshown).length_eq
    rw [show page = [] from hempty, List.length_take, List.length_drop, Queue.Table.matching,
      List.length_mergeSort, crowded] at hlength
    simp [Queue.Table.wanted] at hlength
    omega
  · rw [entries_too_far rfl none (some 1) (Nat.le_of_not_lt hk)] at hpage
    cases hpage

/-- A listing stops at a state that it does not know, and at an offset that no
column can hold. -/
theorem listings_not_always_paged :
    (¬ ∀ s : Store, s.isUp = true → (s.history.attempts.map (·.id)).Nodup → ∃ pages,
      Paged (fun offset => Store.attempts none none 50 offset) (·.items) 50 s 0 pages) ∧
    (¬ ∀ s : Store, s.isUp = true → (s.queue.rows.map (·.id)).Nodup → ∃ pages,
      Paged (fun offset => Store.entries none none (some 50) offset) id 50 s 0 pages) ∧
    ¬ ∀ s : Store, s.isUp = true → (s.queue.rows.map (·.id)).Nodup →
      (∀ r ∈ s.queue.rows, r.state ∈ DeliveryState.known) → ∃ pages,
        Paged (fun offset => Store.entries none none (some 1) offset) id 1 s 0 pages := by
  refine ⟨fun h => ?_, fun h => ?_, fun h => ?_⟩
  · obtain ⟨pages, hpages⟩ := h outdated rfl (by decide)
    obtain ⟨page, hpage⟩ := hpages.first
    have hrun := History.attempts_run (s := outdated) rfl
      (show ∀ st ∈ (none : Option History.Status), st ∈ History.Status.known by simp)
      (show outdated.history.matching (Queue.Table.wanted none) none = _ from
        List.mergeSort_singleton _) 50 (show 0 < 2 ^ 63 by decide)
    cases hrun.symm.trans hpage
  · obtain ⟨pages, hpages⟩ := h outdated rfl (by decide)
    obtain ⟨page, hpage⟩ := hpages.first
    have hrun := Queue.entries_run (s := outdated) rfl no_state
      (show outdated.queue.matching none (Queue.Table.wanted none) = _ from
        List.mergeSort_singleton _) (show 50 < 2 ^ 63 by decide) (show 0 < 2 ^ 63 by decide)
    cases hrun.symm.trans hpage
  · obtain ⟨n, hn⟩ : ∃ n : Nat, 2 ^ 63 ≤ n := ⟨_, Nat.le_refl _⟩
    obtain ⟨pages, hpages⟩ := h (crowded n) rfl (crowded_ids n) fun r hr => by
      obtain ⟨i, -, rfl⟩ := List.mem_map.mp hr
      exact List.mem_cons_self
    exact crowded_not_paged hn hpages

end

end AlertDelivery
