import AlertDelivery.Proofs.OpLaws
import AlertDelivery.Proofs.Queue.TableLaws
import AlertDelivery.Proofs.Queue.Tallies
import Mathlib.Algebra.BigOperators.Group.List.Basic

/-!
# Summaries of the history

A summary counts the attempts of a window twice, by status and by channel and
status. Both counts are exact, so the second one splits the first among the
channels, and neither can fall when the window grows.
-/

namespace AlertDelivery.History

open Queue (Table)

-- ---------------------------------------------------------------------------
-- Names without repetition
-- ---------------------------------------------------------------------------

namespace Log

theorem mem_distinct {names : List String} {name : String} :
    name ∈ distinct names ↔ name ∈ names := List.mem_eraseDups

theorem distinct_nodup (names : List String) : (distinct names).Nodup :=
  Queue.eraseDups_nodup names

end Log

/-- What has a property is counted once, under its own key. -/
theorem sum_countP_keys {α : Type} {key : α → String} {p : α → Prop} [DecidablePred p]
    {keys : List String} (hkeys : keys.Nodup) {xs : List α} (hxs : ∀ x ∈ xs, key x ∈ keys) :
    (keys.map fun k => xs.countP fun x => key x = k ∧ p x).sum = xs.countP fun x => p x := by
  induction xs with
  | nil => simp
  | cons x xs ih =>
    obtain ⟨hx, hrest⟩ := List.forall_mem_cons.mp hxs
    have hown : (keys.map fun k => if key x = k ∧ p x then 1 else 0).sum =
        if p x then 1 else 0 := by
      rw [List.sum_map_eq_nsmul_single (key x) _ fun k hk _ => if_neg fun h => hk h.1.symm,
        List.count_eq_one_of_mem hkeys hx]
      simp
    simp only [List.countP_cons, decide_eq_true_eq, List.sum_map_add, ih hrest, hown]

-- ---------------------------------------------------------------------------
-- One summary
-- ---------------------------------------------------------------------------

namespace Log.Summary

def statusCount (s : Summary) (word : String) : Nat := (s.byStatus.lookup word).getD 0

def channelCount (s : Summary) (channel word : String) : Nat :=
  ((s.byChannel.lookup channel).bind (·.lookup word)).getD 0

def quotient? (dividend : Rat) (divisor : Nat) : Option Rat :=
  if divisor = 0 then none else some (dividend / divisor)

/-- The delivery rate by a division that can fail. -/
def deliveryRate? (s : Summary) : Option Binary64 :=
  if s.total = 0 then some (.finite 0)
  else (quotient? (100 * s.delivered) s.total).map fun q =>
    Binary64.roundPlaces 2 (valueOf (Binary64.nearest q))

theorem deliveryRate?_eq (s : Summary) : s.deliveryRate? = some s.deliveryRate := by
  unfold deliveryRate? deliveryRate
  split
  · rfl
  next hsome =>
    rw [quotient?, if_neg hsome]
    rfl

/-- Counts that are exact for a list of attempts, and rates that are there even
if it is empty. -/
structure Partitions (s : Summary) (found : List Attempt) : Prop where
  total : s.total = found.length
  statuses : (s.byStatus.map (·.1)).Nodup ∧ ∀ word n, (word, n) ∈ s.byStatus ↔
    0 < n ∧ n = found.countP fun a => a.status.name = word
  statusSum : (s.byStatus.map (·.2)).sum = s.total
  channels : (s.byChannel.map (·.1)).Nodup ∧
    ∀ p ∈ s.byChannel, p.2 ≠ [] ∧ (p.2.map (·.1)).Nodup
  counts : ∀ channel word n,
    (∃ counts, (channel, counts) ∈ s.byChannel ∧ (word, n) ∈ counts) ↔
      0 < n ∧ n = found.countP fun a => a.channel = channel ∧ a.status.name = word
  channelSum : ∀ word, (s.byChannel.map fun p => (p.2.lookup word).getD 0).sum =
    (s.byStatus.lookup word).getD 0
  divided : s.deliveryRate? = some s.deliveryRate
  empty : s.total = 0 → s.deliveryRate = .finite 0 ∧ s.errorRate = .finite 0

end Log.Summary

namespace Log

variable {log : Log} {since wider : Option Instant} {found : List Attempt} {channel word : String}

theorem count_map {α : Type} (xs : List α) (f : α → String) (k : String) :
    (xs.map f).count k = xs.countP fun x => f x = k := by
  rw [List.count_eq_countP, List.countP_map]
  rfl

theorem lookup_keys {α : Type} (keys : List String) (f : String → α) (k : String) :
    (keys.map fun k => (k, f k)).lookup k = if k ∈ keys then some (f k) else none := by
  induction keys with
  | nil => rfl
  | cons key rest ih =>
    rw [List.map_cons, List.lookup_cons, ih]
    by_cases hk : k = key
    · simp [hk]
    · rw [beq_eq_false_iff_ne.mpr hk]
      simp [hk]

def wordsOn (found : List Attempt) (channel : String) : List String :=
  (found.filter (·.channel == channel)).map (·.status.name)

theorem byChannel_eq (log : Log) (since : Option Instant) : (log.summary since).byChannel =
    (distinct ((log.window since).map (·.channel))).map fun channel =>
      (channel, Table.tallies (wordsOn (log.window since) channel)) := rfl

theorem count_wordsOn (found : List Attempt) (channel word : String) :
    (wordsOn found channel).count word =
      found.countP fun a => a.channel = channel ∧ a.status.name = word := by
  rw [wordsOn, count_map, List.countP_filter]
  exact List.countP_congr fun a _ => by simp [and_comm]

theorem wordsOn_eq_nil (h : channel ∉ found.map (·.channel)) : wordsOn found channel = [] := by
  rw [wordsOn, List.map_eq_nil_iff, List.filter_eq_nil_iff]
  exact fun a ha hc => h (List.mem_map.mpr ⟨a, ha, by simpa using hc⟩)

theorem statusCount_eq (log : Log) (since : Option Instant) (word : String) :
    (log.summary since).statusCount word =
      (log.window since).countP fun a => a.status.name = word := by
  rw [Summary.statusCount, summary, Table.getD_lookup_tallies, count_map]

theorem channelCount_eq (log : Log) (since : Option Instant) (channel word : String) :
    (log.summary since).channelCount channel word =
      (log.window since).countP fun a => a.channel = channel ∧ a.status.name = word := by
  rw [Summary.channelCount, byChannel_eq, lookup_keys, ← count_wordsOn]
  split
  · rw [Option.bind_some, Table.getD_lookup_tallies]
  next hnone =>
    rw [wordsOn_eq_nil (mt mem_distinct.mpr hnone)]
    rfl

theorem total_eq (log : Log) (since : Option Instant) :
    (log.summary since).total = (log.window since).length := by
  rw [Summary.total, summary, Table.countTotal_tallies, List.length_map]

theorem summary_partitions (log : Log) (since : Option Instant) :
    (log.summary since).Partitions (log.window since) where
  total := total_eq log since
  statuses := by
    refine ⟨Table.tallies_nodup _, fun word n => ?_⟩
    rw [summary, Table.mem_tallies, count_map]
  statusSum := by rw [Summary.total, Table.countTotal_eq_sum]
  channels := by
    rw [byChannel_eq]
    refine ⟨?_, fun p hp => ?_⟩
    · rw [List.map_map]
      exact (List.map_id _).symm ▸ distinct_nodup _
    · obtain ⟨channel, hchannel, rfl⟩ := List.mem_map.mp hp
      refine ⟨fun hnil => ?_, Table.tallies_nodup _⟩
      obtain ⟨a, ha, rfl⟩ := List.mem_map.mp (mem_distinct.mp hchannel)
      have hword : a.status.name ∈ wordsOn (log.window since) a.channel :=
        List.mem_map_of_mem (List.mem_filter.mpr ⟨ha, beq_self_eq_true _⟩)
      have hcount := Table.mem_tallies.mpr ⟨List.count_pos_iff.mpr hword, rfl⟩
      rw [show Table.tallies _ = [] from hnil] at hcount
      cases hcount
  counts channel word n := by
    rw [byChannel_eq, ← count_wordsOn, ← Table.mem_tallies]
    constructor
    · rintro ⟨counts, hcounts, hword⟩
      obtain ⟨name, -, hname⟩ := List.mem_map.mp hcounts
      cases hname
      exact hword
    · intro hword
      refine ⟨_, List.mem_map.mpr ⟨channel, mem_distinct.mpr ?_, rfl⟩, hword⟩
      by_contra hnone
      rw [wordsOn_eq_nil hnone] at hword
      cases hword
  channelSum word := by
    rw [byChannel_eq, List.map_map]
    simp only [Function.comp_def, Table.getD_lookup_tallies, count_wordsOn]
    rw [sum_countP_keys (distinct_nodup _) fun a ha => mem_distinct.mpr (List.mem_map_of_mem ha)]
    exact (statusCount_eq log since word).symm
  divided := Summary.deliveryRate?_eq _
  empty htotal := ⟨if_pos htotal, if_pos htotal⟩

theorem window_sublist (log : Log) (h : ∀ t ∈ wider, ∃ t' ∈ since, t ≤ t') :
    (log.window since).Sublist (log.window wider) := by
  refine List.monotone_filter_right log.attempts fun a ha => ?_
  rw [Option.all_eq_true] at ha ⊢
  intro t ht
  obtain ⟨t', ht', hle⟩ := h t ht
  have hsince : t' ≤ a.sentAt := of_decide_eq_true (ha t' ht')
  exact decide_eq_true (Nat.le_trans hle hsince)

end Log

/-- A summary counts the attempts since an instant, or all of them: the counts
by status are exact and add up to the total, and the counts by channel and
status are exact and add up to those by status. The rate divides by no zero,
and both rates are zero if there are no attempts. A wider window lowers no
count. -/
theorem summaries_exact {s : Store} (hup : s.isUp = true) (since : Option Instant) :
    ∃ summary, Store.summary since s = .ok summary s ∧
      summary.Partitions (s.history.attempts.filter fun a => ∀ t ∈ since, t ≤ a.sentAt) ∧
      ∀ wider : Option Instant, (∀ t ∈ wider, ∃ t' ∈ since, t ≤ t') →
        ∃ summary', Store.summary wider s = .ok summary' s ∧ summary.total ≤ summary'.total ∧
          (∀ word, summary.statusCount word ≤ summary'.statusCount word) ∧
          ∀ channel word,
            summary.channelCount channel word ≤ summary'.channelCount channel word := by
  have hrun (since : Option Instant) :
      Store.summary since s = .ok (s.history.summary since) s :=
    Store.query_up (fun s => .ok (s.history.summary since)) hup rfl
  have hwindow : s.history.window since =
      s.history.attempts.filter fun a => ∀ t ∈ since, t ≤ a.sentAt := by
    refine List.filter_congr fun a _ => ?_
    cases since <;> simp
  refine ⟨_, hrun since, hwindow ▸ s.history.summary_partitions since, fun wider hwider => ?_⟩
  have hsub := s.history.window_sublist hwider
  refine ⟨_, hrun wider, ?_, fun word => ?_, fun channel word => ?_⟩
  · rw [Log.total_eq, Log.total_eq]
    exact hsub.length_le
  · rw [Log.statusCount_eq, Log.statusCount_eq]
    exact hsub.countP_le
  · rw [Log.channelCount_eq, Log.channelCount_eq]
    exact hsub.countP_le

def busy : Store := { history := ⟨[
  { id := 1, channel := "email", status := .delivered, sentAt := .first },
  { id := 2, channel := "email", status := .failed, sentAt := .clockStart },
  { id := 3, channel := "slack", status := .deadLetter, sentAt := .clockStart },
  { id := 4, channel := "email", status := .failed, sentAt := .clockStart }]⟩ }

theorem summaries_exact_busy : ∃ summary summary',
    Store.summary (some .clockStart) busy = .ok summary busy ∧ summary.total = 3 ∧
      (∃ counts, ("email", counts) ∈ summary.byChannel ∧ ("failed", 2) ∈ counts) ∧
      Store.summary none busy = .ok summary' busy ∧ 3 ≤ summary'.total := by
  obtain ⟨summary, hrun, hexact, hwider⟩ := summaries_exact (s := busy) rfl (some .clockStart)
  obtain ⟨summary', hrun', htotal, -⟩ := hwider none (by simp)
  have hthree : summary.total = 3 := hexact.total.trans (by decide +kernel)
  exact ⟨summary, summary', hrun, hthree,
    (hexact.counts "email" "failed" 2).mpr (by decide +kernel), hrun', hthree ▸ htotal⟩

end AlertDelivery.History
