import AlertDelivery.Proofs.Policy.Overlay
import AlertDelivery.Proofs.TextLaws
import Mathlib.Algebra.Order.Ring.Rat

/-!
# Bounds of a policy

The check of a policy refuses each value that fails a comparison, and a NaN
fails none. So the counts of a policy keep their bounds whatever settings are
stored, but the limit of time is positive or a NaN; and it is a NaN only if
the setting for it spells one.
-/

namespace AlertDelivery

def Number.Positive : Number → Prop
  | .whole i => 0 < i
  | .real x => Binary64.lt (.finite 0) x = true

instance : DecidablePred Number.Positive
  | .whole i => inferInstanceAs (Decidable (0 < i))
  | .real x => inferInstanceAs (Decidable (Binary64.lt (.finite 0) x = true))

theorem Number.leInt_zero_iff {n : Number} :
    n.leInt 0 = false ↔ n.Positive ∨ n = .real .nan := by
  cases n with
  | whole i => simp [leInt, Positive]
  | real x =>
    cases x with
    | finite q =>
      have heqv : Binary64.eqv (.finite q) (.finite 0) = decide (q = 0) := by
        rw [Bool.eq_iff_iff]
        simp [Binary64.eqv]
      have hlt : Binary64.lt (.finite q) (.finite 0) = decide (q < 0) := rfl
      have hpos : Binary64.lt (.finite 0) (.finite q) = decide (0 < q) := rfl
      have hle : leInt (.real (.finite q)) 0 = (decide (q < 0) || decide (q = 0)) := by
        rw [← hlt, ← heqv]
        rfl
      have hreal : real (.finite q) ≠ real .nan := by simp
      rw [hle, Positive, hpos]
      simp only [Bool.or_eq_false_iff, decide_eq_false_iff_not, decide_eq_true_eq, hreal, or_false]
      exact ⟨fun h => lt_of_le_of_ne (not_lt.mp h.1) (Ne.symm h.2), fun h => ⟨h.not_gt, h.ne'⟩⟩
    | negZero => simp [leInt, Positive, Binary64.le, Binary64.lt, Binary64.eqv, Binary64.toRat?]
    | posInf => simp [leInt, Positive, Binary64.le, Binary64.lt, Binary64.eqv]
    | negInf => simp [leInt, Positive, Binary64.le, Binary64.lt]
    | nan => simp [leInt, Positive, Binary64.le, Binary64.lt, Binary64.eqv]

def Number.AtLeast (bound : Int) : Number → Prop
  | .whole i => bound ≤ i
  | .real x => Binary64.le (.finite bound) x = true

instance (bound : Int) : DecidablePred (Number.AtLeast bound)
  | .whole i => inferInstanceAs (Decidable (bound ≤ i))
  | .real x => inferInstanceAs (Decidable (Binary64.le (.finite bound) x = true))

theorem Number.ltInt_iff {n : Number} {bound : Int} :
    n.ltInt bound = false ↔ n.AtLeast bound ∨ n = .real .nan := by
  cases n with
  | whole i => simp [ltInt, AtLeast]
  | real x =>
    cases x with
    | finite q =>
      have heqv : Binary64.eqv (.finite bound) (.finite q) = decide ((bound : Rat) = q) := by
        rw [Bool.eq_iff_iff]
        simp [Binary64.eqv]
      have hlt : Binary64.lt (.finite q) (.finite bound) = decide (q < bound) := rfl
      have hbound : Binary64.lt (.finite bound) (.finite q) = decide ((bound : Rat) < q) := rfl
      have hreal : real (.finite q) ≠ real .nan := by simp
      rw [ltInt, hlt, AtLeast, Binary64.le, hbound, heqv]
      simp only [Bool.or_eq_true, decide_eq_false_iff_not, decide_eq_true_eq, hreal, or_false]
      exact not_lt.trans le_iff_lt_or_eq
    | negZero =>
      have heqv : Binary64.eqv (.finite bound) .negZero = decide ((bound : Rat) = 0) := by
        rw [Bool.eq_iff_iff]
        simp [Binary64.eqv]
      have hlt : Binary64.lt .negZero (.finite bound) = decide ((0 : Rat) < bound) := rfl
      have hbound : Binary64.lt (.finite bound) .negZero = decide ((bound : Rat) < 0) := rfl
      have hreal : real .negZero ≠ real .nan := by simp
      rw [ltInt, hlt, AtLeast, Binary64.le, hbound, heqv]
      simp only [Bool.or_eq_true, decide_eq_false_iff_not, decide_eq_true_eq, hreal, or_false]
      exact not_lt.trans le_iff_lt_or_eq
    | posInf => simp [ltInt, AtLeast, Binary64.le, Binary64.lt]
    | negInf => simp [ltInt, AtLeast, Binary64.le, Binary64.lt, Binary64.eqv]
    | nan => simp [ltInt, AtLeast, Binary64.le, Binary64.lt, Binary64.eqv]

-- ---------------------------------------------------------------------------
-- Texts that spell a NaN
-- ---------------------------------------------------------------------------

namespace Numeral

open Text

/-- A text spells a NaN: the word in letters of either case, after a sign or
none, with blanks around it. -/
def SpellsNan (raw : String) : Prop :=
  (takeSign (trim raw).toList).2.map Char.toLower = ['n', 'a', 'n']

instance (raw : String) : Decidable (SpellsNan raw) := inferInstanceAs (Decidable (_ = _))

theorem nearest_ne_nan (q : Rat) : Binary64.nearest q ≠ .nan := by
  unfold Binary64.nearest
  dsimp only
  split_ifs <;> exact nofun

theorem scaled_ne_nan (n : Nat) (e : Int) : scaled n e ≠ .nan := by
  unfold scaled
  dsimp only
  split_ifs
  · exact nofun
  · exact nofun
  · exact nofun
  · exact nearest_ne_nan _

theorem readSize?_nan_iff {cs : List Char} :
    readSize? cs = some .nan ↔ cs.map Char.toLower = ['n', 'a', 'n'] := by
  have hword (word : String) : (String.ofList (cs.map Char.toLower) == word) = true ↔
      cs.map Char.toLower = word.toList := by
    rw [beq_iff_eq, ← String.toList_inj, String.toList_ofList]
  unfold readSize?
  dsimp only
  split_ifs with hinf hnan hempty
  · rw [Bool.or_eq_true, hword, hword] at hinf
    refine iff_of_false nofun fun h => ?_
    rw [h] at hinf
    exact absurd hinf (by decide)
  · exact iff_of_true rfl ((hword "nan").mp hnan)
  · exact iff_of_false nofun fun h => hnan ((hword "nan").mpr h)
  · refine iff_of_false (fun h => ?_) fun h => hnan ((hword "nan").mpr h)
    obtain ⟨e, -, he⟩ := Option.map_eq_some_iff.mp h
    exact scaled_ne_nan _ _ he

theorem neg_eq_nan_iff {x : Binary64} : x.neg = .nan ↔ x = .nan := by
  cases x with
  | finite q =>
    simp only [Binary64.neg]
    split_ifs <;> exact iff_of_false nofun nofun
  | negZero | posInf | negInf => exact iff_of_false nofun nofun
  | nan => exact iff_of_true rfl rfl

theorem readReal?_nan_iff {s : String} :
    readReal? s = some .nan ↔ (takeSign (plainChars s)).2.map Char.toLower = ['n', 'a', 'n'] := by
  have hsign (minus : Bool) (x : Binary64) :
      (if minus then x.neg else x) = .nan ↔ x = .nan := by
    cases minus
    · exact Iff.rfl
    · exact neg_eq_nan_iff
  unfold readReal?
  dsimp only
  rw [← readSize?_nan_iff, Option.map_eq_some_iff]
  simp only [hsign, exists_eq_right]

theorem toNat_toLower (c : Char) : c.toLower.toNat =
    if 65 ≤ c.toNat ∧ c.toNat ≤ 90 then c.toNat + 32 else c.toNat := by
  have hupper : (c.val ≥ 'A'.val ∧ c.val ≤ 'Z'.val) ↔ (65 ≤ c.toNat ∧ c.toNat ≤ 90) := by
    simp only [ge_iff_le, UInt32.le_iff_toNat_le]
    rfl
  unfold Char.toLower
  by_cases h : 65 ≤ c.toNat ∧ c.toNat ≤ 90
  · rw [dif_pos (hupper.mpr h), if_pos h]
    have hsum : (c.val + ('a'.val - 'A'.val)).toNat = (c.toNat + 32) % 2 ^ 32 :=
      UInt32.toNat_add _ _
    exact hsum.trans (Nat.mod_eq_of_lt (by omega))
  · rw [dif_neg (mt hupper.mp h), if_neg h]

theorem mem_takeSign {cs : List Char} {c : Char} (h : c ∈ cs) :
    c = '-' ∨ c = '+' ∨ c ∈ (takeSign cs).2 := by
  unfold takeSign
  split
  · rcases List.mem_cons.mp h with hc | hc
    · exact .inl hc
    · exact .inr (.inr hc)
  · rcases List.mem_cons.mp h with hc | hc
    · exact .inr (.inl hc)
    · exact .inr (.inr hc)
  · exact .inr (.inr h)

theorem plain_of_nan {cs : List Char} (h : (takeSign cs).2.map Char.toLower = ['n', 'a', 'n'])
    {c : Char} (hc : c ∈ cs) : c.toNat < 128 ∧ ¬(48 ≤ c.toNat ∧ c.toNat < 58) := by
  rcases mem_takeSign hc with rfl | rfl | hc
  · decide
  · decide
  · have hletter : c.toLower ∈ ['n', 'a', 'n'] := h ▸ List.mem_map_of_mem hc
    have hcode : c.toLower.toNat = 110 ∨ c.toLower.toNat = 97 := by
      rcases List.mem_cons.mp hletter with hc | hletter
      · exact .inl (congrArg Char.toNat hc)
      · rcases List.mem_cons.mp hletter with hc | hc
        · exact .inr (congrArg Char.toNat hc)
        · exact .inl (congrArg Char.toNat (List.mem_singleton.mp hc))
    rw [toNat_toLower] at hcode
    split_ifs at hcode <;> omega

theorem digitValue?_cases {c : Char} {d : Nat} (h : digitValue? c = some d) :
    d < 10 ∧ (48 ≤ c.toNat ∧ c.toNat < 58 ∨ 128 ≤ c.toNat) := by
  have hzeros : ∀ first ∈ digitZeros, first = 48 ∨ 128 ≤ first := by decide
  obtain ⟨first, hfirst, rfl⟩ := Option.map_eq_some_iff.mp h
  have hrange := List.find?_some hfirst
  simp only [Bool.and_eq_true, decide_eq_true_eq] at hrange
  have hzero := hzeros first (List.mem_of_find?_eq_some hfirst)
  omega

/-- No digit stands for a letter of the word or for a sign. -/
theorem map_plainDigit_nan_iff {cs : List Char} :
    (takeSign (cs.map plainDigit)).2.map Char.toLower = ['n', 'a', 'n'] ↔
      (takeSign cs).2.map Char.toLower = ['n', 'a', 'n'] := by
  have hdigit : ∀ d < 10, 48 ≤ (Char.ofNat (48 + d)).toNat ∧ (Char.ofNat (48 + d)).toNat < 58 := by
    decide
  have hplain {c : Char} (h : digitValue? c = none) : plainDigit c = c := by
    simp only [plainDigit, h]
  have hsame (h : ∀ c ∈ cs, digitValue? c = none) : cs.map plainDigit = cs :=
    List.map_congr_left (fun c hc => hplain (h c hc)) |>.trans (List.map_id _)
  constructor
  · intro h
    rwa [hsame fun c hc => Option.eq_none_iff_forall_ne_some.mpr fun d hd => ?_] at h
    have hout := (plain_of_nan h (List.mem_map_of_mem hc)).2
    simp only [plainDigit, hd] at hout
    exact hout (hdigit d (digitValue?_cases hd).1)
  · intro h
    rwa [hsame fun c hc => Option.eq_none_iff_forall_ne_some.mpr fun d hd => ?_]
    have hout := plain_of_nan h hc
    have hcode := (digitValue?_cases hd).2
    omega

theorem isBlank_of_padding {c : Char} (h : isPadding c = true) : isBlank c = true := by
  rw [isPadding, Bool.or_eq_true, Bool.and_eq_true] at h
  exact h.elim isBlank_of_plain fun h => h.2

/-- A text without blanks around it spells a NaN if it is read as one. -/
theorem readReal?_trim_nan_iff {raw : String} :
    readReal? (trim raw) = some .nan ↔ SpellsNan raw := by
  rw [readReal?_nan_iff, SpellsNan, plainChars, map_plainDigit_nan_iff, toList_trim,
    trimWhere_trimmed fun _ => isBlank_of_padding]

end Numeral

namespace Policy

open Numeral (SpellsNan)

variable {p base : Policy} {stored : List (String × Option String)} {raw : String} {v : Number}

-- ---------------------------------------------------------------------------
-- Usable policies
-- ---------------------------------------------------------------------------

structure Usable (p : Policy) : Prop where
  maxRetries : 1 ≤ p.maxRetries
  queueWorkers : p.queueWorkers.AtLeast 1
  batchSize : 1 ≤ p.batchSize
  ratePerMinute : 0 ≤ p.ratePerMinute
  sendTimeout : p.sendTimeout.Positive

theorem Usable.admissible (h : p.Usable) : p.Admissible :=
  admissible_iff.mpr ⟨h.maxRetries, Number.ltInt_iff.mpr (.inl h.queueWorkers), h.batchSize,
    h.ratePerMinute, Number.leInt_zero_iff.mpr (.inl h.sendTimeout)⟩

theorem Usable.sendTimeout_ne (h : p.Usable) : p.sendTimeout ≠ .real .nan := by
  intro hnan
  have hpositive := h.sendTimeout
  rw [hnan] at hpositive
  cases hpositive

theorem Admissible.usable_iff (h : p.Admissible) (hworkers : p.queueWorkers.AtLeast 1) :
    p.Usable ↔ p.sendTimeout ≠ .real .nan := by
  obtain ⟨hretries, -, hbatch, hrate, htimeout⟩ := admissible_iff.mp h
  exact ⟨Usable.sendTimeout_ne, fun hne => ⟨hretries, hworkers, hbatch, hrate,
    (Number.leInt_zero_iff.mp htimeout).resolve_right hne⟩⟩

def timeoutSetting (raw : String) : String × Option String :=
  ("notifications.send_timeout", some raw)

theorem gives_nan_iff {x : String × Option String} :
    Gives x .sendTimeout (.real .nan : Number) ↔ ∃ raw, x = timeoutSetting raw ∧ SpellsNan raw := by
  have hname : Key.sendTimeout.setting = "notifications.send_timeout" := by decide
  have hparse (raw : String) : Key.parse .sendTimeout raw = .ok (.real .nan : Number) ↔
      Numeral.readReal? raw = some .nan := by
    simp only [Key.parse]
    cases Numeral.readReal? raw with
    | none => exact iff_of_false (fun h => by cases h) (fun h => by cases h)
    | some x =>
      have hreal : (Except.ok (Number.real x) : Except Fault Number) = .ok (.real .nan) ↔
          some x = some .nan := by simp
      exact hreal
  constructor
  · rintro ⟨hsetting, raw, hraw, hnan, -⟩
    rw [hparse, Numeral.readReal?_trim_nan_iff] at hnan
    exact ⟨raw, Prod.ext (hsetting.trans hname) hraw, hnan⟩
  · rintro ⟨raw, rfl, hnan⟩
    rw [← Numeral.readReal?_trim_nan_iff, ← hparse] at hnan
    exact ⟨hname.symm, raw, rfl, hnan, rfl⟩

theorem field_overlay_cases (hp : base.Admissible) (key : Key)
    (stored : List (String × Option String)) :
    (base.overlay stored).field key = base.field key ∨
      ∃ x ∈ stored, Gives x key ((base.overlay stored).field key) := by
  induction stored generalizing base with
  | nil => exact .inl rfl
  | cons x rest ih =>
    rw [overlay_cons]
    rcases ih (hp.override x) with hkept | ⟨y, hy, hgives⟩
    · rw [hkept]
      by_cases hx : ∃ v, Gives x key v
      · obtain ⟨v, hv⟩ := hx
        refine .inr ⟨x, List.mem_cons_self, ?_⟩
        rwa [override_gives hp hv, field_assign]
      · exact .inl (field_override hp fun v hv => hx ⟨v, hv⟩)
    · exact .inr ⟨y, List.mem_cons_of_mem _ hy, hgives⟩

theorem overlay_queueWorkers (hbase : base.Usable) (stored : List (String × Option String)) :
    (base.overlay stored).queueWorkers.AtLeast 1 := by
  rcases field_overlay_cases hbase.admissible .queueWorkers stored with
    hkept | ⟨x, -, -, raw, -, hparse, hadmits⟩
  · have hkept : (base.overlay stored).queueWorkers = base.queueWorkers := hkept
    rw [hkept]
    exact hbase.queueWorkers
  · have hparse : (Value.text (Text.trim raw)).toInt.map Number.whole =
        .ok (base.overlay stored).queueWorkers := hparse
    have hadmits : (base.overlay stored).queueWorkers.ltInt 1 = false := hadmits
    obtain ⟨n, -, hn⟩ := map_ok.mp hparse
    rw [← hn] at hadmits ⊢
    exact Int.not_lt.mp (of_decide_eq_false hadmits)

/-- Whatever settings are stored, the counts of a policy stay within their
bounds, and its limit of time is positive or a NaN. It is a NaN if and only
if the setting for it spells one. -/
theorem overlay_usable_unless_nan (hbase : base.Usable) (stored : List (String × Option String)) :
    let p := base.overlay stored
    (1 ≤ p.maxRetries ∧ p.queueWorkers.AtLeast 1 ∧ 1 ≤ p.batchSize ∧ 0 ≤ p.ratePerMinute ∧
      (p.sendTimeout.Positive ∨ p.sendTimeout = .real .nan)) ∧
    ((∀ raw, timeoutSetting raw ∈ stored → ¬SpellsNan raw) → p.Usable) ∧
    ((stored.map (·.1)).Nodup → p.Usable →
      ∀ raw, timeoutSetting raw ∈ stored → ¬SpellsNan raw) := by
  intro p
  have hp : p.Admissible := hbase.admissible.overlay stored
  have hworkers : p.queueWorkers.AtLeast 1 := overlay_queueWorkers hbase stored
  obtain ⟨hretries, -, hbatch, hrate, htimeout⟩ := admissible_iff.mp hp
  refine ⟨⟨hretries, hworkers, hbatch, hrate, Number.leInt_zero_iff.mp htimeout⟩,
    fun hnone => (hp.usable_iff hworkers).mpr fun hnan => ?_,
    fun hd husable raw hraw hspells => ?_⟩
  · rcases field_overlay_cases hbase.admissible .sendTimeout stored with hkept | ⟨x, hx, hgives⟩
    · exact hbase.sendTimeout_ne (hkept.symm.trans hnan)
    · have hgives : Gives x .sendTimeout (.real .nan : Number) := hnan ▸ hgives
      obtain ⟨raw, rfl, hspells⟩ := gives_nan_iff.mp hgives
      exact hnone raw hx hspells
  · have hgives := gives_nan_iff.mpr ⟨raw, rfl, hspells⟩
    exact husable.sendTimeout_ne (field_overlay_given hbase.admissible hd hraw hgives)

theorem defaults_usable : ({} : Policy).Usable :=
  ⟨by decide, by decide, by decide, by decide, by decide +kernel⟩

theorem overlay_usable_unless_nan_edited : ({} : Policy).Usable ∧
    (({} : Policy).overlay [("notifications.retry_max", some "0"), timeoutSetting "1e999"]).Usable ∧
      ¬(({} : Policy).overlay [timeoutSetting " -NaN "]).Usable := by
  refine ⟨defaults_usable, ?_, fun h => ?_⟩
  · refine (overlay_usable_unless_nan defaults_usable _).2.1 fun raw hraw => ?_
    have hraw : raw = "1e999" := by simpa [timeoutSetting] using hraw
    rw [hraw]
    decide +kernel
  · exact (overlay_usable_unless_nan defaults_usable _).2.2 (by decide) h " -NaN "
      List.mem_cons_self (by decide +kernel)

/-- A bad row can make a policy unusable: a NaN is not above zero. -/
theorem overlay_not_always_usable :
    ¬∀ (base : Policy) (stored : List (String × Option String)), base.Usable →
      (base.overlay stored).Usable := by
  intro h
  have hpositive := (h {} [timeoutSetting "nan"] defaults_usable).sendTimeout
  revert hpositive
  decide +kernel

end Policy

end AlertDelivery
