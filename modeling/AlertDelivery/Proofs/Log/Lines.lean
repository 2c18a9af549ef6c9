import AlertDelivery.Log
import AlertDelivery.Proofs.InstantLaws
import AlertDelivery.Proofs.Value.OneLine
import AlertDelivery.Proofs.Value.RoundTrip

/-!
# JSON log lines

A record becomes one line of printable ASCII, so that no text in it can end
the line or start another. Read as JSON, the line gives the message and the
delivery fields back as they were.
-/

namespace AlertDelivery.Log

open Json (IsLine)

variable {r : Record} {context fields : Fields} {text : String} {t : Instant}

-- ---------------------------------------------------------------------------
-- The time of a record
-- ---------------------------------------------------------------------------

/-- The calendar reaches the time of a record: the years 1 to 9999. -/
def Record.InCalendar (r : Record) : Prop :=
  0 ≤ Instant.epochMicros + Clock.wholeMicros r.created ∧
    Instant.epochMicros + Clock.wholeMicros r.created < Instant.limit

theorem createdAt_ok (h : r.InCalendar) : ∃ t, createdAt r = .ok t := by
  obtain ⟨hlow, hhigh⟩ := h
  have hfound : Instant.ofMicros? (Instant.epochMicros + Clock.wholeMicros r.created) =
      some ⟨_, (Int.toNat_lt hlow).mpr hhigh⟩ :=
    Instant.ofMicros?_eq_some.mpr (Int.toNat_of_nonneg hlow)
  unfold createdAt
  dsimp only
  rw [hfound]
  exact ⟨_, rfl⟩

theorem jsonLine_beyond (h : ¬r.InCalendar) (context : Fields) :
    ∃ refusal, jsonLine context r = .error refusal := by
  have hnone : Instant.ofMicros? (Instant.epochMicros + Clock.wholeMicros r.created) = none :=
    Instant.ofMicros?_eq_none.mpr (by unfold Record.InCalendar at h; omega)
  obtain ⟨refusal, hrefusal⟩ : ∃ refusal, createdAt r = .error refusal := by
    unfold createdAt
    dsimp only
    rw [hnone]
    exact ⟨_, rfl⟩
  exact ⟨refusal, by rw [jsonLine, hrefusal]; rfl⟩

-- ---------------------------------------------------------------------------
-- The fields of a line
-- ---------------------------------------------------------------------------

def Record.shown (r : Record) (key : String) : Option Value :=
  match r.extra.get? key with
  | none | some .null => none
  | some v => some v

theorem Record.shown_eq_some {key : String} {v : Value} :
    r.shown key = some v ↔ r.extra.get? key = some v ∧ v ≠ .null := by
  unfold Record.shown
  split
  next h => simp [h]
  next h => simp [h, eq_comm]
  next w hnull h =>
    rw [h]
    constructor
    · rintro ⟨⟩
      exact ⟨rfl, fun hv => hnull hv⟩
    · rintro ⟨⟨⟩, -⟩
      rfl

theorem deliveryFields_eq : deliveryFields r = Fields.pick deliveryKeys r.shown := by
  unfold deliveryFields Fields.pick Record.shown
  congr 1
  funext key
  cases r.extra.get? key with
  | none => rfl
  | some v => cases v <;> rfl

/-- A record of exactly the delivery fields that are set and not null. -/
structure HoldsDelivery (r : Record) (set : Fields) : Prop where
  distinct : set.keys.Nodup
  exact : ∀ key v, set.get? key = some v ↔
    key ∈ deliveryKeys ∧ r.extra.get? key = some v ∧ v ≠ .null

theorem deliveryFields_holds (r : Record) : HoldsDelivery r (deliveryFields r) := by
  have hdistinct : (deliveryFields r).keys.Nodup := by
    rw [deliveryFields_eq]
    exact (Fields.keys_pick_sublist _ _).nodup (by decide)
  refine ⟨hdistinct, fun key v => ?_⟩
  rw [← Fields.mem_iff_get? hdistinct, deliveryFields_eq, Fields.mem_pick, Record.shown_eq_some]

def lineFields (context : Fields) (r : Record) (t : Instant) (text : String) : Fields :=
  [("timestamp", .text (t.text ++ "+00:00")), ("level", .text (levelName r.level)),
    ("logger", .text r.name), ("message", .text text),
    ("source", .text (r.module ++ ":" ++ toString r.line))] ++
  (if context.isEmpty then [] else [("request", .record context)]) ++
  (if (deliveryFields r).isEmpty then [] else [("delivery", .record (deliveryFields r))]) ++
  Fields.pick topLevelKeys r.extra.get? ++
  match r.failure with
    | some fault => [("exception",
        .record [("type", .text fault.name), ("message", .text fault.message)])]
    | none => []

theorem jsonLine_eq (hat : createdAt r = .ok t) (htext : message r = .ok text) :
    jsonLine context r = .ok (Json.write (.record (lineFields context r t text))) := by
  simp only [jsonLine, hat, htext]
  rfl

def lineKeys : List String :=
  ["timestamp", "level", "logger", "message", "source"] ++ ["request"] ++ ["delivery"] ++
    topLevelKeys ++ ["exception"]

theorem keys_lineFields (context : Fields) (r : Record) (t : Instant) (text : String) :
    (lineFields context r t text).keys.Sublist lineKeys := by
  unfold lineFields lineKeys Fields.keys
  simp only [List.map_append]
  refine ((((List.Sublist.refl _).append ?_).append ?_).append
    (Fields.keys_pick_sublist _ _)).append ?_
  · split
    · exact List.nil_sublist _
    · exact List.Sublist.refl _
  · split
    · exact List.nil_sublist _
    · exact List.Sublist.refl _
  · split
    · exact List.Sublist.refl _
    · exact List.nil_sublist _

theorem lineFields_distinct (context : Fields) (r : Record) (t : Instant) (text : String) :
    (lineFields context r t text).keys.Nodup :=
  (keys_lineFields context r t text).nodup (by decide)

theorem lineFields_isJson (hcontext : (Value.record context).IsJson)
    (hextra : ∀ p ∈ r.extra, p.2.IsJson) (t : Instant) (text : String) :
    (Value.record (lineFields context r t text)).IsJson := by
  have hget {key : String} {v : Value} (h : r.extra.get? key = some v) : v.IsJson :=
    hextra _ (Fields.mem_of_get? h)
  have hdelivery : (Value.record (deliveryFields r)).IsJson := by
    obtain ⟨hdistinct, hexact⟩ := deliveryFields_holds r
    refine .record hdistinct fun p hp => ?_
    exact hget ((hexact p.1 p.2).mp ((Fields.mem_iff_get? hdistinct).mp hp)).2.1
  refine .record (lineFields_distinct context r t text) ?_
  unfold lineFields
  simp only [List.forall_mem_append]
  refine ⟨⟨⟨⟨?_, ?_⟩, ?_⟩, ?_⟩, ?_⟩
  · simp only [List.forall_mem_cons]
    exact ⟨.text _, .text _, .text _, .text _, .text _, fun _ h => by cases h⟩
  · split
    · exact fun _ h => by cases h
    · exact fun p hp => List.mem_singleton.mp hp ▸ hcontext
  · split
    · exact fun _ h => by cases h
    · exact fun p hp => List.mem_singleton.mp hp ▸ hdelivery
  · exact fun p hp => hget (Fields.mem_pick.mp hp).2
  · split
    · intro p hp
      rw [List.mem_singleton.mp hp]
      refine .record (show ["type", "message"].Nodup by decide) ?_
      simp only [List.forall_mem_cons]
      exact ⟨.text _, .text _, fun _ h => by cases h⟩
    · exact fun _ h => by cases h

theorem message_lineFields (context : Fields) (r : Record) (t : Instant) (text : String) :
    (lineFields context r t text).get? "message" = some (.text text) :=
  Fields.get?_of_mem (lineFields_distinct context r t text) (by simp [lineFields])

theorem delivery_lineFields (context : Fields) (r : Record) (t : Instant) (text : String) :
    (lineFields context r t text).get? "delivery" =
      if (deliveryFields r).isEmpty then none else some (.record (deliveryFields r)) := by
  by_cases hempty : (deliveryFields r).isEmpty
  · have htop : "delivery" ∉ (Fields.pick topLevelKeys r.extra.get?).keys :=
      fun hmem => absurd ((Fields.keys_pick_sublist _ _).subset hmem) (by decide)
    rw [if_pos hempty, Fields.get?_eq_none_iff]
    unfold lineFields Fields.keys
    simp only [hempty, if_true, List.append_nil, List.map_append, List.mem_append, not_or]
    refine ⟨⟨⟨by simp, ?_⟩, htop⟩, ?_⟩
    · split <;> simp
    · split <;> simp
  · rw [if_neg hempty]
    exact Fields.get?_of_mem (lineFields_distinct context r t text) (by simp [lineFields, hempty])

-- ---------------------------------------------------------------------------
-- What a line tells
-- ---------------------------------------------------------------------------

/-- A record has a line of printable ASCII which, read as JSON, is an object with
the message and, if there are any, the delivery fields. -/
def HasLine (context : Fields) (r : Record) (text : String) : Prop :=
  ∃ (line : String) (fields set : Fields), jsonLine context r = .ok line ∧ IsLine line ∧
    Json.read? line = some (.record fields) ∧
    fields.get? "message" = some (.text text) ∧ HoldsDelivery r set ∧
    fields.get? "delivery" = if set.isEmpty then none else some (.record set)

/-- Every record of the calendar whose message can be put together has its
line, whatever its texts and values hold. -/
theorem jsonLine_exact (hcontext : (Value.record context).IsJson)
    (hextra : ∀ p ∈ r.extra, p.2.IsJson) (hcalendar : r.InCalendar)
    (htext : message r = .ok text) : HasLine context r text := by
  obtain ⟨t, hat⟩ := createdAt_ok hcalendar
  have hjson := lineFields_isJson hcontext hextra t text
  exact ⟨_, lineFields context r t text, deliveryFields r, jsonLine_eq hat htext,
    Json.isLine_write _, Json.read?_write hjson, message_lineFields context r t text,
    deliveryFields_holds r, delivery_lineFields context r t text⟩

/-- A record whose texts try to end the line and to forge a field. -/
def forger : Record where
  name := "app\n\"level\": \"INFO\""
  level := 40
  template := "to %s:\n\x1b[31m%d of %d"
  args := [.text "Zoë 😀", .int 2, .int 3]
  created := 1700000000 + 1 / 4
  extra := [("queue_id", .int 0), ("channel", .null), ("state", .text "\x7f\\\", \x7d"),
    ("claimed", .list [.real (.finite (25 / 2)), .record [("\r\n", .bool false)]]),
    ("duration_ms", .real (.finite (25 / 2)))]
  failure := some (.badValue "\u2028")

theorem jsonLine_exact_forger : forger.InCalendar ∧
    message forger = .ok "to Zoë 😀:\n\x1b[31m2 of 3" ∧
    HasLine [("request_id", .text "\"\n")] forger "to Zoë 😀:\n\x1b[31m2 of 3" := by
  have hcalendar : forger.InCalendar := by
    unfold Record.InCalendar
    decide +kernel
  have hmessage : message forger = .ok "to Zoë 😀:\n\x1b[31m2 of 3" := by decide +kernel
  have hheld : Binary64.IsHeld (25 / 2) :=
    ⟨⟨25, -1, by norm_num, by norm_num, by norm_num⟩,
      (show |(25 / 2 : ℚ)| < 2 ^ (4 : ℤ) by norm_num).trans
        (zpow_lt_zpow_right₀ one_lt_two (by norm_num))⟩
  refine ⟨hcalendar, hmessage, jsonLine_exact ?_ ?_ hcalendar hmessage⟩
  · refine .record (by decide) ?_
    simp only [List.forall_mem_cons]
    exact ⟨.text _, fun _ h => by cases h⟩
  · simp only [forger, List.forall_mem_cons]
    refine ⟨.int _, .null, .text _, .list ?_, .real hheld, fun _ h => by cases h⟩
    simp only [List.forall_mem_cons]
    refine ⟨.real hheld, .record (by decide) ?_, fun _ h => by cases h⟩
    simp only [List.forall_mem_cons]
    exact ⟨.bool _, fun _ h => by cases h⟩

/-- Not every record has a line: the calendar ends before the time of some. -/
theorem jsonLine_not_always_exact : ¬ ∀ (context : Fields) (r : Record) (text : String),
    (Value.record context).IsJson → (∀ p ∈ r.extra, p.2.IsJson) → message r = .ok text →
    HasLine context r text := by
  intro h
  obtain ⟨line, -, -, hline, -⟩ := h [] { created := 1000000000000 } ""
    (.record List.nodup_nil fun _ h => by cases h) (fun _ h => by cases h) rfl
  have hbeyond : ¬ Record.InCalendar { created := 1000000000000 } := by
    unfold Record.InCalendar
    decide +kernel
  obtain ⟨refusal, hrefusal⟩ := jsonLine_beyond hbeyond []
  rw [hrefusal] at hline
  cases hline

end AlertDelivery.Log
