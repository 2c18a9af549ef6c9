import AlertDelivery.Proofs.FieldLaws
import AlertDelivery.Proofs.Value.Escapes
import AlertDelivery.Proofs.Value.NumberText

/-!
# Values written and read back

A JSON value is written in printable ASCII, and reading that text gives the
value again, whatever it holds and however deep it is nested.
-/

namespace AlertDelivery

/-- A value of JSON: numbers are those of the format, and the keys of a record
are distinct. -/
inductive Value.IsJson : Value → Prop
  | null : IsJson .null
  | bool (b : Bool) : IsJson (.bool b)
  | int (i : Int) : IsJson (.int i)
  | real {q : ℚ} (held : Binary64.IsHeld q) : IsJson (.real (.finite q))
  | negZero : IsJson (.real .negZero)
  | text (s : String) : IsJson (.text s)
  | list {items : List Value} (each : ∀ v ∈ items, IsJson v) : IsJson (.list items)
  | record {fields : Fields} (distinct : fields.keys.Nodup) (each : ∀ p ∈ fields, IsJson p.2) :
      IsJson (.record fields)

namespace Json

variable {v : Value} {rest left : List Char} {c : Char} {fuel : ℕ}

-- ---------------------------------------------------------------------------
-- Spaces and scalars
-- ---------------------------------------------------------------------------

theorem skipSpace_cons (h : isSpace c = false) (rest : List Char) :
    skipSpace (c :: rest) = c :: rest := by
  rw [skipSpace, List.dropWhile_cons_of_neg (by simp [h])]

theorem skipSpace_space (rest : List Char) : skipSpace (' ' :: rest) = skipSpace rest := rfl

theorem readValue_space (fuel : ℕ) (rest : List Char) :
    readValue fuel (' ' :: rest) = readValue fuel rest := by
  cases fuel with
  | zero => rfl
  | succ fuel => simp only [readValue, skipSpace_space]

/-- A text that is read as a scalar starts like none of the other values. -/
theorem readScalar?_head {cs : List Char} {p : Value × List Char} (h : readScalar? cs = some p) :
    ∃ c more, cs = c :: more ∧ isSpace c = false ∧ c ∉ ['"', '[', ']', '\x7b'] := by
  cases cs with
  | nil => cases h
  | cons c more =>
    refine ⟨c, more, rfl, ?_, ?_⟩
    · by_contra hspace
      simp only [isSpace, Bool.not_eq_false, Bool.or_eq_true, beq_iff_eq] at hspace
      rcases hspace with ((rfl | rfl) | rfl) | rfl <;> cases h
    · simp only [List.mem_cons, List.not_mem_nil, or_false]
      rintro (rfl | rfl | rfl | rfl) <;> cases h

theorem readValue_scalar {cs : List Char} {p : Value × List Char} (h : readScalar? cs = some p)
    (fuel : ℕ) : readValue (fuel + 1) cs = some p := by
  obtain ⟨c, more, rfl, hspace, hc⟩ := readScalar?_head h
  simp only [List.mem_cons, List.not_mem_nil, or_false, not_or] at hc
  rw [readValue, skipSpace_cons hspace]
  split
  next hfirst => exact absurd (List.cons.inj hfirst).1 hc.1
  next hfirst => exact absurd (List.cons.inj hfirst).1 hc.2.1
  next hfirst => exact absurd (List.cons.inj hfirst).1 hc.2.2.2
  next => exact h

/-- A written value starts like a value, and is read as itself before anything
that may follow it. -/
structure ReadsBack (v : Value) : Prop where
  head : ∃ c more, (write v).toList = c :: more ∧ isSpace c = false ∧ c ≠ ']'
  read : ∀ rest fuel, Ends rest → (write v).length < fuel →
    readValue fuel ((write v).toList ++ rest) = some (v, rest)

theorem readsBack_of_scalar
    (h : ∀ rest, Ends rest → readScalar? ((write v).toList ++ rest) = some (v, rest)) :
    ReadsBack v := by
  constructor
  · have hread := h [] ends_nil
    rw [List.append_nil] at hread
    obtain ⟨c, more, htext, hspace, hc⟩ := readScalar?_head hread
    exact ⟨c, more, htext, hspace, fun hclose => hc (by simp [hclose])⟩
  · intro rest fuel hrest hfuel
    obtain ⟨fuel, rfl⟩ := Nat.exists_eq_succ_of_ne_zero (Nat.ne_of_gt (Nat.zero_lt_of_lt hfuel))
    exact readValue_scalar (h rest hrest) fuel

theorem readsBack_null : ReadsBack .null := readsBack_of_scalar fun _ _ => rfl

theorem readsBack_bool (b : Bool) : ReadsBack (.bool b) :=
  readsBack_of_scalar fun _ _ => by cases b <;> rfl

theorem readsBack_int (i : ℤ) : ReadsBack (.int i) :=
  readsBack_of_scalar fun _ hrest => readScalar?_int i hrest

theorem readsBack_real {q : ℚ} (h : Binary64.IsHeld q) : ReadsBack (.real (.finite q)) :=
  readsBack_of_scalar fun _ hrest => readScalar?_real h hrest

theorem readsBack_negZero : ReadsBack (.real .negZero) :=
  readsBack_of_scalar fun _ hrest => readScalar?_negZero hrest

-- ---------------------------------------------------------------------------
-- Texts
-- ---------------------------------------------------------------------------

theorem toList_writeText (s : String) :
    (writeText s).toList = '"' :: (s.toList.flatMap escapedChar ++ ['"']) := by
  rw [writeText, String.toList_ofList, List.cons_append]

theorem length_lt_writeText (s : String) : s.toList.length + 1 < (writeText s).length := by
  have hchar (c : Char) : 1 ≤ (escapedChar c).length := by
    unfold escapedChar
    split_ifs <;> simp [unitEscape]
  have hchars (cs : List Char) : cs.length ≤ (cs.flatMap escapedChar).length := by
    induction cs with
    | nil => exact le_rfl
    | cons c cs ih =>
      rw [List.flatMap_cons, List.length_append, List.length_cons]
      have := hchar c
      omega
  have := hchars s.toList
  rw [← String.length_toList, toList_writeText]
  simp only [List.length_cons, List.length_append, List.length_nil]
  omega

theorem readChars_writeText (s : String) {fuel : ℕ} (hfuel : s.toList.length < fuel)
    (rest : List Char) :
    readChars fuel [] (s.toList.flatMap escapedChar ++ ['"'] ++ rest) = some (s, rest) := by
  rw [List.append_assoc, List.singleton_append, readChars_escaped _ hfuel, List.reverse_nil,
    List.nil_append, String.ofList_toList]

theorem readValue_quote (fuel : ℕ) (rest : List Char) : readValue (fuel + 1) ('"' :: rest) =
    (readChars (fuel + 1) [] rest).map fun p => (.text p.1, p.2) := rfl

theorem readsBack_text (s : String) : ReadsBack (.text s) := by
  refine ⟨⟨_, _, toList_writeText s, rfl, by decide⟩, fun rest fuel _ hfuel => ?_⟩
  obtain ⟨fuel, rfl⟩ := Nat.exists_eq_succ_of_ne_zero (Nat.ne_of_gt (Nat.zero_lt_of_lt hfuel))
  have hlength := length_lt_writeText s
  rw [write] at hfuel ⊢
  rw [toList_writeText, List.cons_append, readValue_quote, readChars_writeText s (by omega),
    Option.map_some]

-- ---------------------------------------------------------------------------
-- Lists
-- ---------------------------------------------------------------------------

theorem readValue_bracket (hspace : isSpace c = false) (hc : c ≠ ']') (fuel : ℕ)
    (rest : List Char) : readValue (fuel + 1) ('[' :: c :: rest) =
      (readItems fuel (c :: rest)).map fun p => (.list p.1, p.2) := by
  rw [readValue, skipSpace_cons rfl]
  simp only [skipSpace_cons hspace]
  split
  next hfirst => exact absurd (List.cons.inj hfirst).1 hc
  next => rfl

theorem readItems_last {cs : List Char} (h : readValue fuel cs = some (v, ']' :: rest)) :
    readItems (fuel + 1) cs = some ([v], rest) := by
  rw [readItems, h]
  rfl

theorem readItems_more {cs : List Char} (h : readValue fuel cs = some (v, ',' :: rest)) :
    readItems (fuel + 1) cs = (readItems fuel rest).map fun p => (v :: p.1, p.2) := by
  rw [readItems, h]
  rfl

theorem readItems_space (fuel : ℕ) (rest : List Char) :
    readItems fuel (' ' :: rest) = readItems fuel rest := by
  cases fuel with
  | zero => rfl
  | succ fuel => simp only [readItems, readValue_space]

theorem joined_cons_cons (a b : String) (more : List String) :
    (", ".intercalate (a :: b :: more)).toList =
        a.toList ++ ',' :: ' ' :: (", ".intercalate (b :: more)).toList ∧
      (", ".intercalate (a :: b :: more)).length =
        a.length + 2 + (", ".intercalate (b :: more)).length := by
  rw [String.intercalate_cons_cons]
  constructor
  · rw [String.toList_append, String.toList_append, List.append_assoc]
    rfl
  · rw [String.length_append, String.length_append]
    rfl

theorem readItems_joined {items : List Value} (hne : items ≠ [])
    (each : ∀ v ∈ items, ReadsBack v) (fuel : ℕ)
    (hfuel : (", ".intercalate (writeItems items)).length + 1 < fuel) (rest : List Char) :
    readItems fuel ((", ".intercalate (writeItems items)).toList ++ ']' :: rest) =
      some (items, rest) := by
  induction items generalizing fuel with
  | nil => exact absurd rfl hne
  | cons v items ih =>
    obtain ⟨fuel, rfl⟩ := Nat.exists_eq_succ_of_ne_zero (Nat.ne_of_gt (Nat.zero_lt_of_lt hfuel))
    obtain ⟨hv, hitems⟩ := List.forall_mem_cons.mp each
    cases items with
    | nil =>
      simp only [writeItems, String.intercalate_singleton] at hfuel ⊢
      exact readItems_last (hv.read _ _ (ends_cons (by decide) rest) (by omega))
    | cons w items =>
      have hmore := ih (List.cons_ne_nil w items) hitems fuel
      simp only [writeItems] at hfuel hmore ⊢
      obtain ⟨htext, hlength⟩ := joined_cons_cons (write v) (write w) (writeItems items)
      generalize ", ".intercalate (write w :: writeItems items) = joined at htext hlength hmore
      have hfirst := hv.read (',' :: ' ' :: (joined.toList ++ ']' :: rest)) fuel
        (ends_cons (.inl rfl) _) (by omega)
      rw [htext, List.append_assoc, List.cons_append, List.cons_append, readItems_more hfirst,
        readItems_space, hmore (by omega), Option.map_some]

theorem readsBack_list {items : List Value} (each : ∀ v ∈ items, ReadsBack v) :
    ReadsBack (.list items) := by
  have htext : (write (.list items)).toList =
      '[' :: ((", ".intercalate (writeItems items)).toList ++ [']']) := by
    rw [write, String.toList_append, String.toList_append]
    rfl
  have hlength : (write (.list items)).length =
      (", ".intercalate (writeItems items)).length + 2 := by
    have hopen : "[".length = 1 := rfl
    have hclose : "]".length = 1 := rfl
    rw [write, String.length_append, String.length_append]
    omega
  refine ⟨⟨_, _, htext, rfl, by decide⟩, fun rest fuel _ hfuel => ?_⟩
  obtain ⟨fuel, rfl⟩ := Nat.exists_eq_succ_of_ne_zero (Nat.ne_of_gt (Nat.zero_lt_of_lt hfuel))
  rw [htext, List.cons_append, List.append_assoc, List.singleton_append]
  cases items with
  | nil => rfl
  | cons v items =>
    have hitems := readItems_joined (List.cons_ne_nil v items) each fuel (by omega) rest
    obtain ⟨c, more, hhead, hspace, hc⟩ := (each v List.mem_cons_self).head
    obtain ⟨more', hjoined⟩ : ∃ more', (", ".intercalate (writeItems (v :: items))).toList =
        c :: more' := by
      cases items with
      | nil => exact ⟨more, by rw [writeItems, writeItems, String.intercalate_singleton, hhead]⟩
      | cons w items =>
        exact ⟨_, by rw [writeItems, writeItems, (joined_cons_cons _ _ _).1, hhead,
          List.cons_append]⟩
    rw [hjoined, List.cons_append] at hitems ⊢
    rw [readValue_bracket hspace hc, hitems, Option.map_some]

-- ---------------------------------------------------------------------------
-- Records
-- ---------------------------------------------------------------------------

theorem readValue_brace (fuel : ℕ) (rest : List Char) :
    readValue (fuel + 1) ('\x7b' :: '"' :: rest) =
      (readFields fuel ('"' :: rest)).map fun p => (.record (Fields.overlay [] p.1), p.2) := rfl

theorem readFields_last {k : String} {cs more : List Char}
    (hk : readChars (fuel + 1) [] cs = some (k, ':' :: more))
    (hv : readValue fuel more = some (v, '\x7d' :: rest)) :
    readFields (fuel + 1) ('"' :: cs) = some ([(k, v)], rest) := by
  rw [readFields, skipSpace_cons rfl]
  simp only [hk, skipSpace_cons (show isSpace ':' = false from rfl), hv,
    skipSpace_cons (show isSpace '\x7d' = false from rfl)]

theorem readFields_more {k : String} {cs more : List Char}
    (hk : readChars (fuel + 1) [] cs = some (k, ':' :: more))
    (hv : readValue fuel more = some (v, ',' :: rest)) :
    readFields (fuel + 1) ('"' :: cs) =
      (readFields fuel rest).map fun p => ((k, v) :: p.1, p.2) := by
  rw [readFields, skipSpace_cons rfl]
  simp only [hk, skipSpace_cons (show isSpace ':' = false from rfl), hv,
    skipSpace_cons (show isSpace ',' = false from rfl)]

theorem readFields_space (fuel : ℕ) (rest : List Char) :
    readFields fuel (' ' :: rest) = readFields fuel rest := by
  cases fuel with
  | zero => rfl
  | succ fuel => simp only [readFields, skipSpace_space]

/-- The text of one field: its key is read up to the colon, its value up to
what follows. -/
theorem field_text (k : String) (hv : ReadsBack v) :
    ∃ cs, (writeText k ++ ": " ++ write v).toList = '"' :: cs ∧
      ∀ rest fuel, Ends rest → (writeText k ++ ": " ++ write v).length < fuel →
        ∃ more, readChars (fuel + 1) [] (cs ++ rest) = some (k, ':' :: more) ∧
          readValue fuel more = some (v, rest) := by
  have htext : (writeText k ++ ": " ++ write v).toList =
      '"' :: (k.toList.flatMap escapedChar ++ ['"'] ++ ':' :: ' ' :: (write v).toList) := by
    rw [String.toList_append, String.toList_append, toList_writeText]
    simp only [List.cons_append, List.append_assoc]
    rfl
  refine ⟨_, htext, fun rest fuel hrest hfuel => ⟨' ' :: ((write v).toList ++ rest), ?_, ?_⟩⟩
  · have hlength := length_lt_writeText k
    rw [String.length_append, String.length_append] at hfuel
    rw [List.append_assoc, readChars_writeText k (by omega)]
    rfl
  · rw [String.length_append] at hfuel
    rw [readValue_space]
    exact hv.read rest fuel hrest (by omega)

theorem readFields_joined {fields : Fields} (hne : fields ≠ [])
    (each : ∀ p ∈ fields, ReadsBack p.2) (fuel : ℕ)
    (hfuel : (", ".intercalate (writeFields fields)).length + 1 < fuel) (rest : List Char) :
    readFields fuel ((", ".intercalate (writeFields fields)).toList ++ '\x7d' :: rest) =
      some (fields, rest) := by
  induction fields generalizing fuel with
  | nil => exact absurd rfl hne
  | cons field fields ih =>
    obtain ⟨k, v⟩ := field
    obtain ⟨fuel, rfl⟩ := Nat.exists_eq_succ_of_ne_zero (Nat.ne_of_gt (Nat.zero_lt_of_lt hfuel))
    obtain ⟨(hv : ReadsBack v), hfields⟩ := List.forall_mem_cons.mp each
    obtain ⟨cs, hcs, hfield⟩ := field_text k hv
    cases fields with
    | nil =>
      simp only [writeFields, String.intercalate_singleton] at hfuel ⊢
      obtain ⟨more, hk, hread⟩ := hfield ('\x7d' :: rest) fuel (ends_cons (by decide) rest)
        (by omega)
      rw [hcs, List.cons_append]
      exact readFields_last hk hread
    | cons field' fields =>
      have hmore := ih (List.cons_ne_nil field' fields) hfields fuel
      simp only [writeFields] at hfuel hmore ⊢
      obtain ⟨htext, hlength⟩ := joined_cons_cons (writeText k ++ ": " ++ write v)
        (writeText field'.1 ++ ": " ++ write field'.2) (writeFields fields)
      generalize ", ".intercalate ((writeText field'.1 ++ ": " ++ write field'.2) ::
        writeFields fields) = joined at htext hlength hmore
      obtain ⟨more, hk, hread⟩ := hfield (',' :: ' ' :: (joined.toList ++ '\x7d' :: rest)) fuel
        (ends_cons (.inl rfl) _) (by omega)
      rw [htext, hcs, List.append_assoc, List.cons_append, List.cons_append, List.cons_append,
        readFields_more hk hread, readFields_space, hmore (by omega), Option.map_some]

theorem readsBack_record {fields : Fields} (distinct : fields.keys.Nodup)
    (each : ∀ p ∈ fields, ReadsBack p.2) : ReadsBack (.record fields) := by
  have htext : (write (.record fields)).toList =
      '\x7b' :: ((", ".intercalate (writeFields fields)).toList ++ ['\x7d']) := by
    rw [write, String.toList_append, String.toList_append]
    rfl
  have hlength : (write (.record fields)).length =
      (", ".intercalate (writeFields fields)).length + 2 := by
    have hopen : "\x7b".length = 1 := rfl
    have hclose : "\x7d".length = 1 := rfl
    rw [write, String.length_append, String.length_append]
    omega
  refine ⟨⟨_, _, htext, rfl, by decide⟩, fun rest fuel _ hfuel => ?_⟩
  obtain ⟨fuel, rfl⟩ := Nat.exists_eq_succ_of_ne_zero (Nat.ne_of_gt (Nat.zero_lt_of_lt hfuel))
  rw [htext, List.cons_append, List.append_assoc, List.singleton_append]
  cases fields with
  | nil => rfl
  | cons field fields =>
    have hfields := readFields_joined (List.cons_ne_nil field fields) each fuel (by omega) rest
    obtain ⟨more, hjoined⟩ : ∃ more,
        (", ".intercalate (writeFields (field :: fields))).toList = '"' :: more := by
      obtain ⟨cs, hcs, -⟩ := field_text field.1 (each field List.mem_cons_self)
      cases fields with
      | nil => exact ⟨cs, by rw [writeFields, writeFields, String.intercalate_singleton, hcs]⟩
      | cons field' fields =>
        exact ⟨_, by rw [writeFields, writeFields, (joined_cons_cons _ _ _).1, hcs,
          List.cons_append]⟩
    rw [hjoined, List.cons_append] at hfields ⊢
    rw [readValue_brace, hfields, Option.map_some, Fields.overlay_new distinct, List.nil_append]

-- ---------------------------------------------------------------------------
-- Any value
-- ---------------------------------------------------------------------------

theorem readsBack (h : v.IsJson) : ReadsBack v := by
  induction h with
  | null => exact readsBack_null
  | bool b => exact readsBack_bool b
  | int i => exact readsBack_int i
  | real held => exact readsBack_real held
  | negZero => exact readsBack_negZero
  | text s => exact readsBack_text s
  | list _ ih => exact readsBack_list ih
  | record distinct _ ih => exact readsBack_record distinct ih

theorem read?_write (h : v.IsJson) : read? (write v) = some v := by
  have hread := (readsBack h).read [] ((write v).toList.length + 1) ends_nil
    (by rw [String.length_toList]; omega)
  rw [List.append_nil] at hread
  simp only [read?, hread]
  rfl

end Json

end AlertDelivery
