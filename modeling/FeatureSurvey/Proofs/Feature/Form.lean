import FeatureSurvey.Proofs.Data.Written

/-!
# `Proofs/Feature/Form.lean` — the form of an answer tells which answer it is

The four shapes of answers are written without a label, and they are told apart by trying one after
the other. The order could matter for tables only, where a table of statuses might be taken for
occurrences. It never is. What stands under `occurrences` has to be a number there, and among
statuses there are none, so **no form is of both shapes** (`textTable?_eq_none`), whatever names the
table has and however often.

So each answer is read back from its own form, and what was read from any form at all is read again
from the form that is written for it (`ofValue?_readsBack`).
-/

set_option autoImplicit false

namespace FeatureSurvey

/-! ## Slots and the entries that fill them -/

theorem exists_mem_of_mapM {α β : Type} {f : α → Option β} {items : List α} {results : List β}
    {b : β} (h : items.mapM f = some results) (hb : b ∈ results) : ∃ a ∈ items, f a = some b := by
  rw [mapM_eq_some_iff] at h
  induction h with
  | nil => cases hb
  | @cons a b' items results hab _ ih =>
    rcases List.mem_cons.1 hb with rfl | hb
    · exact ⟨a, List.mem_cons_self, hab⟩
    · obtain ⟨a', ha', hread⟩ := ih hb
      exact ⟨a', List.mem_cons_of_mem a ha', hread⟩

namespace Fields

variable {α : Type} {entries : List (Key × α)} {spellings : List String} {position : Nat} {a : α}

theorem exists_mem_of_slot? (h : slot? entries spellings position = some (some a)) :
    ∃ key, (key, a) ∈ entries := by
  unfold slot? at h
  split at h
  · cases h
  · rename_i e he
    cases h
    have hmem : e ∈ entries.filter fun e => e.1.names spellings position :=
      he ▸ List.mem_singleton_self e
    exact ⟨e.1, List.mem_of_mem_filter hmem⟩
  · cases h

theorem exists_mem_of_slotsFrom? {fields : List (List String)} {slots : List (Option α)}
    (h : slotsFrom? entries fields position = some slots) (ha : some a ∈ slots) :
    ∃ key, (key, a) ∈ entries := by
  induction fields generalizing position slots with
  | nil =>
    cases h
    cases ha
  | cons spellings rest ih =>
    simp only [slotsFrom?, Option.bind_eq_bind, Option.bind_eq_some_iff, Option.some.injEq] at h
    obtain ⟨slot, hslot, slots', hslots, rfl⟩ := h
    rcases List.mem_cons.1 ha with rfl | ha
    · exact exists_mem_of_slot? hslot
    · exact ih hslots ha

/-- What fills a slot stands in the table. -/
theorem exists_mem_of_ofTable? {fields : List (List String)} {entries : List (Value × Value)}
    {slots : List (Option Value)} {v : Value} (h : ofTable? fields (.table entries) = some slots)
    (hv : some v ∈ slots) : ∃ name, (name, v) ∈ entries := by
  simp only [ofTable?, Option.bind_eq_bind, Option.bind_eq_some_iff] at h
  obtain ⟨keyed, hkeyed, hslots⟩ := h
  obtain ⟨key, hkey⟩ := exists_mem_of_slotsFrom? hslots hv
  obtain ⟨⟨name, v'⟩, hentry, hread⟩ := exists_mem_of_mapM hkeyed hkey
  obtain ⟨_, _, heq⟩ := Option.map_eq_some_iff.1 hread
  obtain ⟨-, rfl⟩ := Prod.mk.inj heq
  exact ⟨name, hentry⟩

end Fields

namespace FeatureValue

/-! ## Two shapes of tables -/

/-- Occurrences are a table in which a number stands. -/
theorem exists_word_of_ofOccurrences? {form : Value} {v : FeatureValue}
    (h : ofOccurrences? form = some v) :
    ∃ entries name count n, form = .table entries ∧ (name, count) ∈ entries ∧
      count.asWord? = some n := by
  simp only [ofOccurrences?, Option.bind_eq_bind, Option.bind_eq_some_iff] at h
  obtain ⟨slots, hslots, h⟩ := h
  split at h
  · rename_i detected count
    simp only [Option.bind_eq_some_iff] at h
    obtain ⟨_, -, n, hword, -⟩ := h
    cases form with
    | table entries =>
      obtain ⟨name, hentry⟩ := Fields.exists_mem_of_ofTable? hslots
        (List.mem_cons_of_mem (some detected) (List.mem_singleton_self (some count)))
      exact ⟨entries, name, count, n, rfl, hentry, hword⟩
    | _ => cases hslots
  · cases h

/-- A table of texts has nothing else in it. -/
theorem exists_text_of_textTable? {entries : List (Value × Value)} {t : Table String}
    (h : textTable? (.table entries) = some t) {e : Value × Value} (he : e ∈ entries) :
    ∃ s, e.2 = .text s := by
  simp only [textTable?, Option.bind_eq_bind, Option.bind_eq_some_iff] at h
  obtain ⟨pairs, hpairs, -⟩ := h
  rw [mapM_eq_some_iff] at hpairs
  induction hpairs with
  | nil => cases he
  | @cons entry pair entries pairs hread _ ih =>
    rcases List.mem_cons.1 he with rfl | he
    · simp only [Option.bind_eq_some_iff] at hread
      obtain ⟨_, -, s, hs, -⟩ := hread
      cases hvalue : e.2 with
      | text s => exact ⟨s, rfl⟩
      | _ => rw [hvalue] at hs; cases hs
    · exact ih he

/-- **No form is of both shapes.** -/
theorem textTable?_eq_none {form : Value} {v : FeatureValue} (h : ofOccurrences? form = some v) :
    textTable? form = none := by
  obtain ⟨entries, name, count, n, rfl, hentry, hword⟩ := exists_word_of_ofOccurrences? h
  rw [Option.eq_none_iff_forall_ne_some]
  intro t ht
  obtain ⟨s, hs⟩ := exists_text_of_textTable? ht hentry
  rw [show count = .text s from hs] at hword
  cases hword

/-! ## Reading back -/

theorem ofName?_name (d : Detected) : Detected.ofName? d.name = some d := by
  cases d <;> rfl

theorem ofOccurrences?_occurrences (d : Detected) (count : UInt64) :
    ofOccurrences? (toValue (.occurrences d count)) = some (.occurrences d count) := by
  have hslots : Fields.ofTable? occurrencesFields (toValue (.occurrences d count)) =
      some [some (.text d.name), some (.word count)] := by
    rw [toValue, Fields.ofTable?_record]
    rfl
  simp [ofOccurrences?, hslots, Detected.ofValue?, ofName?_name]

theorem ofOccurrences?_tableValue (t : Table String) : ofOccurrences? (tableValue t) = none := by
  have htext : textTable? (tableValue t) = some t := textTable?_of_perm (List.Perm.refl _)
  rw [Option.eq_none_iff_forall_ne_some]
  intro v hv
  rw [textTable?_eq_none hv] at htext
  cases htext

theorem ofValue?_toValue (v : FeatureValue) : ofValue? v.toValue = some v := by
  cases v with
  | bool b => rfl
  | text s => rfl
  | occurrences d count =>
    show (ofOccurrences? (toValue (.occurrences d count)) <|> _) = _
    rw [ofOccurrences?_occurrences]
    rfl
  | table t =>
    have htext : textTable? (tableValue t) = some t := textTable?_of_perm (List.Perm.refl _)
    show (ofOccurrences? (tableValue t) <|> (textTable? (tableValue t)).map .table) = _
    rw [ofOccurrences?_tableValue, htext]
    rfl

/-- Different answers have different forms. -/
theorem toValue_injective : Function.Injective toValue := by
  intro v w h
  have hv := ofValue?_toValue v
  rw [h, ofValue?_toValue w] at hv
  exact (Option.some.inj hv).symm

/-! ## Tables of any kind -/

/-- What stands under a name, however often the name comes. -/
def under (name : String) (fields : List (String × Value)) : List Value :=
  (fields.filter fun e => e.1 == name).map (·.2)

theorem slot?_keyed_eq_some_iff (fields : List (String × Value)) (name : String) (position : Nat)
    (m : Value) : Fields.slot? (Fields.keyed fields) [name] position = some (some m) ↔
      under name fields = [m] := by
  have hfilter : fields.filter (fun e => [name].contains e.1) = fields.filter (·.1 == name) :=
    List.filter_congr fun e _ => by rw [List.contains_cons, List.contains_nil, Bool.or_false]
  rw [Fields.slot?, Fields.filter_keyed, hfilter, under]
  generalize fields.filter (·.1 == name) = found
  rcases found with _ | ⟨e, _ | ⟨e', rest⟩⟩ <;> simp [Fields.keyed]

theorem ofOccurrences?_record_iff {fields : List (String × Value)} {v : FeatureValue} :
    ofOccurrences? (.record fields) = some v ↔
      ∃ d count, v = .occurrences d count ∧
        (∃ m, under "detected" fields = [m] ∧ Detected.ofValue? m = some d) ∧
        ∃ c, under "occurrences" fields = [c] ∧ c.asWord? = some count := by
  simp only [← slot?_keyed_eq_some_iff fields "detected" 0,
    ← slot?_keyed_eq_some_iff fields "occurrences" 1, ofOccurrences?, Fields.ofTable?_record,
    occurrencesFields, Fields.named?, Fields.slotsFrom?]
  rcases Fields.slot? (Fields.keyed fields) ["detected"] 0 with _ | _ | m <;>
    rcases Fields.slot? (Fields.keyed fields) ["occurrences"] 1 with _ | _ | c <;>
    simp [Option.bind_eq_some_iff]
  -- what is left has both slots filled
  constructor
  · rintro ⟨d, hd, count, hcount, rfl⟩
    exact ⟨d, count, rfl, hd, hcount⟩
  · rintro ⟨d, count, rfl, hd, hcount⟩
    exact ⟨d, hd, count, hcount, rfl⟩

theorem textTable?_record_iff {fields : List (String × Value)} {t : Table String} :
    textTable? (.record fields) = some t ↔
      ∃ entries, fields = entries.map (fun e => (e.1, .text e.2)) ∧ Table.ofList entries = t := by
  have hentry (f : String × Value) (e : String × String) :
      (do some (← (Value.text f.1).asText?, ← f.2.asText?)) = some e ↔ f = (e.1, .text e.2) := by
    obtain ⟨name, value⟩ := f
    cases value <;> simp [Value.asText?, Prod.ext_iff]
  have hread (entries : List (String × String)) :
      (fields.map fun f => (Value.text f.1, f.2)).mapM
        (fun e => do some (← e.1.asText?, ← e.2.asText?)) = some entries ↔
      fields = entries.map (fun e => (e.1, .text e.2)) := by
    rw [mapM_eq_some_iff, List.forall₂_map_left_iff, ← List.forall₂_eq_eq_eq,
      List.forall₂_map_right_iff]
    simp only [hentry]
  simp only [Option.bind_eq_bind] at hread
  simp only [textTable?, Value.record, Option.bind_eq_bind, Option.bind_eq_some_iff,
    Option.some.injEq, hread]

/-- A table is read as occurrences or as a table of texts, and it does not matter which is first. -/
theorem ofValue?_record_iff {fields : List (String × Value)} {v : FeatureValue} :
    ofValue? (.record fields) = some v ↔
      ofOccurrences? (.record fields) = some v ∨
      ∃ t, textTable? (.record fields) = some t ∧ v = .table t := by
  have hor : ofValue? (.record fields) =
      (ofOccurrences? (.record fields) <|> (textTable? (.record fields)).map .table) := rfl
  rw [hor]
  cases hocc : ofOccurrences? (.record fields) with
  | none =>
    show (textTable? (.record fields)).map .table = some v ↔ _
    simp only [Option.map_eq_some_iff, reduceCtorEq, false_or, eq_comm (a := v)]
  | some u => simp [textTable?_eq_none hocc]

/-- **An answer is read back from its form.** What was read from any form is read again from the
form that is written for it. A form that is a table has one shape at most. It is occurrences if it
has, once each, a marker and a number under their names, whatever else it has; it is a table of
texts if all that it has is texts. -/
theorem ofValue?_readsBack (v : FeatureValue) (form : Value) (fields : List (String × Value)) :
    ofValue? v.toValue = some v ∧
    ((ofValue? form).bind fun u => ofValue? u.toValue) = ofValue? form ∧
    (ofOccurrences? form = none ∨ textTable? form = none) ∧
    ∀ u, ofValue? (.record fields) = some u ↔
      (∃ d count, u = .occurrences d count ∧
        (∃ m, under "detected" fields = [m] ∧ Detected.ofValue? m = some d) ∧
        ∃ c, under "occurrences" fields = [c] ∧ c.asWord? = some count) ∨
      ∃ entries : List (String × String),
        fields = entries.map (fun e => (e.1, .text e.2)) ∧ u = .table (Table.ofList entries) := by
  refine ⟨ofValue?_toValue v, ?_, ?_, fun u => ?_⟩
  · cases ofValue? form with
    | none => rfl
    | some u => exact ofValue?_toValue u
  · cases hocc : ofOccurrences? form with
    | none => exact .inl rfl
    | some u => exact .inr (textTable?_eq_none hocc)
  · rw [ofValue?_record_iff, ofOccurrences?_record_iff]
    simp only [textTable?_record_iff]
    refine or_congr_right ⟨?_, ?_⟩
    · rintro ⟨t, ⟨entries, hfields, rfl⟩, rfl⟩
      exact ⟨entries, hfields, rfl⟩
    · rintro ⟨entries, hfields, rfl⟩
      exact ⟨_, ⟨entries, hfields, rfl⟩, rfl⟩

/-- A table of statuses may have both names of the other shape. -/
example : ofValue? (.record [("detected", .text "yes"), ("occurrences", .text "2")]) =
    some (.table (Table.ofList [("detected", "yes"), ("occurrences", "2")])) := by
  decide

end FeatureValue

end FeatureSurvey
