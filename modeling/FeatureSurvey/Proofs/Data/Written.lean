import FeatureSurvey.Feature.Value
import FeatureSurvey.Proofs.Data.Table
import Mathlib.Data.List.Forall2

/-!
# `Proofs/Data/Written.lean` — one record, written in many ways

The order of a table's entries says nothing, a field may have several spellings, and a field with a
default may be left out where it has that default. So one record can be written in many ways, and a
reader must not see the difference. Here is why it does not: a slot depends on the entries for its
own field alone (`Fields.slot?_perm`), and where the spellings of two fields have nothing in common,
**each field finds what was written for it** (`Fields.named?_of_perm`).

A table of texts is a record whose fields are not known beforehand, and it is read alike in every
order too (`FeatureValue.textTable?_of_perm`).
-/

set_option autoImplicit false

namespace FeatureSurvey

variable {α β : Type}

/-- A list whose items are all read is read item by item. -/
theorem mapM_eq_some_iff {f : α → Option β} {items : List α} {results : List β} :
    items.mapM f = some results ↔ List.Forall₂ (fun a b => f a = some b) items results := by
  induction items generalizing results with
  | nil => cases results <;> simp
  | cons a items ih =>
    rw [List.mapM_cons]
    cases results with
    | nil => cases f a <;> cases items.mapM f <;> simp
    | cons b results =>
      rw [List.forall₂_cons, ← ih]
      cases hf : f a <;> cases hrest : items.mapM f <;> simp

theorem FeatureValue.textTable?_of_perm {t : Table String} {entries : List (String × String)}
    (h : entries.Perm t.entries) :
    FeatureValue.textTable? (.record (entries.map fun e => (e.1, .text e.2))) = some t := by
  have hread : ((entries.map fun e => (e.1, Value.text e.2)).map
      fun f => (Value.text f.1, f.2)).mapM
      (fun e => do some (← e.1.asText?, ← e.2.asText?)) = some entries := by
    rw [mapM_eq_some_iff, List.map_map, List.forall₂_map_left_iff, List.forall₂_same]
    intro e _
    rfl
  refine (congrArg (Option.bind · fun pairs => some (Table.ofList pairs)) hread).trans ?_
  rw [Option.bind_some, Table.ofList_perm h]

/-! ## Fields -/

namespace Fields

/-- The ways to write a field: under one of its spellings, or, where that is allowed, not at all. -/
inductive Written (spellings : List String) (omissible : Prop) (given : α → Prop) :
    List (String × α) → Prop
  | given {spelling : String} {a : α} (hspelling : spelling ∈ spellings) (h : given a) :
      Written spellings omissible given [(spelling, a)]
  | omitted (h : omissible) : Written spellings omissible given []

/-- No spelling is one of two fields. -/
def Apart (fields : List (List String)) : Prop :=
  fields.Pairwise fun spellings others => ∀ spelling ∈ spellings, spelling ∉ others

instance (fields : List (List String)) : Decidable (Apart fields) :=
  inferInstanceAs (Decidable (List.Pairwise _ _))

/-- What was written for one field: one entry at most, under a spelling of the field. -/
structure Fits (spellings : List String) (part : List (String × α)) : Prop where
  once : part.length ≤ 1
  spelled : ∀ e ∈ part, e.1 ∈ spellings

/-- The slot that is filled by what was written for a field. -/
def slotOf (part : List (String × α)) : Option α := part.head?.map (·.2)

/-- The entries of a record with their keys. -/
def keyed (entries : List (String × α)) : List (Key × α) := entries.map fun e => (.name e.1, e.2)

namespace Written

variable {spellings : List String} {omissible : Prop} {given : α → Prop}
  {part : List (String × α)}

theorem fits (h : Written spellings omissible given part) : Fits spellings part := by
  cases h with
  | given hspelling _ => exact ⟨Nat.le_refl 1, by simpa using hspelling⟩
  | omitted _ => exact ⟨Nat.zero_le 1, by simp⟩

theorem required? {ask : α → Option β} {b : β} (h : Written spellings False given part)
    (hask : ∀ a, given a → ask a = some b) : Fields.required? ask (slotOf part) = some b := by
  cases h with
  | given _ h => exact hask _ h
  | omitted h => exact h.elim

theorem optional? {ask : α → Option β} {fallback b : β}
    (h : Written spellings (b = fallback) given part) (hask : ∀ a, given a → ask a = some b) :
    Fields.optional? fallback ask (slotOf part) = some b := by
  cases h with
  | given _ h => exact hask _ h
  | omitted h => exact congrArg some h.symm

end Written

theorem slot?_perm {entries entries' : List (Key × α)} (h : entries.Perm entries')
    (spellings : List String) (position : Nat) :
    slot? entries spellings position = slot? entries' spellings position := by
  have hfilter := h.filter fun e => e.1.names spellings position
  unfold slot?
  generalize entries.filter (fun e => e.1.names spellings position) = found at hfilter
  generalize entries'.filter (fun e => e.1.names spellings position) = found' at hfilter
  rcases found with _ | ⟨e, _ | ⟨e', rest⟩⟩
  · rw [List.nil_perm.1 hfilter]
  · rw [List.singleton_perm.1 hfilter]
  · -- more than one entry on either side
    rcases found' with _ | ⟨e₁, _ | ⟨e₂, rest'⟩⟩
    · exact absurd hfilter.length_eq (by simp)
    · exact absurd hfilter.length_eq (by simp)
    · rfl

theorem slotsFrom?_perm {entries entries' : List (Key × α)} (h : entries.Perm entries')
    (fields : List (List String)) (position : Nat) :
    slotsFrom? entries fields position = slotsFrom? entries' fields position := by
  induction fields generalizing position with
  | nil => rfl
  | cons spellings rest ih => rw [slotsFrom?, slotsFrom?, slot?_perm h, ih]

theorem filter_keyed (entries : List (String × α)) (spellings : List String) (position : Nat) :
    (keyed entries).filter (fun e => e.1.names spellings position) =
      keyed (entries.filter fun e => spellings.contains e.1) := by
  rw [keyed, List.filter_map]
  rfl

/-- A field does not see what was written for others. -/
theorem slot?_keyed {spellings : List String} {before part after : List (String × α)}
    (hbefore : ∀ e ∈ before, e.1 ∉ spellings) (hpart : Fits spellings part)
    (hafter : ∀ e ∈ after, e.1 ∉ spellings) (position : Nat) :
    slot? (keyed (before ++ (part ++ after))) spellings position = some (slotOf part) := by
  have hnone {others : List (String × α)} (h : ∀ e ∈ others, e.1 ∉ spellings) :
      others.filter (fun e => spellings.contains e.1) = [] :=
    List.filter_eq_nil_iff.2 fun e he => by simpa using h e he
  have hall : part.filter (fun e => spellings.contains e.1) = part :=
    List.filter_eq_self.2 fun e he => by simpa using hpart.spelled e he
  have hfilter : (before ++ (part ++ after)).filter (fun e => spellings.contains e.1) = part := by
    rw [List.filter_append, List.filter_append, hnone hbefore, hall, hnone hafter, List.nil_append,
      List.append_nil]
  rw [slot?, filter_keyed, hfilter]
  rcases part with _ | ⟨e, _ | ⟨e', rest⟩⟩
  · rfl
  · rfl
  · exact absurd hpart.once (by simp)

theorem not_mem_of_apart {spellings : List String} {fields : List (List String)}
    {parts : List (List (String × α))}
    (hapart : ∀ field ∈ fields, ∀ spelling ∈ spellings, spelling ∉ field)
    (h : List.Forall₂ Fits fields parts) : ∀ e ∈ parts.flatten, e.1 ∉ spellings := by
  induction h with
  | nil => simp
  | @cons field part rest parts hpart _ ih =>
    obtain ⟨hfield, hrest⟩ := List.forall_mem_cons.1 hapart
    intro e he hmem
    rcases List.mem_append.1 he with he | he
    · exact hfield e.1 hmem (hpart.spelled e he)
    · exact ih hrest e he hmem

theorem slotsFrom?_flatten {fields : List (List String)} {parts : List (List (String × α))}
    (apart : Apart fields) (h : List.Forall₂ Fits fields parts)
    {before : List (String × α)} (hbefore : ∀ e ∈ before, ∀ spellings ∈ fields, e.1 ∉ spellings)
    (position : Nat) :
    slotsFrom? (keyed (before ++ parts.flatten)) fields position = some (parts.map slotOf) := by
  induction h generalizing before position with
  | nil => rfl
  | @cons spellings part rest parts hpart hrest ih =>
    obtain ⟨hfirst, hrest'⟩ := List.pairwise_cons.1 apart
    have hdone : ∀ e ∈ before ++ part, ∀ field ∈ rest, e.1 ∉ field := by
      intro e he field hfield
      rcases List.mem_append.1 he with he | he
      · exact hbefore e he field (List.mem_cons_of_mem _ hfield)
      · exact hfirst field hfield e.1 (hpart.spelled e he)
    have htail := ih hrest' hdone (position + 1)
    rw [List.append_assoc] at htail
    rw [List.flatten_cons, slotsFrom?, htail, slot?_keyed
      (fun e he => hbefore e he spellings List.mem_cons_self) hpart
      (not_mem_of_apart hfirst hrest)]
    rfl

/-- **Each field finds what was written for it**, in whatever order the fields stand. -/
theorem named?_of_perm {fields : List (List String)} {parts : List (List (String × α))}
    (apart : Apart fields) (h : List.Forall₂ Fits fields parts)
    {entries : List (String × α)} (horder : entries.Perm parts.flatten) :
    named? fields (keyed entries) = some (parts.map slotOf) := by
  have hkeyed : (keyed entries).Perm (keyed parts.flatten) := horder.map _
  rw [named?, slotsFrom?_perm hkeyed]
  exact slotsFrom?_flatten apart h (fun _ he => absurd he List.not_mem_nil) 0

/-- Nothing stands in a record but what was written for its fields. -/
theorem fst_mem_of_perm {fields : List (List String)} {parts : List (List (String × α))}
    (h : List.Forall₂ Fits fields parts) {entries : List (String × α)}
    (horder : entries.Perm parts.flatten) : ∀ e ∈ entries, e.1 ∈ fields.flatten := by
  intro e he
  have hmem := horder.subset he
  clear horder he
  induction h with
  | nil => cases hmem
  | cons hpart _ ih =>
    rcases List.mem_append.1 hmem with hmem | hmem
    · exact List.mem_append_left _ (hpart.spelled e hmem)
    · exact List.mem_append_right _ (ih hmem)

theorem keyed?_record (entries : List (String × Value)) :
    keyed? (entries.map fun f => (.text f.1, f.2)) = some (keyed entries) := by
  rw [keyed?, mapM_eq_some_iff, keyed, List.forall₂_map_left_iff, List.forall₂_map_right_iff,
    List.forall₂_same]
  intro e _
  rfl

theorem ofTable?_record (fields : List (List String)) (entries : List (String × Value)) :
    ofTable? fields (.record entries) = named? fields (keyed entries) := by
  rw [Value.record, ofTable?, keyed?_record]
  rfl

theorem ofValue?_record (fields : List (List String)) (entries : List (String × Value)) :
    ofValue? fields (.record entries) = named? fields (keyed entries) := by
  rw [Value.record, ofValue?, keyed?_record]
  rfl

/-- A record with text names is read by its fields, in either format. -/
theorem ofSource?_eq_named? {s : Source} {entries : List (Source × Source)}
    {fields : List (String × Source)} (htable : s.asEntries? = some entries)
    (hnames : List.Forall₂ (fun e f => e.1.asText? = some f.1 ∧ e.2 = f.2) entries fields)
    (format : Format) (spellings : List (List String)) :
    ofSource? format spellings s = named? spellings (keyed fields) := by
  have hkeyed : entries.mapM (fun e => e.1.asText?.map fun name => (Key.name name, e.2)) =
      some (keyed fields) := by
    rw [mapM_eq_some_iff, keyed, List.forall₂_map_right_iff]
    refine hnames.imp fun e f h => ?_
    rw [h.1, h.2]
    rfl
  unfold ofSource?
  split
  · -- a list has no entries
    rename_i hlist
    rw [Source.asEntries?, hlist] at htable
    cases htable
  · rw [htable]
    exact congrArg (Option.bind · (named? spellings)) hkeyed

end Fields

end FeatureSurvey
