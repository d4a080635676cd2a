import FeatureSurvey.Proofs.Json.Grammar

/-!
# `Proofs/Json/RoundTrip.lean` — what is printed is read back

Both layouts of a value are texts of it, so whatever is printed is read as the value that it was
printed for (`read?_pretty`, `read?_compact`). The two differ in what they put before a member and
behind the last one, and only there; `textOf_list` and `textOf_record` hold for all such layouts.

A value is `Writable` if it is made of scalars that have a form of their own, and nested no deeper
than the reader goes. Reals are left out: a real is read the quick way, and that may lead to its
neighbour.
-/

set_option autoImplicit false

namespace FeatureSurvey.Json

/-- A value without reals, and nested no deeper than a limit. -/
inductive Writable : Nat → Value → Prop
  | scalar {depth : Nat} {v : Value} (h : IsScalar v) : Writable depth v
  | list {depth : Nat} {items : List Value} (h : ∀ v ∈ items, Writable depth v) :
      Writable (depth + 1) (.list items)
  | record {depth : Nat} {fields : List (String × Value)} (h : ∀ f ∈ fields, Writable depth f.2) :
      Writable (depth + 1) (.record fields)

variable {depth : Nat} {v : Value}

theorem Writable.mono {depth' : Nat} (h : Writable depth v) (hle : depth ≤ depth') :
    Writable depth' v := by
  induction h generalizing depth' with
  | scalar h => exact .scalar h
  | list _ ih =>
    obtain ⟨k, rfl⟩ := Nat.exists_eq_add_of_le hle
    rw [Nat.add_right_comm]
    exact .list fun v hv => ih v hv (Nat.le_add_right _ _)
  | record _ ih =>
    obtain ⟨k, rfl⟩ := Nat.exists_eq_add_of_le hle
    rw [Nat.add_right_comm]
    exact .record fun f hf => ih f hf (Nat.le_add_right _ _)

/-! ## Members and what is between them -/

/-- What is true of one member, and of a member with others behind a comma, is true of members that
are joined by commas, with blanks behind the last. -/
theorem intercalate_induction {α : Type} {P : α → List Char → Prop} {Q : List α → List Char → Prop}
    (last : ∀ a cs, P a cs → Q [a] cs)
    (cons : ∀ a members cs more, P a cs → Q members more → Q (a :: members) (cs ++ ',' :: more))
    (append : ∀ a cs after, P a cs → IsBlank after → P a (cs ++ after)) {members : List α}
    {texts : List String} (h : List.Forall₂ (fun a text => P a text.toList) members texts)
    (hne : members ≠ []) {after : List Char} (hafter : IsBlank after) :
    Q members ((String.intercalate "," texts).toList ++ after) := by
  induction h with
  | nil => exact absurd rfl hne
  | @cons a text members texts ha hrest ih =>
    cases hrest with
    | nil =>
      rw [String.intercalate_singleton]
      exact last _ _ (append _ _ _ ha hafter)
    | cons _ _ =>
      rw [String.intercalate_cons_cons, String.toList_append, String.toList_append,
        List.append_assoc, List.append_assoc]
      exact cons _ _ _ _ ha (ih (List.cons_ne_nil _ _))

theorem textOf_list {items : List Value} {texts : List String}
    (h : List.Forall₂ (fun v text => Padded depth v text.toList) items texts) (hne : items ≠ [])
    {after : String} (hafter : IsBlank after.toList) :
    TextOf (depth + 1) (.list items)
      ("[" ++ String.intercalate "," texts ++ after ++ "]").toList := by
  have hitems : ItemsText depth items ((String.intercalate "," texts).toList ++ after.toList) :=
    intercalate_induction (fun _ _ => .last) (fun _ _ _ _ => .cons) (fun _ _ _ => .append) h hne
      hafter
  simp only [String.toList_append]
  exact .list hitems

theorem textOf_record {fields : List (String × Value)} {texts : List String}
    (h : List.Forall₂ (fun f text => EntryText depth f text.toList) fields texts)
    (hne : fields ≠ []) {after : String} (hafter : IsBlank after.toList) :
    TextOf (depth + 1) (.record fields)
      ("\x7b" ++ String.intercalate "," texts ++ after ++ "\x7d").toList := by
  have hfields : EntriesText depth fields
      ((String.intercalate "," texts).toList ++ after.toList) :=
    intercalate_induction (fun _ _ => .last) (fun _ _ _ _ => .cons) (fun _ _ _ => .append) h hne
      hafter
  simp only [String.toList_append]
  exact .record hfields

/-! ## One member a line -/

theorem isBlank_indentation (level : Nat) : IsBlank (indentation level).toList := by
  rw [indentation, String.toList_append]
  refine (isBlank_singleton (by decide)).append fun c hc => ?_
  rw [String.toList_ofList] at hc
  obtain ⟨-, rfl⟩ := List.mem_replicate.1 hc
  rfl

theorem IsScalar.prettyAt_eq (h : IsScalar v) (level : Nat) : prettyAt level v = printScalar v := by
  cases h <;> rw [prettyAt] <;> simp

theorem prettyAt_list (level : Nat) {items : List Value} (hne : items ≠ []) :
    prettyAt level (.list items) = "[" ++ String.intercalate ","
      (items.map fun v => indentation (level + 1) ++ prettyAt (level + 1) v) ++
      indentation level ++ "]" := by
  rw [prettyAt, prettyItems_eq_map]
  exact hne

theorem prettyAt_record (level : Nat) {fields : List (String × Value)} (hne : fields ≠ []) :
    prettyAt level (.record fields) = "\x7b" ++ String.intercalate ","
      (fields.map fun f =>
        indentation (level + 1) ++ quote f.1 ++ ": " ++ prettyAt (level + 1) f.2) ++
      indentation level ++ "\x7d" := by
  rw [Value.record, prettyAt, prettyEntries_record]
  simpa using hne

theorem Writable.textOf_prettyAt (h : Writable depth v) (level : Nat) :
    TextOf depth v (prettyAt level v).toList := by
  induction h generalizing level with
  | scalar h =>
    rw [h.prettyAt_eq]
    exact .scalar h
  | @list depth items h ih =>
    by_cases hne : items = []
    · rw [hne, prettyAt]
      exact .emptyList
    · rw [prettyAt_list level hne]
      refine textOf_list ?_ hne (isBlank_indentation level)
      rw [List.forall₂_map_right_iff, List.forall₂_same]
      intro v hv
      rw [String.toList_append]
      exact (ih v hv _).behind (isBlank_indentation _)
  | @record depth fields h ih =>
    by_cases hne : fields = []
    · rw [hne, Value.record, List.map_nil, prettyAt]
      exact .emptyRecord
    · rw [prettyAt_record level hne]
      refine textOf_record ?_ hne (isBlank_indentation level)
      rw [List.forall₂_map_right_iff, List.forall₂_same]
      intro f hf
      have hvalue : Padded depth f.2 (' ' :: (prettyAt (level + 1) f.2).toList) :=
        (ih f hf _).behind (isBlank_singleton (by decide))
      simp only [String.toList_append, List.append_assoc]
      exact .intro (isBlank_indentation _) hvalue

/-! ## Without blanks -/

theorem IsScalar.compact_eq (h : IsScalar v) : compact v = printScalar v := by
  cases h <;> rw [compact] <;> simp

theorem compact_list (items : List Value) :
    compact (.list items) =
      "[" ++ String.intercalate "," (items.map compact) ++ "" ++ "]" := by
  rw [compact, compactItems_eq_map, String.append_empty]

theorem compact_record (fields : List (String × Value)) :
    compact (.record fields) = "\x7b" ++ String.intercalate ","
      (fields.map fun f => quote f.1 ++ ":" ++ compact f.2) ++ "" ++ "\x7d" := by
  rw [Value.record, compact, compactEntries_record, String.append_empty]

theorem Writable.textOf_compact (h : Writable depth v) : TextOf depth v (compact v).toList := by
  induction h with
  | scalar h =>
    rw [h.compact_eq]
    exact .scalar h
  | @list depth items h ih =>
    rw [compact_list]
    by_cases hne : items = []
    · rw [hne]
      exact .emptyList
    · refine textOf_list ?_ hne isBlank_nil
      rw [List.forall₂_map_right_iff, List.forall₂_same]
      exact fun v hv => (ih v hv).padded
  | @record depth fields h ih =>
    rw [compact_record]
    by_cases hne : fields = []
    · rw [hne]
      exact .emptyRecord
    · refine textOf_record ?_ hne isBlank_nil
      rw [List.forall₂_map_right_iff, List.forall₂_same]
      intro f hf
      rw [String.toList_append, String.toList_append, List.append_assoc, ← List.nil_append (_ ++ _)]
      exact .intro isBlank_nil (ih f hf).padded

/-! ## Reading back -/

/-- **What is printed is read back**, in either layout. -/
theorem read?_compact (h : Writable nestingLimit v) :
    ∃ s, read? (compact v) = some s ∧ s.Delivers v :=
  read?_of_padded h.textOf_compact.padded

/-- In a file there may be a line feed behind it. -/
theorem read?_pretty (h : Writable nestingLimit v) {after : String}
    (hafter : IsBlank after.toList) : ∃ s, read? (pretty v ++ after) = some s ∧ s.Delivers v := by
  refine read?_of_padded ?_
  rw [String.toList_append]
  exact (h.textOf_prettyAt 0).padded.append hafter

end FeatureSurvey.Json
