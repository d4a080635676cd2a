import FeatureSurvey.Proofs.Data.Delivery
import FeatureSurvey.Proofs.Json.Scalars
import Mathlib.Data.List.DropRight

/-!
# `Proofs/Json/Grammar.lean` — the texts of a value

A value has many texts, which differ in their blanks. `TextOf` says which they are, for values that
have a text at all, and it counts how deep lists and tables are nested. **Each text of a value is
read as that value** (`read?_of_padded`), and the reader leaves what stands behind the text
(`TextOf.read`).

The converse does not hold. There are texts that are read and that are no `TextOf` anything: a
number may have an exponent, a character may be escaped that need not be, and a name may have a
blank before its colon. Nothing writes these.

The reader counts its steps. A text of `n` characters takes no more than `2 * n` of them, and
members one more, as each of their calls takes a character or hands on to one that does.
-/

set_option autoImplicit false

namespace FeatureSurvey.Json

/-! ## Texts -/

def IsBlank (cs : List Char) : Prop := ∀ c ∈ cs, isSpace c = true

mutual

/-- A text of a value in which lists and tables are nested no deeper than a limit. -/
inductive TextOf : Nat → Value → List Char → Prop
  | scalar {depth : Nat} {v : Value} (h : IsScalar v) : TextOf depth v (printScalar v).toList
  | emptyList {depth : Nat} : TextOf (depth + 1) (.list []) ['[', ']']
  | list {depth : Nat} {items : List Value} {cs : List Char} (h : ItemsText depth items cs) :
      TextOf (depth + 1) (.list items) ('[' :: (cs ++ [']']))
  | emptyRecord {depth : Nat} : TextOf (depth + 1) (.record []) ['\x7b', '\x7d']
  | record {depth : Nat} {fields : List (String × Value)} {cs : List Char}
      (h : EntriesText depth fields cs) :
      TextOf (depth + 1) (.record fields) ('\x7b' :: (cs ++ ['\x7d']))

/-- A text with blanks around it. -/
inductive Padded : Nat → Value → List Char → Prop
  | intro {depth : Nat} {v : Value} {before cs after : List Char} (hbefore : IsBlank before)
      (h : TextOf depth v cs) (hafter : IsBlank after) : Padded depth v (before ++ (cs ++ after))

/-- One or more texts, with commas between them. -/
inductive ItemsText : Nat → List Value → List Char → Prop
  | last {depth : Nat} {v : Value} {cs : List Char} (h : Padded depth v cs) : ItemsText depth [v] cs
  | cons {depth : Nat} {v : Value} {items : List Value} {cs more : List Char}
      (h : Padded depth v cs) (hmore : ItemsText depth items more) :
      ItemsText depth (v :: items) (cs ++ ',' :: more)

/-- A name and the text of what stands under it. -/
inductive EntryText : Nat → String × Value → List Char → Prop
  | intro {depth : Nat} {f : String × Value} {before cs : List Char} (hbefore : IsBlank before)
      (h : Padded depth f.2 cs) : EntryText depth f (before ++ ((quote f.1).toList ++ ':' :: cs))

/-- One or more names with their texts. -/
inductive EntriesText : Nat → List (String × Value) → List Char → Prop
  | last {depth : Nat} {f : String × Value} {cs : List Char} (h : EntryText depth f cs) :
      EntriesText depth [f] cs
  | cons {depth : Nat} {f : String × Value} {fields : List (String × Value)} {cs more : List Char}
      (h : EntryText depth f cs) (hmore : EntriesText depth fields more) :
      EntriesText depth (f :: fields) (cs ++ ',' :: more)

end

variable {depth fuel : Nat} {v : Value} {cs rest : List Char}

/-! ## Blanks -/

theorem isBlank_nil : IsBlank [] := fun _ hc => absurd hc List.not_mem_nil

theorem isBlank_singleton {c : Char} (h : isSpace c = true) : IsBlank [c] := by
  intro d hd
  rw [List.mem_singleton.1 hd]
  exact h

theorem IsBlank.append {after : List Char} (h : IsBlank cs) (hafter : IsBlank after) :
    IsBlank (cs ++ after) := by
  intro c hc
  rcases List.mem_append.1 hc with hc | hc
  · exact h c hc
  · exact hafter c hc

theorem skipSpace_append {before : List Char} (h : IsBlank before) (cs : List Char) :
    skipSpace (before ++ cs) = skipSpace cs :=
  List.dropWhile_append_of_pos h

theorem skipSpace_skipSpace (cs : List Char) : skipSpace (skipSpace cs) = skipSpace cs :=
  List.dropWhile_idempotent ..

/-- No number goes on with what parts members or closes them. -/
theorem EndsNumber.mark {c : Char} (hc : c = ',' ∨ c = ']' ∨ c = '\x7d') (cs : List Char) :
    EndsNumber (c :: cs) := by
  intro d hd
  obtain rfl : c = d := Option.some.inj hd
  rcases hc with rfl | rfl | rfl <;> decide

/-- Nor does it go on with a blank. -/
theorem EndsNumber.behind {after : List Char} (h : IsBlank after) (hrest : EndsNumber rest) :
    EndsNumber (after ++ rest) := by
  cases after with
  | nil => exact hrest
  | cons c more =>
    intro d hd
    obtain rfl : c = d := Option.some.inj hd
    have hspace := h c List.mem_cons_self
    simp only [isSpace, Bool.or_eq_true, beq_iff_eq] at hspace
    rcases hspace with ((rfl | rfl) | rfl) | rfl <;> decide

/-- A text behind blanks. -/
theorem TextOf.behind {before : List Char} (h : TextOf depth v cs) (hbefore : IsBlank before) :
    Padded depth v (before ++ cs) := by
  rw [← List.append_nil cs]
  exact .intro hbefore h isBlank_nil

theorem TextOf.padded (h : TextOf depth v cs) : Padded depth v cs := h.behind isBlank_nil

theorem Padded.append {after : List Char} (h : Padded depth v cs) (hafter : IsBlank after) :
    Padded depth v (cs ++ after) := by
  obtain ⟨hbefore, h, hmore⟩ := h
  rw [List.append_assoc, List.append_assoc]
  exact .intro hbefore h (hmore.append hafter)

theorem EntryText.append {f : String × Value} {after : List Char} (h : EntryText depth f cs)
    (hafter : IsBlank after) : EntryText depth f (cs ++ after) := by
  obtain ⟨hbefore, h⟩ := h
  rw [List.append_assoc, List.append_assoc]
  exact .intro hbefore (h.append hafter)

/-! ### How a text begins -/

theorem TextOf.exists_cons (h : TextOf depth v cs) : ∃ c more, cs = c :: more ∧ Opens c := by
  cases h with
  | scalar h => exact exists_printScalar_cons h
  | emptyList => exact ⟨'[', _, rfl, by decide, by decide⟩
  | list h => exact ⟨'[', _, rfl, by decide, by decide⟩
  | emptyRecord => exact ⟨'\x7b', _, rfl, by decide, by decide⟩
  | record h => exact ⟨'\x7b', _, rfl, by decide, by decide⟩

theorem Padded.begins (h : Padded depth v cs) (tail : List Char) :
    ∃ c more, skipSpace (cs ++ tail) = c :: more ∧ Opens c := by
  obtain ⟨hbefore, h, -⟩ := h
  obtain ⟨c, more, rfl, hc⟩ := h.exists_cons
  rw [List.append_assoc, skipSpace_append hbefore, List.append_assoc, List.cons_append,
    skipSpace_cons hc.space]
  exact ⟨c, _, rfl, hc⟩

theorem ItemsText.begins {items : List Value} (h : ItemsText depth items cs) (tail : List Char) :
    ∃ c more, skipSpace (cs ++ tail) = c :: more ∧ Opens c := by
  cases h with
  | last h => exact h.begins tail
  | cons h hmore =>
    rw [List.append_assoc]
    exact h.begins _

theorem EntryText.begins {f : String × Value} (h : EntryText depth f cs) (tail : List Char) :
    ∃ more, skipSpace (cs ++ tail) = '"' :: more := by
  obtain ⟨hbefore, -⟩ := h
  rw [List.append_assoc, skipSpace_append hbefore, toList_quote]
  exact ⟨_, rfl⟩

theorem EntriesText.begins {fields : List (String × Value)} (h : EntriesText depth fields cs)
    (tail : List Char) : ∃ more, skipSpace (cs ++ tail) = '"' :: more := by
  cases h with
  | last h => exact h.begins tail
  | cons h hmore =>
    rw [List.append_assoc]
    exact h.begins _

/-! ## Steps of the reader -/

theorem value?_skipSpace (fuel depth : Nat) (cs : List Char) :
    value? fuel depth (skipSpace cs) = value? fuel depth cs := by
  cases fuel with
  | zero => rfl
  | succ fuel => rw [value?, value?, skipSpace_skipSpace]

theorem items?_skipSpace (fuel depth : Nat) (cs : List Char) :
    items? fuel depth (skipSpace cs) = items? fuel depth cs := by
  cases fuel with
  | zero => rfl
  | succ fuel => rw [items?, items?, value?_skipSpace]

theorem entries?_skipSpace (fuel depth : Nat) (cs : List Char) :
    entries? fuel depth (skipSpace cs) = entries? fuel depth cs := by
  cases fuel with
  | zero => rfl
  | succ fuel => rw [entries?, entries?, skipSpace_skipSpace]

theorem value?_list {items : List Source} (hbegins : ∃ c more, skipSpace cs = c :: more ∧ Opens c)
    (h : items? fuel depth cs = some (items, rest)) :
    value? (fuel + 1) (depth + 1) ('[' :: cs) = some (.list items, rest) := by
  obtain ⟨c, more, hc, hopens⟩ := hbegins
  rw [← items?_skipSpace, hc] at h
  rw [value?, skipSpace_cons (by decide)]
  simp only [hc]
  split
  · rename_i hclose
    exact absurd (List.cons.inj hclose).1 hopens.bracket
  · rw [Nat.add_sub_cancel, h]
    rfl

theorem value?_table {entries : List (Source × Source)}
    (hbegins : ∃ more, skipSpace cs = '"' :: more)
    (h : entries? fuel depth cs = some (entries, rest)) :
    value? (fuel + 1) (depth + 1) ('\x7b' :: cs) = some (.table entries, rest) := by
  obtain ⟨more, hquote⟩ := hbegins
  rw [← entries?_skipSpace, hquote] at h
  rw [value?, skipSpace_cons (by decide)]
  simp only [hquote]
  split
  · rename_i hclose
    exact absurd (List.cons.inj hclose).1 (by decide)
  · rw [Nat.add_sub_cancel, h]
    rfl

section Members

variable {s : Source} {after more : List Char} (h : value? fuel depth cs = some (s, after))

include h

theorem items?_last (hafter : skipSpace after = ']' :: rest) :
    items? (fuel + 1) depth cs = some ([s], rest) := by
  rw [items?, h, Option.bind_eq_bind, Option.bind_some]
  simp only [hafter]

theorem items?_cons {items : List Source} (hafter : skipSpace after = ',' :: more)
    (hmore : items? fuel depth more = some (items, rest)) :
    items? (fuel + 1) depth cs = some (s :: items, rest) := by
  rw [items?, h, Option.bind_eq_bind, Option.bind_some]
  simp only [hafter, hmore]
  rfl

variable {before : List Char} (hbefore : IsBlank before) (name : String)

include hbefore

theorem entries?_last (hafter : skipSpace after = '\x7d' :: rest) :
    entries? (fuel + 1) depth (before ++ ((quote name).toList ++ ':' :: cs)) =
      some ([(.value (.text name), s)], rest) := by
  rw [entries?, skipSpace_append hbefore, toList_quote]
  simp (disch := decide) only [List.cons_append, List.append_assoc, List.nil_append,
    skipSpace_cons, stringUnits?_escaped, stringSource_chars, Option.bind_eq_bind,
    Option.bind_some, h, hafter]

theorem entries?_cons {entries : List (Source × Source)} (hafter : skipSpace after = ',' :: more)
    (hmore : entries? fuel depth more = some (entries, rest)) :
    entries? (fuel + 1) depth (before ++ ((quote name).toList ++ ':' :: cs)) =
      some ((.value (.text name), s) :: entries, rest) := by
  rw [entries?, skipSpace_append hbefore, toList_quote]
  simp (disch := decide) only [List.cons_append, List.append_assoc, List.nil_append,
    skipSpace_cons, stringUnits?_escaped, stringSource_chars, Option.bind_eq_bind,
    Option.bind_some, h, hafter, hmore]

end Members

/-! ## Reading texts -/

/-- Where a step is needed, there is one. -/
theorem exists_step {n : Nat} (h : n + 1 ≤ fuel) : ∃ k, fuel = k + 1 ∧ n ≤ k :=
  ⟨fuel - 1, by omega, by omega⟩

mutual

theorem TextOf.read : {depth : Nat} → {v : Value} → {cs : List Char} → TextOf depth v cs →
    ∀ {fuel : Nat} {rest : List Char}, EndsNumber rest → 2 * cs.length ≤ fuel →
    ∃ s, value? fuel depth (cs ++ rest) = some (s, rest) ∧ s.Delivers v
  | _, _, _, .scalar h, fuel, rest, hrest, hfuel => by
    obtain ⟨c, more, hcs, -⟩ := exists_printScalar_cons h
    rw [hcs, List.length_cons] at hfuel
    obtain ⟨fuel, rfl, -⟩ := exists_step hfuel
    exact ⟨_, value?_scalar h hrest fuel _, .value _⟩
  | _, _, _, .emptyList, fuel, rest, hrest, hfuel => by
    obtain ⟨fuel, rfl, -⟩ := exists_step hfuel
    exact ⟨_, rfl, .list .nil⟩
  | _, _, _, .list h, fuel, rest, hrest, hfuel => by
    rw [List.length_cons, List.length_append] at hfuel
    obtain ⟨fuel, rfl, hstep⟩ := exists_step hfuel
    obtain ⟨items, hitems, hdelivers⟩ := h.read rest (by omega : _ ≤ fuel)
    rw [List.cons_append, List.append_assoc]
    exact ⟨.list items, value?_list (h.begins _) hitems, .list hdelivers⟩
  | _, _, _, .emptyRecord, fuel, rest, hrest, hfuel => by
    obtain ⟨fuel, rfl, -⟩ := exists_step hfuel
    exact ⟨_, rfl, .table .nil⟩
  | _, _, _, .record h, fuel, rest, hrest, hfuel => by
    rw [List.length_cons, List.length_append] at hfuel
    obtain ⟨fuel, rfl, hstep⟩ := exists_step hfuel
    obtain ⟨entries, hentries, hdelivers⟩ := h.read rest (by omega : _ ≤ fuel)
    rw [List.cons_append, List.append_assoc]
    exact ⟨.table entries, value?_table (h.begins _) hentries, .table hdelivers⟩

/-- The blanks behind a text may be left. -/
theorem Padded.read : {depth : Nat} → {v : Value} → {cs : List Char} → Padded depth v cs →
    ∀ {fuel : Nat} {rest : List Char}, EndsNumber rest → 2 * cs.length ≤ fuel →
    ∃ s after, value? fuel depth (cs ++ rest) = some (s, after) ∧
      skipSpace after = skipSpace rest ∧ s.Delivers v
  | _, _, _, .intro hbefore h hafter, fuel, rest, hrest, hfuel => by
    simp only [List.length_append] at hfuel
    obtain ⟨s, hs, hdelivers⟩ := h.read (hrest.behind hafter) (by omega : 2 * _ ≤ fuel)
    refine ⟨s, _, ?_, skipSpace_append hafter rest, hdelivers⟩
    rw [List.append_assoc, List.append_assoc, ← value?_skipSpace, skipSpace_append hbefore,
      value?_skipSpace, hs]

theorem ItemsText.read : {depth : Nat} → {items : List Value} → {cs : List Char} →
    ItemsText depth items cs → ∀ (rest : List Char) {fuel : Nat}, 2 * cs.length + 1 ≤ fuel →
    ∃ sources, items? fuel depth (cs ++ ']' :: rest) = some (sources, rest) ∧
      Source.DeliversItems sources items
  | _, _, _, .last h, rest, fuel, hfuel => by
    obtain ⟨fuel, rfl, hstep⟩ := exists_step hfuel
    obtain ⟨s, after, hs, hafter, hdelivers⟩ := h.read (.mark (.inr (.inl rfl)) rest) hstep
    exact ⟨[s], items?_last hs (hafter.trans (skipSpace_cons rfl _)), .cons hdelivers .nil⟩
  | _, _, _, .cons h hmore, rest, fuel, hfuel => by
    obtain ⟨fuel, rfl, hstep⟩ := exists_step hfuel
    rw [List.length_append, List.length_cons] at hfuel
    obtain ⟨sources, hsources, hothers⟩ := hmore.read rest (by omega : _ ≤ fuel)
    obtain ⟨s, after, hs, hafter, hdelivers⟩ :=
      h.read (.mark (.inl rfl) _) (by omega : 2 * _ ≤ fuel)
    rw [List.append_assoc]
    exact ⟨s :: sources, items?_cons hs (hafter.trans (skipSpace_cons rfl _)) hsources,
      .cons hdelivers hothers⟩

theorem EntriesText.read : {depth : Nat} → {fields : List (String × Value)} → {cs : List Char} →
    EntriesText depth fields cs → ∀ (rest : List Char) {fuel : Nat}, 2 * cs.length + 1 ≤ fuel →
    ∃ sources, entries? fuel depth (cs ++ '\x7d' :: rest) = some (sources, rest) ∧
      Source.DeliversEntries sources (fields.map fun f => (.text f.1, f.2))
  | _, _, _, @EntriesText.last depth f _ (.intro hbefore h), rest, fuel, hfuel => by
    obtain ⟨fuel, rfl, hstep⟩ := exists_step hfuel
    simp only [List.length_append, List.length_cons] at hfuel
    obtain ⟨s, after, hs, hafter, hdelivers⟩ :=
      h.read (.mark (.inr (.inr rfl)) rest) (by omega : 2 * _ ≤ fuel)
    simp only [List.append_assoc, List.cons_append]
    exact ⟨_, entries?_last hs hbefore f.1 (hafter.trans (skipSpace_cons rfl _)),
      .cons (.value _) hdelivers .nil⟩
  | _, _, _, @EntriesText.cons _ f _ _ _ (.intro hbefore h) hmore, rest, fuel, hfuel => by
    obtain ⟨fuel, rfl, hstep⟩ := exists_step hfuel
    simp only [List.length_append, List.length_cons] at hfuel
    obtain ⟨sources, hsources, hothers⟩ := hmore.read rest (by omega : _ ≤ fuel)
    obtain ⟨s, after, hs, hafter, hdelivers⟩ :=
      h.read (.mark (.inl rfl) _) (by omega : 2 * _ ≤ fuel)
    simp only [List.append_assoc, List.cons_append]
    exact ⟨_, entries?_cons hs hbefore f.1 (hafter.trans (skipSpace_cons rfl _)) hsources,
      .cons (.value _) hdelivers hothers⟩

end

/-- **A text of a value, with blanks around it, is read as the value.** -/
theorem read?_of_padded {text : String} (h : Padded nestingLimit v text.toList) :
    ∃ s, read? text = some s ∧ s.Delivers v := by
  have hend : EndsNumber [] := fun c hc => absurd hc (Option.not_mem_none c)
  obtain ⟨s, after, hs, hafter, hdelivers⟩ := h.read hend (Nat.le_succ (2 * text.toList.length))
  rw [List.append_nil] at hs
  refine ⟨s, ?_, hdelivers⟩
  rw [read?, hs, Option.bind_eq_bind, Option.bind_some]
  simp only [hafter]
  rfl

end FeatureSurvey.Json
