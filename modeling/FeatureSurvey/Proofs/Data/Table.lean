import FeatureSurvey.Data.Table
import Mathlib.Data.List.Induction
import Mathlib.Data.List.Nodup
import Mathlib.Data.List.Perm.Basic

/-!
# `Proofs/Data/Table.lean` — tables as what they answer

What is listed in a table is what it answers (`Table.mem_entries_iff`), and a table is determined by
its answers. Of a list of entries it answers with the last for each name (`Table.get?_ofList`), so
**the order in which entries are put in does not matter**, as long as no name comes twice
(`Table.ofList_perm`).
-/

set_option autoImplicit false

namespace FeatureSurvey

/-- Where no key comes twice, what is found under a key is the one item that has it. -/
theorem find?_key_eq_some_iff {α : Type} {items : List α} {key : α → String}
    (distinct : (items.map key).Nodup) {name : String} {a : α} :
    (items.find? fun item => key item == name) = some a ↔ a ∈ items ∧ key a = name := by
  constructor
  · intro h
    exact ⟨List.mem_of_find?_eq_some h, by simpa using List.find?_some h⟩
  · rintro ⟨ha, rfl⟩
    have hthere : (items.find? fun item => key item == key a).isSome :=
      List.find?_isSome.2 ⟨a, ha, beq_self_eq_true (key a)⟩
    obtain ⟨found, hfound⟩ := Option.isSome_iff_exists.1 hthere
    have hkey : key found = key a := by simpa using List.find?_some hfound
    rw [hfound, List.inj_on_of_nodup_map distinct (List.mem_of_find?_eq_some hfound) ha hkey]

namespace Table

variable {α : Type}

/-! ## Entries by name -/

section Entries

variable {entries : List (String × α)} {name : String} {value : α}

/-- Where no name comes twice an entry is found by its name, and nothing else is. -/
theorem find?_eq_some_iff_mem (distinct : (entries.map (·.1)).Nodup) {e : String × α} :
    (entries.find? fun other => other.1 == e.1).map (·.2) = some e.2 ↔ e ∈ entries := by
  rw [Option.map_eq_some_iff]
  constructor
  · rintro ⟨found, hfound, hvalue⟩
    obtain ⟨hmem, hname⟩ := (find?_key_eq_some_iff distinct).1 hfound
    rw [← Prod.ext hname hvalue]
    exact hmem
  · intro he
    exact ⟨e, (find?_key_eq_some_iff distinct).2 ⟨he, rfl⟩, rfl⟩

/-- The last entry for a name is the one behind which there is no other. -/
theorem find?_reverse_eq_some_iff :
    (entries.reverse.find? fun e => e.1 == name).map (·.2) = some value ↔
      ∃ before after, entries = before ++ (name, value) :: after ∧ ∀ e ∈ after, e.1 ≠ name := by
  rw [Option.map_eq_some_iff]
  constructor
  · rintro ⟨⟨k, v⟩, hfound, rfl⟩
    obtain ⟨hname, after, before, hsplit, hafter⟩ := List.find?_eq_some_iff_append.1 hfound
    obtain rfl : k = name := by simpa using hname
    refine ⟨before.reverse, after.reverse, by simpa using congrArg List.reverse hsplit, ?_⟩
    intro e he
    simpa using hafter e (List.mem_reverse.1 he)
  · rintro ⟨before, after, rfl, hafter⟩
    refine ⟨(name, value), List.find?_eq_some_iff_append.2 ⟨beq_self_eq_true name,
      after.reverse, before.reverse, by simp, ?_⟩, rfl⟩
    intro e he
    simpa using hafter e (List.mem_reverse.1 he)

end Entries

/-! ## Tables -/

theorem nodup_names (t : Table α) : t.names.Nodup :=
  List.pairwise_map.2 (t.sorted.imp fun hlt => String.ne_of_lt hlt)

theorem mem_entries_iff {t : Table α} {e : String × α} :
    e ∈ t.entries ↔ t.get? e.1 = some e.2 :=
  (find?_eq_some_iff_mem t.nodup_names).symm

theorem mem_names_iff {t : Table α} {name : String} :
    name ∈ t.names ↔ (t.get? name).isSome = true := by
  simp only [names, List.mem_map, Option.isSome_iff_exists]
  constructor
  · rintro ⟨e, he, rfl⟩
    exact ⟨e.2, mem_entries_iff.1 he⟩
  · rintro ⟨value, hvalue⟩
    exact ⟨(name, value), mem_entries_iff.2 hvalue, rfl⟩

theorem mem_names_insert {t : Table α} {name other : String} {value : α} :
    other ∈ (t.insert name value).names ↔ other = name ∨ other ∈ t.names := by
  rw [mem_names_iff, mem_names_iff, get?_insert]
  by_cases hname : other = name <;> simp [hname]

/-- A table has the names that were put in. -/
theorem mem_names_ofList {entries : List (String × α)} {name : String} :
    name ∈ (ofList entries).names ↔ name ∈ entries.map (·.1) := by
  suffices h : ∀ t : Table α, name ∈ (entries.foldl (fun t e => t.insert e.1 e.2) t).names ↔
      name ∈ t.names ∨ name ∈ entries.map (·.1) by
    have hempty : name ∉ (∅ : Table α).names := List.not_mem_nil
    rw [ofList, h ∅, or_iff_right hempty]
  induction entries with
  | nil => simp
  | cons e entries ih =>
    intro t
    rw [List.foldl_cons, ih, mem_names_insert, List.map_cons, List.mem_cons]
    tauto

/-- What was put in last for a name counts, and without that what was there before. -/
theorem get?_foldl_insert (entries : List (String × α)) (t : Table α) (name : String) :
    (entries.foldl (fun t e => t.insert e.1 e.2) t).get? name =
      ((entries.reverse.find? fun e => e.1 == name).map (·.2)).or (t.get? name) := by
  induction entries using List.reverseRecOn with
  | nil => rfl
  | append_singleton entries e ih =>
    rw [List.foldl_concat, get?_insert, ih, List.reverse_concat, List.find?_cons]
    by_cases hname : e.1 = name
    · simp [hname]
    · simp [beq_eq_false_iff_ne.2 hname, Ne.symm hname]

/-- Of several entries for one name the last counts. -/
theorem get?_ofList {entries : List (String × α)} {name : String} {value : α} :
    (ofList entries).get? name = some value ↔
      ∃ before after, entries = before ++ (name, value) :: after ∧ ∀ e ∈ after, e.1 ≠ name := by
  have hlast : (ofList entries).get? name =
      (entries.reverse.find? fun e => e.1 == name).map (·.2) := by
    rw [ofList, get?_foldl_insert, get?_empty, Option.or_none]
  rw [hlast, find?_reverse_eq_some_iff]

/-- In a list that has no name twice every entry counts. -/
theorem get?_ofList_of_nodup {entries : List (String × α)} (h : (entries.map (·.1)).Nodup)
    {name : String} {value : α} :
    (ofList entries).get? name = some value ↔ (name, value) ∈ entries := by
  rw [get?_ofList]
  constructor
  · rintro ⟨before, after, rfl, -⟩
    simp
  · intro hmem
    obtain ⟨before, after, rfl⟩ := List.append_of_mem hmem
    refine ⟨before, after, rfl, fun e he heq => ?_⟩
    rw [List.map_append, List.map_cons, List.nodup_middle, List.nodup_cons] at h
    exact h.1 (List.mem_append_right _ (List.mem_map.2 ⟨e, he, heq⟩))

theorem mem_entries_ofList {entries : List (String × α)} (h : (entries.map (·.1)).Nodup)
    {e : String × α} : e ∈ (ofList entries).entries ↔ e ∈ entries := by
  rw [mem_entries_iff, get?_ofList_of_nodup h]

/-- Where no name comes twice, a table has the entries it was made of. -/
theorem entries_ofList_perm {entries : List (String × α)} (h : (entries.map (·.1)).Nodup) :
    (ofList entries).entries.Perm entries :=
  (List.perm_ext_iff_of_nodup ((ofList entries).nodup_names.of_map _) (h.of_map _)).2
    fun _ => mem_entries_ofList h

/-- Entries in rising order are a table already. -/
theorem entries_ofList_of_pairwise {entries : List (String × α)}
    (h : entries.Pairwise fun a b => a.1 < b.1) : (ofList entries).entries = entries :=
  congrArg Table.entries (ofList_entries ⟨entries, h⟩)

/-- Tables that answer alike are the same. -/
theorem ext_get? {s t : Table α} (h : ∀ name, s.get? name = t.get? name) : s = t := by
  have hperm : s.entries.Perm t.entries := by
    refine (List.perm_ext_iff_of_nodup (s.nodup_names.of_map _) (t.nodup_names.of_map _)).2
      fun e => ?_
    rw [mem_entries_iff, mem_entries_iff, h]
  ext1
  exact hperm.eq_of_pairwise (fun _ _ _ _ hlt hgt => absurd hgt (String.lt_asymm hlt)) s.sorted
    t.sorted

theorem insert_comm (t : Table α) {name other : String} (h : name ≠ other) (value v : α) :
    (t.insert name value).insert other v = (t.insert other v).insert name value := by
  refine ext_get? fun asked => ?_
  simp only [get?_insert]
  by_cases hname : asked = name
  · simp [hname, h]
  · simp [hname]

/-- A table may be read from its entries in any order. -/
theorem ofList_perm {t : Table α} {entries : List (String × α)} (h : entries.Perm t.entries) :
    ofList entries = t := by
  refine Eq.trans ?_ t.ofList_entries
  refine h.foldl_eq' (fun e he e' he' s => ?_) ∅
  by_cases hname : e.1 = e'.1
  · rw [List.inj_on_of_nodup_map t.nodup_names (h.subset he) (h.subset he') hname]
  · exact insert_comm s hname e.2 e'.2

end Table

end FeatureSurvey
