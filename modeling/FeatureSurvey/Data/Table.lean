/-!
# `Data/Table.lean` — tables sorted by name

A table gives each of its names one value, and lists its entries in the order of their names
(by code point). Two tables with the same entries are therefore the same table, which is what
makes "reads back to the same value" a plain equality.

The order is a field of the type. `insert` replaces the value of a name that is there already, so
a table built from a list keeps the last value of each name.
-/

set_option autoImplicit false

namespace FeatureSurvey

variable {α β : Type}

namespace Table

/-- Put an entry into a list of entries in rising order. -/
def place (name : String) (value : α) : List (String × α) → List (String × α)
  | [] => [(name, value)]
  | (other, v) :: rest =>
    if name < other then (name, value) :: (other, v) :: rest
    else if name = other then (name, value) :: rest
    else (other, v) :: place name value rest

theorem mem_place {name : String} {value : α} {entries : List (String × α)} {e : String × α}
    (h : e ∈ place name value entries) : e = (name, value) ∨ e ∈ entries := by
  induction entries with
  | nil => simpa [place] using h
  | cons head rest ih =>
    obtain ⟨other, v⟩ := head
    unfold place at h
    split at h
    · simpa using h
    · split at h
      · rcases List.mem_cons.1 h with h | h
        · exact .inl h
        · exact .inr (List.mem_cons_of_mem _ h)
      · rcases List.mem_cons.1 h with h | h
        · exact .inr (h ▸ List.mem_cons_self)
        · rcases ih h with h | h
          · exact .inl h
          · exact .inr (List.mem_cons_of_mem _ h)

theorem pairwise_place {name : String} {value : α} {entries : List (String × α)}
    (h : entries.Pairwise fun a b => a.1 < b.1) :
    (place name value entries).Pairwise fun a b => a.1 < b.1 := by
  induction entries with
  | nil => simp [place]
  | cons head rest ih =>
    obtain ⟨other, v⟩ := head
    obtain ⟨hhead, hrest⟩ := List.pairwise_cons.1 h
    unfold place
    split
    · rename_i hlt
      refine List.pairwise_cons.2 ⟨fun e he => ?_, h⟩
      rcases List.mem_cons.1 he with rfl | he
      · exact hlt
      · exact String.lt_trans hlt (hhead e he)
    · rename_i hnlt
      split
      · rename_i heq
        exact List.pairwise_cons.2 ⟨fun e he => heq ▸ hhead e he, hrest⟩
      · rename_i hne
        refine List.pairwise_cons.2 ⟨fun e he => ?_, ih hrest⟩
        rcases mem_place he with rfl | he
        · have hle : other ≤ name := String.not_lt.1 hnlt
          exact Decidable.byContradiction fun hn =>
            hne (String.le_antisymm (String.not_lt.1 hn) hle)
        · exact hhead e he

end Table

/-- Entries in rising order of their names. -/
structure Table (α : Type) where
  entries : List (String × α)
  sorted : entries.Pairwise fun a b => a.1 < b.1
  deriving DecidableEq

namespace Table

instance : EmptyCollection (Table α) := ⟨⟨[], .nil⟩⟩

instance : Inhabited (Table α) := ⟨∅⟩

@[ext] theorem ext {s t : Table α} (h : s.entries = t.entries) : s = t := by
  cases s; cases t; cases h; rfl

/-- Give `name` the value, in place of the one it may have. -/
def insert (t : Table α) (name : String) (value : α) : Table α :=
  ⟨place name value t.entries, pairwise_place t.sorted⟩

def get? (t : Table α) (name : String) : Option α :=
  (t.entries.find? fun e => e.1 == name).map (·.2)

def isEmpty (t : Table α) : Bool := t.entries.isEmpty

/-- The table of a list of entries; of several for one name the last counts. -/
def ofList (entries : List (String × α)) : Table α :=
  entries.foldl (fun t e => t.insert e.1 e.2) ∅

def names (t : Table α) : List String := t.entries.map (·.1)

def values (t : Table α) : List α := t.entries.map (·.2)

/-! ## Looking up what was put in -/

theorem find?_place (name : String) (value : α) (entries : List (String × α)) (other : String)
    (h : entries.Pairwise fun a b => a.1 < b.1) :
    ((place name value entries).find? fun e => e.1 == other).map (·.2) =
      if other = name then some value else (entries.find? fun e => e.1 == other).map (·.2) := by
  induction entries with
  | nil =>
    by_cases hn : other = name
    · simp [place, hn]
    · simp [place, hn, Ne.symm hn]
  | cons head rest ih =>
    obtain ⟨k, v⟩ := head
    obtain ⟨hhead, hrest⟩ := List.pairwise_cons.1 h
    unfold place
    split
    · by_cases hn : other = name
      · simp [hn]
      · simp [hn, Ne.symm hn]
    · split
      · rename_i heq
        subst heq
        by_cases hn : other = name
        · simp [hn]
        · simp [hn, Ne.symm hn]
      · rename_i hne
        by_cases hk : k = other
        · subst hk
          simp [Ne.symm hne]
        · simp only [List.find?_cons, beq_eq_false_iff_ne.2 hk]
          exact ih hrest

@[simp] theorem get?_insert (t : Table α) (name : String) (value : α) (other : String) :
    (t.insert name value).get? other = if other = name then some value else t.get? other :=
  find?_place name value t.entries other t.sorted

@[simp] theorem get?_empty (name : String) : (∅ : Table α).get? name = none := rfl

/-! ## Building a table from its own entries -/

theorem place_append {entries : List (String × α)} {name : String} {value : α}
    (h : ∀ e ∈ entries, e.1 < name) : place name value entries = entries ++ [(name, value)] := by
  induction entries with
  | nil => rfl
  | cons head rest ih =>
    obtain ⟨k, v⟩ := head
    have hk : k < name := h (k, v) List.mem_cons_self
    have hne : name ≠ k := fun he => String.lt_irrefl k (he ▸ hk)
    simp [place, String.lt_asymm hk, hne, ih fun e he => h e (List.mem_cons_of_mem _ he)]

theorem foldl_insert_entries {done rest : List (String × α)}
    (h : (done ++ rest).Pairwise fun a b => a.1 < b.1) (hd : done.Pairwise fun a b => a.1 < b.1) :
    (rest.foldl (fun t e => t.insert e.1 e.2) (⟨done, hd⟩ : Table α)).entries = done ++ rest := by
  induction rest generalizing done with
  | nil => simp
  | cons e rest ih =>
    have hlast : ∀ x ∈ done, x.1 < e.1 := fun x hx =>
      (List.pairwise_append.1 h).2.2 x hx e List.mem_cons_self
    have hstep : (⟨done, hd⟩ : Table α).insert e.1 e.2 =
        ⟨done ++ [e], (List.pairwise_append.1
          (by simpa using h : (done ++ [e] ++ rest).Pairwise _)).1⟩ := by
      ext1
      exact place_append hlast
    rw [List.foldl_cons, hstep, ih (by simpa using h)]
    simp

/-- Nothing is in a table but what was put in. -/
theorem mem_of_mem_ofList {entries : List (String × α)} {e : String × α}
    (h : e ∈ (ofList entries).entries) : e ∈ entries := by
  suffices hfold : ∀ t : Table α, e ∈ (entries.foldl (fun t e => t.insert e.1 e.2) t).entries →
      e ∈ t.entries ∨ e ∈ entries by
    rcases hfold ∅ h with hempty | hmem
    · exact absurd hempty List.not_mem_nil
    · exact hmem
  clear h
  induction entries with
  | nil => exact fun t h => .inl h
  | cons put rest ih =>
    intro t h
    rcases ih (t.insert put.1 put.2) h with hplaced | hrest
    · rcases mem_place hplaced with rfl | hold
      · exact .inr List.mem_cons_self
      · exact .inl hold
    · exact .inr (List.mem_cons_of_mem put hrest)

/-- Reading a table's entries gives the table again. -/
theorem ofList_entries (t : Table α) : ofList t.entries = t := by
  ext1
  exact foldl_insert_entries (by simpa using t.sorted) List.Pairwise.nil

end Table

end FeatureSurvey
