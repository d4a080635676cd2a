import FeatureSurvey.Proofs.Data.Written

/-!
# `Proofs/Data/Delivery.lean` — values as a reader meets them

A value that is read from a file comes in pieces that are opened one at a time, and a value that is
at hand comes as one piece. A reader of records asks both the same questions. Here is why it gets
the same answers: a source *delivers* a value if the two have the same shape and no word in it is
still to be read, and **what can be asked of a source depends on the value that it delivers**
(`Source.Delivers.read?`, `Source.Delivers.items`, `Source.Delivers.fields`).

Sources with untyped words are left out. Such a word may be read in more than one way, and what it
is depends on who asks.
-/

set_option autoImplicit false

namespace FeatureSurvey

namespace Source

mutual

/-- A source has the shape of a value, down to its last member. -/
inductive Delivers : Source → Value → Prop
  | value (v : Value) : Delivers (.value v) v
  | list {items : List Source} {values : List Value} (h : DeliversItems items values) :
      Delivers (.list items) (.list values)
  | table {entries : List (Source × Source)} {members : List (Value × Value)}
      (h : DeliversEntries entries members) : Delivers (.table entries) (.table members)

inductive DeliversItems : List Source → List Value → Prop
  | nil : DeliversItems [] []
  | cons {s : Source} {v : Value} {items : List Source} {values : List Value} (hs : Delivers s v)
      (h : DeliversItems items values) : DeliversItems (s :: items) (v :: values)

inductive DeliversEntries : List (Source × Source) → List (Value × Value) → Prop
  | nil : DeliversEntries [] []
  | cons {name s : Source} {k v : Value} {entries : List (Source × Source)}
      {members : List (Value × Value)} (hname : Delivers name k) (hs : Delivers s v)
      (h : DeliversEntries entries members) :
      DeliversEntries ((name, s) :: entries) ((k, v) :: members)

end

theorem DeliversItems.forall₂ {items : List Source} {values : List Value}
    (h : DeliversItems items values) : List.Forall₂ Delivers items values := by
  induction values generalizing items with
  | nil =>
    cases h
    exact .nil
  | cons v values ih =>
    cases h with
    | cons hs h => exact .cons hs (ih h)

theorem DeliversEntries.forall₂ {entries : List (Source × Source)} {members : List (Value × Value)}
    (h : DeliversEntries entries members) :
    List.Forall₂ (fun e m => e.1.Delivers m.1 ∧ e.2.Delivers m.2) entries members := by
  induction members generalizing entries with
  | nil =>
    cases h
    exact .nil
  | cons m members ih =>
    cases h with
    | cons hname hs h => exact .cons ⟨hname, hs⟩ (ih h)

namespace Delivers

variable {s : Source} {v : Value}

mutual

theorem read? : {s : Source} → {v : Value} → s.Delivers v → s.read? = some v
  | _, _, .value v => rfl
  | _, _, .list h => by rw [Source.read?, readItems?_of_delivers h]; rfl
  | _, _, .table h => by rw [Source.read?, readEntries?_of_delivers h]; rfl

theorem readItems?_of_delivers : {items : List Source} → {values : List Value} →
    DeliversItems items values → readItems? items = some values
  | _, _, .nil => rfl
  | _, _, .cons hs h => by rw [readItems?, read? hs, readItems?_of_delivers h]; rfl

theorem readEntries?_of_delivers : {entries : List (Source × Source)} →
    {members : List (Value × Value)} → DeliversEntries entries members →
    readEntries? entries = some members
  | _, _, .nil => rfl
  | _, _, .cons hname hs h => by
    rw [readEntries?, read? hname, read? hs, readEntries?_of_delivers h]
    rfl

end

theorem asText? {text : String} (h : s.Delivers (.text text)) : s.asText? = some text := by
  cases h
  rfl

theorem asWord? {n : UInt64} (h : s.Delivers (.word n)) : s.asWord? = some n := by
  cases h
  exact Value.asWord?_word n

theorem asOptionText? {text : Option String} (h : s.Delivers (.optionText text)) :
    s.asOption? Source.asText? = some text := by
  cases text with
  | none =>
    cases h
    rfl
  | some text =>
    cases h
    rfl

/-- Something that is there is asked for what it is. -/
theorem asOption?_table {α : Type} {ask : Source → Option α} {members : List (Value × Value)}
    (h : s.Delivers (.table members)) : s.asOption? ask = (ask s).map some := by
  cases h <;> rfl

theorem items {values : List Value} (h : s.Delivers (.list values)) :
    ∃ items, s.opened = .list items ∧ List.Forall₂ Delivers items values := by
  cases h with
  | value =>
    refine ⟨values.map .value, rfl, ?_⟩
    rw [List.forall₂_map_left_iff, List.forall₂_same]
    exact fun v _ => .value v
  | list h => exact ⟨_, rfl, h.forall₂⟩

theorem entries {members : List (Value × Value)} (h : s.Delivers (.table members)) :
    ∃ entries, s.asEntries? = some entries ∧
      List.Forall₂ (fun e m => e.1.Delivers m.1 ∧ e.2.Delivers m.2) entries members := by
  cases h with
  | value =>
    refine ⟨members.map fun m => (.value m.1, .value m.2), rfl, ?_⟩
    rw [List.forall₂_map_left_iff, List.forall₂_same]
    exact fun m _ => ⟨.value m.1, .value m.2⟩
  | table h => exact ⟨_, rfl, h.forall₂⟩

/-- The entries of a record, with their names and with sources for their values. -/
theorem fields {fields : List (String × Value)} (h : s.Delivers (.record fields)) :
    ∃ (entries : List (Source × Source)) (sources : List (String × Source)),
      s.asEntries? = some entries ∧
      List.Forall₂ (fun e f => e.1.asText? = some f.1 ∧ e.2 = f.2) entries sources ∧
      List.Forall₂ (fun f e => f.1 = e.1 ∧ e.2.Delivers f.2) fields sources := by
  obtain ⟨entries, hentries, hmembers⟩ := h.entries
  rw [List.forall₂_map_right_iff] at hmembers
  suffices hsources : ∃ sources : List (String × Source),
      List.Forall₂ (fun e f => e.1.asText? = some f.1 ∧ e.2 = f.2) entries sources ∧
      List.Forall₂ (fun f e => f.1 = e.1 ∧ e.2.Delivers f.2) fields sources by
    obtain ⟨sources, hnames, hvalues⟩ := hsources
    exact ⟨entries, sources, hentries, hnames, hvalues⟩
  clear hentries h
  induction hmembers with
  | nil => exact ⟨[], .nil, .nil⟩
  | @cons e f entries fields he _ ih =>
    obtain ⟨sources, hnames, hvalues⟩ := ih
    exact ⟨(f.1, e.2) :: sources, .cons ⟨asText? he.1, rfl⟩ hnames, .cons ⟨rfl, he.2⟩ hvalues⟩

end Delivers

end Source

/-! ## Slots -/

namespace Fields

variable {α β : Type} {R : α → β → Prop}

/-- Under the same key stands the same thing. -/
def SameEntry (R : α → β → Prop) (e : Key × α) (e' : Key × β) : Prop := e.1 = e'.1 ∧ R e.2 e'.2

theorem slot?_rel {entries : List (Key × α)} {entries' : List (Key × β)}
    (h : List.Forall₂ (SameEntry R) entries entries') {spellings : List String} {position : Nat}
    {slot : Option α} (hslot : slot? entries spellings position = some slot) :
    ∃ slot', slot? entries' spellings position = some slot' ∧ Option.Rel R slot slot' := by
  have hfilter : List.Forall₂ (SameEntry R)
      (entries.filter fun e => e.1.names spellings position)
      (entries'.filter fun e => e.1.names spellings position) := by
    refine List.rel_filter (fun e e' he => ?_) h
    show e.1.names spellings position = true ↔ e'.1.names spellings position = true
    rw [he.1]
  unfold slot? at hslot ⊢
  generalize entries.filter (fun e => e.1.names spellings position) = found at hfilter hslot
  generalize entries'.filter (fun e => e.1.names spellings position) = found' at hfilter
  rcases hfilter with _ | ⟨he, _ | ⟨he', hrest⟩⟩
  · cases hslot
    exact ⟨none, rfl, .none⟩
  · cases hslot
    exact ⟨_, rfl, .some he.2⟩
  · cases hslot

theorem slotsFrom?_rel {entries : List (Key × α)} {entries' : List (Key × β)}
    (h : List.Forall₂ (SameEntry R) entries entries') {fields : List (List String)} {position : Nat}
    {slots : List (Option α)} (hslots : slotsFrom? entries fields position = some slots) :
    ∃ slots', slotsFrom? entries' fields position = some slots' ∧
      List.Forall₂ (Option.Rel R) slots slots' := by
  induction fields generalizing position slots with
  | nil =>
    cases hslots
    exact ⟨[], rfl, .nil⟩
  | cons spellings rest ih =>
    simp only [slotsFrom?, Option.bind_eq_bind, Option.bind_eq_some_iff,
      Option.some.injEq] at hslots
    obtain ⟨slot, hslot, slots, hrest, rfl⟩ := hslots
    obtain ⟨slot', hslot', hrel⟩ := slot?_rel h hslot
    obtain ⟨slots', hrest', hrels⟩ := ih hrest
    exact ⟨slot' :: slots', by rw [slotsFrom?, hslot', hrest']; rfl, .cons hrel hrels⟩

/-- What is found in a slot of a source delivers what was written for the field. -/
def Filled (part : List (String × Value)) (slot : Option Source) : Prop :=
  Option.Rel (fun v s => s.Delivers v) (slotOf part) slot

/-- **A source that delivers a record has the record's slots**, in either format. -/
theorem ofSource?_of_delivers {spellings : List (List String)}
    {parts : List (List (String × Value))} (apart : Apart spellings)
    (hfits : List.Forall₂ Fits spellings parts) {fields : List (String × Value)}
    (horder : fields.Perm parts.flatten) {s : Source} (h : s.Delivers (.record fields))
    (format : Format) :
    ∃ slots, ofSource? format spellings s = some slots ∧ List.Forall₂ Filled parts slots := by
  obtain ⟨entries, sources, htable, hnames, hvalues⟩ := h.fields
  have hsame : List.Forall₂ (SameEntry fun v s => Source.Delivers s v) (keyed fields)
      (keyed sources) := by
    rw [keyed, keyed, List.forall₂_map_left_iff, List.forall₂_map_right_iff]
    exact hvalues.imp fun f e h => ⟨congrArg Key.name h.1, h.2⟩
  obtain ⟨slots, hslots, hfilled⟩ := slotsFrom?_rel hsame (named?_of_perm apart hfits horder)
  rw [List.forall₂_map_left_iff] at hfilled
  exact ⟨slots, (ofSource?_eq_named? htable hnames format spellings).trans hslots, hfilled⟩

namespace Written

variable {spellings : List String} {omissible : Prop} {given : Value → Prop}
  {part : List (String × Value)} {slot : Option Source}

theorem required?_filled {ask : Source → Option β} {b : β}
    (h : Written spellings False given part) (hslot : Filled part slot)
    (hask : ∀ v s, given v → s.Delivers v → ask s = some b) :
    Fields.required? ask slot = some b := by
  cases h with
  | given _ h =>
    cases hslot with
    | some hs => exact hask _ _ h hs
  | omitted h => exact h.elim

theorem optional?_filled {ask : Source → Option β} {fallback b : β}
    (h : Written spellings (b = fallback) given part) (hslot : Filled part slot)
    (hask : ∀ v s, given v → s.Delivers v → ask s = some b) :
    Fields.optional? fallback ask slot = some b := by
  cases h with
  | given _ h =>
    cases hslot with
    | some hs => exact hask _ _ h hs
  | omitted h =>
    cases hslot with
    | none => exact congrArg some h.symm

end Written

end Fields

end FeatureSurvey
