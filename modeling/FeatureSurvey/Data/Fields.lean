import FeatureSurvey.Data.Source

/-!
# `Data/Fields.lean` — the fields of a record

A record with named fields is read from a table or, where the format allows it, from a list that
gives the fields in order. `named?` and `placed?` turn either into one slot for each field, empty
where the field is missing; a reader of one record then only says what each slot must hold.

A field may have several spellings. Of all spellings of one field at most one may occur, once;
names of no field are passed over. In values the name may also be a number, the position of the
field.
-/

set_option autoImplicit false

namespace FeatureSurvey.Fields

/-- How an entry names its field. -/
inductive Key where
  | name (s : String)
  | position (n : Nat)
  deriving DecidableEq, Repr

/-- Does the key name the field with these spellings at this position? -/
def Key.names (key : Key) (spellings : List String) (position : Nat) : Bool :=
  match key with
  | .name s => spellings.contains s
  | .position n => n == position

variable {α : Type}

/-- The slot of one field: empty, filled, or refused because it is filled twice. -/
def slot? (entries : List (Key × α)) (spellings : List String) (position : Nat) :
    Option (Option α) :=
  match entries.filter fun e => e.1.names spellings position with
  | [] => some none
  | [e] => some (some e.2)
  | _ => none

/-- The slots of all fields, counted from `position`. -/
def slotsFrom? (entries : List (Key × α)) : List (List String) → Nat → Option (List (Option α))
  | [], _ => some []
  | spellings :: rest, position => do
    some ((← slot? entries spellings position) :: (← slotsFrom? entries rest (position + 1)))

/-- The slots of fields given by name. -/
def named? (fields : List (List String)) (entries : List (Key × α)) : Option (List (Option α)) :=
  slotsFrom? entries fields 0

/-- The slots of fields given in order; the last ones may be missing. -/
def placed? (fields : List (List String)) (items : List α) : Option (List (Option α)) :=
  if items.length ≤ fields.length then
    some (items.map some ++ List.replicate (fields.length - items.length) none)
  else none

/-! ## Records among values -/

def keyOfValue? : Value → Option Key
  | .text s => some (.name s)
  | .int n => if 0 ≤ n then some (.position n.toNat) else none
  | _ => none

/-- The entries of a table, provided that every one of them names its field somehow. -/
def keyed? (entries : List (Value × Value)) : Option (List (Key × Value)) :=
  entries.mapM fun (k, v) => (keyOfValue? k).map (·, v)

/-- The slots of a record value, given by name or in order. -/
def ofValue? (fields : List (List String)) : Value → Option (List (Option Value))
  | .table entries => do named? fields (← keyed? entries)
  | .list items => placed? fields items
  | _ => none

/-- The slots of a record value that has to be given by name. -/
def ofTable? (fields : List (List String)) : Value → Option (List (Option Value))
  | .table entries => do named? fields (← keyed? entries)
  | _ => none

/-! ## Records in files -/

/-- Which of the two file formats a source comes from. Only one of them lets a record be given as
a list. -/
inductive Format where
  | yaml | json
  deriving DecidableEq, Repr

/-- The slots of a record in a file. -/
def ofSource? (format : Format) (fields : List (List String)) (s : Source) :
    Option (List (Option Source)) :=
  match format, s.opened with
  | .json, .list items => placed? fields items
  | _, _ => do
    let entries ← s.asEntries?
    named? fields (← entries.mapM fun (k, v) => k.asText?.map fun name => (Key.name name, v))

/-! ## What a slot must hold -/

/-- A field that must be there. -/
def required? {β : Type} (ask : α → Option β) : Option α → Option β
  | some x => ask x
  | none => none

/-- A field with a default. -/
def optional? {β : Type} (fallback : β) (ask : α → Option β) : Option α → Option β
  | some x => ask x
  | none => some fallback

end FeatureSurvey.Fields
