import FeatureSurvey.Data.Scalar

/-!
# `Data/Source.lean` — data as it stands in a file

A file is read in two steps. Its grammar gives a `Source`, in which scalars may still be untyped
and in which a piece may be *unreadable*: well-formed, but standing for no value (half of a
surrogate pair, a number out of range, a nesting too deep). A piece nobody asks for may well be
unreadable; that is why it is not an error of the grammar.

The second step asks. Where the kind of value is known, a scalar is read as that kind
(`asText?`, `asWord?`, …): a name may be written `300`. Where it is not known — in the entries of
detector and parser lists, which come in several shapes — the whole piece is first turned into a
`Value` (`read?`), and a name written `300` has become a number there.
-/

set_option autoImplicit false

namespace FeatureSurvey

inductive Source where
  /-- A piece that is a value already. -/
  | value (v : Value)
  /-- A scalar still to be read. -/
  | scalar (w : Scalar)
  | list (items : List Source)
  | table (entries : List (Source × Source))
  /-- A list or table under a local tag, which only a place of known kind can take. -/
  | tagged (body : Source)
  | unreadable
  deriving Inhabited

namespace Source

/-! ## Reading without knowing the kind -/

mutual

def read? : Source → Option Value
  | .value v => some v
  | .scalar w => w.guess?
  | .list items => (readItems? items).map .list
  | .table entries => (readEntries? entries).map .table
  | .tagged _ => none
  | .unreadable => none

def readItems? : List Source → Option (List Value)
  | [] => some []
  | s :: rest => do some ((← read? s) :: (← readItems? rest))

def readEntries? : List (Source × Source) → Option (List (Value × Value))
  | [] => some []
  | (k, s) :: rest => do some ((← read? k, ← read? s) :: (← readEntries? rest))

end

/-! ## Values seen as sources

The members of a value are made sources one level at a time, so that lists and tables are met
as such by the questions below. -/

def ofValue : Value → Source
  | .list items => .list (items.map .value)
  | .table entries => .table (entries.map fun (k, v) => (.value k, .value v))
  | v => .value v

/-- One level of a source, with a value opened up. -/
def opened : Source → Source
  | .value v => ofValue v
  | .tagged body => body
  | s => s

/-! ## Asking for a known kind -/

def asText? : Source → Option String
  | .value v => v.asText?
  | .scalar w => some w.text
  | _ => none

def asWord? : Source → Option UInt64
  | .value v => v.asWord?
  | .scalar w => w.word?
  | _ => none

def asBool? : Source → Option Bool
  | .value (.bool b) => some b
  | .scalar w => w.bool?
  | _ => none

/-- Something that may be absent. -/
def asOption? {α : Type} (ask : Source → Option α) : Source → Option (Option α)
  | .value .null => some none
  | .scalar w => do if ← w.isAbsent? then some none else (ask (.scalar w)).map some
  | s => (ask s).map some

def asItems? (s : Source) : Option (List Source) :=
  match s.opened with
  | .list items => some items
  | .scalar w => if w.isNothing then some [] else none
  | _ => none

def asEntries? (s : Source) : Option (List (Source × Source)) :=
  match s.opened with
  | .table entries => some entries
  | .scalar w => if w.isNothing then some [] else none
  | _ => none

def asTexts? (s : Source) : Option (List String) := do (← s.asItems?).mapM asText?

end Source

end FeatureSurvey
