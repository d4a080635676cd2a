import FeatureSurvey.Data.Fields
import FeatureSurvey.Data.Table
import FeatureSurvey.Text.Blank
import FeatureSurvey.Text.Search
import FeatureSurvey.Text.Lowercase

/-!
# `Feature/Value.lean` — what a detector answers

The answer for one feature is a truth value, a number of occurrences, a text, or a table of
statuses. Its form in a file carries no label, so the form itself has to tell the four apart:
`toValue` writes it, and `ofValue?` tries the shapes in a fixed order. A table is taken for
occurrences only if it has both of that shape's fields, each of the right kind; since the entries
of a status table are texts and a count is a number, no status table is mistaken.

Bisection asks for a single bit. A text counts as present unless it is blank, says `none`, or
begins with `no`, as the audit tool's `no, not found!` does.
-/

set_option autoImplicit false

namespace FeatureSurvey

inductive Detected where
  | yes | no
  deriving DecidableEq, Repr

namespace Detected

def ofCount (count : UInt64) : Detected := if 0 < count then .yes else .no

def name : Detected → String
  | .yes => "yes"
  | .no => "no"

def ofName? (s : String) : Option Detected :=
  if s == "yes" then some .yes else if s == "no" then some .no else none

/-- A marker is written as its name; a table with the name alone, and nothing under it, is also
taken. -/
def ofValue? : Value → Option Detected
  | .text s => ofName? s
  | .table [(.text s, .null)] => ofName? s
  | _ => none

end Detected

inductive FeatureValue where
  | bool (b : Bool)
  | occurrences (detected : Detected) (count : UInt64)
  | text (s : String)
  | table (entries : Table String)
  deriving DecidableEq

namespace FeatureValue

/-- The answer of a detector that counts. -/
def ofCount (count : UInt64) : FeatureValue := .occurrences (.ofCount count) count

/-! ## Presence -/

def textIsPresent (s : String) : Bool :=
  let lowered := Text.asciiLowercase (Text.trim s)
  !(lowered.isEmpty || lowered == "none" || Text.startsWith lowered "no")

def isPresent : FeatureValue → Bool
  | .bool b => b
  | .occurrences detected _ => detected == .yes
  | .text s => textIsPresent s
  | .table entries => entries.values.any textIsPresent

/-! ## The form in a file -/

def tableValue (t : Table String) : Value := .record (t.entries.map fun e => (e.1, .text e.2))

def toValue : FeatureValue → Value
  | .bool b => .bool b
  | .occurrences detected count =>
    .record [("detected", .text detected.name), ("occurrences", .word count)]
  | .text s => .text s
  | .table entries => tableValue entries

/-- A table whose names and entries are texts. -/
def textTable? : Value → Option (Table String)
  | .table entries => do
    let pairs ← entries.mapM fun e => do some (← e.1.asText?, ← e.2.asText?)
    some (Table.ofList pairs)
  | _ => none

def occurrencesFields : List (List String) := [["detected"], ["occurrences"]]

def ofOccurrences? (v : Value) : Option FeatureValue := do
  match ← Fields.ofTable? occurrencesFields v with
  | [some detected, some count] =>
    some (.occurrences (← Detected.ofValue? detected) (← count.asWord?))
  | _ => none

def ofValue? (v : Value) : Option FeatureValue :=
  match v with
  | .bool b => some (.bool b)
  | .text s => some (.text s)
  | v => ofOccurrences? v <|> (textTable? v).map .table

/-- The answer's shape, by name. -/
def shape : FeatureValue → String
  | .bool _ => "bool"
  | .occurrences _ _ => "occurrences"
  | .text _ => "text"
  | .table _ => "table"

end FeatureValue

end FeatureSurvey
