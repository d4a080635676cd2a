import FeatureSurvey.Config.Basic
import FeatureSurvey.Data.Fields
import FeatureSurvey.Feature.Value

/-!
# `Config/Decode.lean` — reading a configuration

The configuration itself is a record of known fields, all of them optional. The entries of its
two lists come in three shapes, because older files wrap each entry in a key of its own: the
shapes `detector: …`, `parser: …` and bare are tried in this order, and what does not fit one is
tried as the next. A bare detector that names its parser is not mistaken for the wrapped shape,
since a name is no record.

Entries are read as values, so that a name has to be a text there; outside them a text field
takes any word as it stands.
-/

set_option autoImplicit false

namespace FeatureSurvey

open Fields

def nameSpellings : List String := ["name"]

def kindSpellings : List String := ["kind", "type"]

def DetectorSpec.fields : List (List String) :=
  [nameSpellings, kindSpellings, ["parser", "parser_to_use"], ["features", "features_provided"],
    ["options"]]

def ParserSpec.fields : List (List String) := [nameSpellings, kindSpellings, ["options"]]

/-- A text, or null for none. -/
def optionalText? : Value → Option (Option String)
  | .null => some none
  | .text s => some (some s)
  | _ => none

def DetectorSpec.ofValue? (v : Value) : Option DetectorSpec := do
  match ← Fields.ofValue? DetectorSpec.fields v with
  | [name, kind, parser, features, options] =>
    some {
      name := ← required? Value.asText? name
      kind := ← required? Value.asText? kind
      parser := ← optional? none optionalText? parser
      features := ← optional? [] Value.asTexts? features
      options := ← optional? ∅ FeatureValue.textTable? options }
  | _ => none

def ParserSpec.ofValue? (v : Value) : Option ParserSpec := do
  match ← Fields.ofValue? ParserSpec.fields v with
  | [name, kind, options] =>
    some {
      name := ← required? Value.asText? name
      kind := ← required? Value.asText? kind
      options := ← optional? ∅ FeatureValue.textTable? options }
  | _ => none

/-! ## Entries of lists -/

variable {α : Type}

/-- An entry wrapped under a key. -/
def wrapped? (key : String) (read : Value → Option α) (v : Value) : Option α := do
  match ← Fields.ofTable? [[key]] v with
  | [some inner] => read inner
  | _ => none

/-- An entry in any of its three shapes. -/
def entry? (read : Value → Option α) (v : Value) : Option α :=
  wrapped? "detector" read v <|> wrapped? "parser" read v <|> read v

/-- A list of entries, each of which has to be readable as a value. -/
def entries? (read : Value → Option α) (s : Source) : Option (List α) := do
  (← s.asItems?).mapM fun item => do entry? read (← item.read?)

/-! ## The configuration -/

def Config.fields : List (List String) :=
  [["features_selected"], ["detectors"], ["parsers"], ["allow_duplicate_claims"],
    ["tool_timeout_secs"]]

def Config.ofSource? (format : Format) (s : Source) : Option Config := do
  match ← Fields.ofSource? format Config.fields s with
  | [selected, detectors, parsers, duplicates, timeout] =>
    some {
      featuresSelected := ← optional? [] Source.asTexts? selected
      detectors := ← optional? [] (entries? DetectorSpec.ofValue?) detectors
      parsers := ← optional? [] (entries? ParserSpec.ofValue?) parsers
      allowDuplicateClaims := ← optional? false Source.asBool? duplicates
      toolTimeout := ← optional? defaultToolTimeout Source.asWord? timeout }
  | _ => none

end FeatureSurvey
