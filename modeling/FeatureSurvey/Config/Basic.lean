import FeatureSurvey.Data.Table
import FeatureSurvey.Data.Value

/-!
# `Config/Basic.lean` — survey configurations

A configuration declares detectors (which kind to build, which features it answers, which parser
it reads from) and parsers (how to read one artifact), and says which features are reported when
nobody asks for others. Options are kind-specific settings; a kind looks up the ones it knows.
-/

set_option autoImplicit false

namespace FeatureSurvey

/-- Seconds a tool may run unless the configuration says otherwise. -/
def defaultToolTimeout : UInt64 := 300

structure DetectorSpec where
  name : String
  kind : String
  parser : Option String := none
  features : List String := []
  options : Table String := ∅
  deriving DecidableEq, Inhabited

structure ParserSpec where
  name : String
  kind : String
  options : Table String := ∅
  deriving DecidableEq, Inhabited

def DetectorSpec.option? (d : DetectorSpec) (key : String) : Option String := d.options.get? key

def ParserSpec.option? (p : ParserSpec) (key : String) : Option String := p.options.get? key

structure Config where
  featuresSelected : List String := []
  detectors : List DetectorSpec := []
  parsers : List ParserSpec := []
  /-- May a later detector take over a feature that an earlier one claims? -/
  allowDuplicateClaims : Bool := false
  toolTimeout : UInt64 := defaultToolTimeout
  deriving DecidableEq, Inhabited

namespace Config

/-- The declaration of a name; of several the first. -/
def detector? (c : Config) (name : String) : Option DetectorSpec :=
  c.detectors.find? fun d => d.name == name

def parser? (c : Config) (name : String) : Option ParserSpec :=
  c.parsers.find? fun p => p.name == name

/-- The features asked for, or the configuration's own selection if none are. -/
def featuresOrDefault (c : Config) (asked : List String) : List String :=
  if asked.isEmpty then c.featuresSelected else asked

end Config

/-! ## The form in a file

Absent parsers and empty options are left out. -/

def optionsValue (options : Table String) : List (String × Value) :=
  if options.isEmpty then []
  else [("options", .record (options.entries.map fun e => (e.1, .text e.2)))]

def DetectorSpec.toValue (d : DetectorSpec) : Value :=
  .record ([("name", .text d.name), ("kind", .text d.kind)] ++
    (d.parser.map fun p => ("parser", Value.text p)).toList ++
    [("features", .texts d.features)] ++ optionsValue d.options)

def ParserSpec.toValue (p : ParserSpec) : Value :=
  .record ([("name", .text p.name), ("kind", .text p.kind)] ++ optionsValue p.options)

def Config.toValue (c : Config) : Value :=
  .record [
    ("features_selected", .texts c.featuresSelected),
    ("detectors", .list (c.detectors.map DetectorSpec.toValue)),
    ("parsers", .list (c.parsers.map ParserSpec.toValue)),
    ("allow_duplicate_claims", .bool c.allowDuplicateClaims),
    ("tool_timeout_secs", .word c.toolTimeout)]

end FeatureSurvey
