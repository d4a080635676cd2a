import FeatureSurvey.Config.Basic
import FeatureSurvey.Detect.Basic
import FeatureSurvey.Detect.Inputs

/-!
# `Registry/Basic.lean` — kinds and how they are built

A registry says for each kind name how a parser or a detector of that kind is built from its
declaration, the artifacts of the run and, for a detector, the parser it names. Kinds can be
added and replaced, and neither the resolver nor the runner knows any of them.
-/

set_option autoImplicit false

namespace FeatureSurvey

/-- What a parser is built from. -/
structure ParserBuild where
  spec : ParserSpec
  inputs : Inputs
  timeout : Timeout

/-- What a detector is built from. -/
structure DetectorBuild (S : Type) where
  spec : DetectorSpec
  inputs : Inputs
  parser : Option (Parser S)
  timeout : Timeout

namespace DetectorBuild

variable {S : Type}

/-- What stands for the name of a parser where none is declared. -/
def noParser : String := "<none declared>"

def requireParser (b : DetectorBuild S) : Except SurveyError (Parser S) :=
  match b.parser with
  | some parser => .ok parser
  | none => .error (.unknownParser b.spec.name noParser)

def requireOption (b : DetectorBuild S) (key : String) : Except SurveyError String :=
  match b.spec.option? key with
  | some value => .ok value
  | none => .error (.config (.missingOption b.spec.name b.spec.kind key))

end DetectorBuild

abbrev ParserFactory (S : Type) := ParserBuild → Job S (Parser S)

abbrev DetectorFactory (S : Type) := DetectorBuild S → Job S (Detector S)

structure KindRegistry (S : Type) where
  detectors : Table (DetectorFactory S) := ∅
  parsers : Table (ParserFactory S) := ∅

namespace KindRegistry

variable {S : Type}

def empty : KindRegistry S := {}

def withDetector (r : KindRegistry S) (kind : String) (factory : DetectorFactory S) :
    KindRegistry S :=
  { r with detectors := r.detectors.insert kind factory }

def withParser (r : KindRegistry S) (kind : String) (factory : ParserFactory S) : KindRegistry S :=
  { r with parsers := r.parsers.insert kind factory }

def hasDetector (r : KindRegistry S) (kind : String) : Bool := (r.detectors.get? kind).isSome

/-- The kinds of detectors, in order. -/
def detectorKinds (r : KindRegistry S) : List String := r.detectors.names

def parserKinds (r : KindRegistry S) : List String := r.parsers.names

end KindRegistry

end FeatureSurvey
