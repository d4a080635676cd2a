import FeatureSurvey.Error

/-!
# `Detect/Inputs.lean` — the artifacts of a run

Any of the artifacts may be missing. A kind of detector or parser that cannot do without one
asks for it by `require…`, and the error then names the kind.
-/

set_option autoImplicit false

namespace FeatureSurvey

structure Inputs where
  binaryPath : Option String := none
  binaryName : Option String := none
  sourceDir : Option String := none
  buildLog : Option String := none
  deriving DecidableEq, Repr, Inhabited

namespace Inputs

/-- Nothing but a source tree. -/
def sourceOnly (dir : String) : Inputs := { sourceDir := some dir }

/-- Is there nothing to look at? A name alone is nothing. -/
def isEmpty (i : Inputs) : Bool :=
  i.binaryPath.isNone && i.sourceDir.isNone && i.buildLog.isNone

def required (kind : String) (artifact : Artifact) : Option String → Except SurveyError String
  | some path => .ok path
  | none => .error (.missingArtifact kind artifact)

def requireBinaryPath (i : Inputs) (kind : String) : Except SurveyError String :=
  required kind .binaryPath i.binaryPath

def requireSourceDir (i : Inputs) (kind : String) : Except SurveyError String :=
  required kind .sourceDir i.sourceDir

def requireBuildLog (i : Inputs) (kind : String) : Except SurveyError String :=
  required kind .buildLog i.buildLog

end Inputs

end FeatureSurvey
