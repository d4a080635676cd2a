import FeatureSurvey.Feature.Value
import FeatureSurvey.Host.Job

/-!
# `Detect/Basic.lean` — parsers and detectors

A parser answers selectors and a detector answers features; both have the name under which the
configuration declares them, and both may act on a state while they answer. What they remember
from one question to the next is part of that state, so that a parser shared by two detectors is
one and the same for both.
-/

set_option autoImplicit false

namespace FeatureSurvey

structure Parser (S : Type) where
  name : String
  parse : Selector → Job S ParseOutput

structure Detector (S : Type) where
  name : String
  detect : String → Job S FeatureValue

/-- The lines that a parser answered with. -/
def ParseOutput.expectLines (parser : String) : ParseOutput → Except SurveyError (List String)
  | .lines found => .ok found
  | .value _ => .error (.notLines parser)

/-- The value that a parser answered with, when asked for a variable. -/
def ParseOutput.expectValue (parser variableName : String) :
    ParseOutput → Except SurveyError String
  | .value found => .ok found
  | .lines _ => .error (.unsupportedSelector parser (.variable variableName))

/-- Ask a parser for the lines of a stage. -/
def Parser.stageLines {S : Type} (p : Parser S) (stage : BuildStage) : Job S (List String) := do
  Attempt.ofExcept ((← p.parse (.stage stage)).expectLines p.name)

end FeatureSurvey
