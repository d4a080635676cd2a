import FeatureSurvey.Detect.Basic
import FeatureSurvey.Detector.LanguageStandard
import FeatureSurvey.Detector.PositionIndependence
import FeatureSurvey.Rules.VariableLine

/-!
# `Detector/LineDetectors.lean` — detectors over a parser

Three kinds of detector only look at what a parser gives them: whether the line that links the
binary makes it position-independent, which language standard is the oldest in use, and whether
a variable of the rules carries a flag. Each gives one answer, whatever feature it is asked for.
-/

set_option autoImplicit false

namespace FeatureSurvey.Detector

variable {S : Type}

/-- Is the binary laid out afresh at each start? -/
def aslr (name : String) (parser : Parser S) : Detector S where
  name := name
  detect _ := do return .bool (PositionIndependence.ofLinkLines (← parser.stageLines .linker))

/-- The answer where no standard is found. -/
def noStandard : String := "none"

/-- The oldest standard that the compiler lines name. -/
def standardOf (lines : List String) : String :=
  ((Standard.oldest? (Standard.spellingsIn lines)).map Standard.name).getD noStandard

def languageVersion (name : String) (parser : Parser S) : Detector S where
  name := name
  detect _ := do return .text (standardOf (← parser.stageLines .all))

/-- Does the variable carry the flag? -/
def rulesFlag (name : String) (parser : Parser S) (variableName flag : String) : Detector S where
  name := name
  detect _ := do
    let output ← parser.parse (.variable variableName)
    let line ← Attempt.ofExcept (output.expectValue parser.name variableName)
    return .bool (Rules.hasFlag line flag)

end FeatureSurvey.Detector
