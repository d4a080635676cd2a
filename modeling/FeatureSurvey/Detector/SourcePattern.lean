import FeatureSurvey.Detect.Basic
import FeatureSurvey.Detector.Patterns
import FeatureSurvey.Tool.Run

/-!
# `Detector/SourcePattern.lean` — counting matches in the source tree

A feature with a pattern is counted by one search through the source tree: without regard to
case, through all directories, in the files that the globs choose, by an extended pattern. The
search tool's status `1` says that nothing was found.
-/

set_option autoImplicit false

namespace FeatureSurvey

structure SourcePatternDetector where
  name : String
  sourceDir : String
  patterns : Table String
  includes : List String := Patterns.defaultIncludes
  tool : String
  timeout : Timeout

namespace SourcePatternDetector

/-- The search for a pattern. -/
def command (d : SourcePatternDetector) (pattern : String) : Command :=
  { program := d.tool
    arguments := ["-i", "-r"] ++ (d.includes.flatMap fun glob => ["--include", glob]) ++
      ["-E", pattern, d.sourceDir] }

/-- The number of matches that a finished search reports. -/
def countOf (d : SourcePatternDetector) (pattern : String) (output : ToolOutput) :
    Except SurveyError Nat :=
  if output.status = some 0 then .ok (Patterns.countLines output.stdout)
  else if output.status = some 1 then .ok 0
  else .error (Tool.failed (d.command pattern).describe output)

variable {W : Type} [Host W]

def detect (d : SourcePatternDetector) (feature : String) : Job W FeatureValue := do
  match d.patterns.get? feature with
  | none => Attempt.fail (.unsupportedFeature d.name feature)
  | some pattern =>
    let output ← Tool.run (d.command pattern) d.timeout
    let count ← Attempt.ofExcept (d.countOf pattern output)
    return .ofCount (UInt64.ofNat count)

end SourcePatternDetector

end FeatureSurvey
