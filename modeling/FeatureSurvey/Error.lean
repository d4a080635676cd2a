import FeatureSurvey.Detect.Query
import FeatureSurvey.Host.OsError

/-!
# `Error.lean` — why a survey fails

Every way in which resolving, building or running detectors can fail is one constructor of
`SurveyError`, with the names and values it speaks of; the wording is in `message`. The causes
that have several reasons keep them as types of their own: what is wrong with a configuration
(`ConfigFault`), and what is wrong with the output of a tool (`OutputFault`).

`isConfiguration` marks the errors that another attempt cannot cure. Building detectors fails
only with these, and running them only with the others. `isFatal` marks the failures that end
the program, so that no caller gets to handle them (`HasFatal`).
-/

set_option autoImplicit false

namespace FeatureSurvey

/-! ## Faults of a configuration -/

inductive ConfigFault where
  | unnamedDetector
  | repeatedDetector (name : String)
  | unnamedParser
  | repeatedParser (name : String)
  | zeroTimeout
  | missingOption (detector kind key : String)
  | unindexedDetector (name : String)
  /-- The ends of a bisection range are not on one line of history. -/
  | unrelatedEnds (old new : String)
  deriving DecidableEq, Repr

def ConfigFault.message : ConfigFault → String
  | .unnamedDetector => "detector 'name' is required"
  | .repeatedDetector name => s!"detector '{name}' is declared more than once"
  | .unnamedParser => "parser 'name' is required"
  | .repeatedParser name => s!"parser '{name}' is declared more than once"
  | .zeroTimeout => "tool_timeout_secs must be positive"
  | .missingOption detector kind key =>
    s!"detector '{detector}' of kind '{kind}' needs option '{key}'"
  | .unindexedDetector name => s!"feature index names unknown detector '{name}'"
  | .unrelatedEnds old new => s!"bisection range is not linear: {old} is not an ancestor of {new}"

/-! ## Faults of a tool's output -/

/-- Why a text is no calendar date. -/
inductive DateFault where
  | outOfRange | invalid | tooShort | tooLong
  deriving DecidableEq, Repr

def DateFault.message : DateFault → String
  | .outOfRange => "input is out of range"
  | .invalid => "input contains invalid characters"
  | .tooShort => "premature end of input"
  | .tooLong => "trailing input"

inductive OutputFault where
  | noLine (variableName : String)
  | manyLines (count : Nat) (variableName : String)
  | noEntry (label : String)
  | noRoot (revision : String)
  | notOneLine (text : String)
  | badDate (text : String) (fault : DateFault)
  /-- What an oracle outside this library has to say. -/
  | said (text : String)
  deriving DecidableEq, Repr

def OutputFault.message : OutputFault → String
  | .noLine name => s!"no line for variable {name}"
  | .manyLines count name => s!"{count} lines for variable {name}"
  | .noEntry label => s!"report has no '{label}' entry"
  | .noRoot revision => s!"no root commit reachable from {revision}"
  | .notOneLine text => s!"expected one line, got '{text}'"
  | .badDate text fault => s!"unparseable date '{text}': {fault.message}"
  | .said text => text

/-! ## Errors -/

inductive SurveyError where
  | noProducer (feature : String)
  | claimedTwice (feature first second : String)
  | unknownParser (detector parser : String)
  | missingArtifact (kind : String) (artifact : Artifact)
  | unknownDetectorKind (kind : String)
  | unknownParserKind (kind : String)
  | config (fault : ConfigFault)
  | unsupportedFeature (detector feature : String)
  | unsupportedSelector (parser : String) (selector : Selector)
  /-- A parser asked for lines answered with one value. -/
  | notLines (parser : String)
  | toolNotStarted (tool : String) (cause : OsError)
  /-- A tool ended in a way that is no answer; without a status, a signal ended it. -/
  | toolFailed (command : String) (status : Option Int) (stderr : String)
  | toolTimeout (command : String) (seconds : Nat)
  | toolOutput (tool : String) (fault : OutputFault)
  | file (path : String) (cause : OsError)
  /-- The moment at which a tool would have to be stopped lies beyond the clock's range. -/
  | deadlineOutOfRange (command : String)
  deriving DecidableEq, Repr

namespace SurveyError

def statusText : Option Int → String
  | some code => toString code
  | none => "signal"

def message : SurveyError → String
  | .noProducer feature => s!"No detector provides requested feature '{feature}'"
  | .claimedTwice feature first second =>
    s!"Feature '{feature}' is claimed by both '{first}' and '{second}'"
  | .unknownParser detector parser =>
    s!"Detector '{detector}' references unknown parser '{parser}'"
  | .missingArtifact kind artifact =>
    s!"Detector kind '{kind}' requires a {artifact.label}, which was not supplied"
  | .unknownDetectorKind kind => s!"Unknown detector kind '{kind}'"
  | .unknownParserKind kind => s!"Unknown parser kind '{kind}'"
  | .config fault => s!"Invalid probe config: {fault.message}"
  | .unsupportedFeature detector feature =>
    s!"Detector '{detector}' cannot answer feature '{feature}'"
  | .unsupportedSelector parser selector =>
    s!"Parser '{parser}' does not support selector {selector.label}"
  | .notLines parser =>
    s!"Parser '{parser}' does not support selector stage (parser returned a single value)"
  | .toolNotStarted tool cause => s!"Failed to spawn {tool}: {cause.message}"
  | .toolFailed command status stderr =>
    s!"{command} exited with status {statusText status}: {stderr}"
  | .toolTimeout command seconds => s!"{command} did not finish within {seconds}s"
  | .toolOutput tool fault => s!"Unexpected output from {tool}: {fault.message}"
  | .file path cause => s!"I/O error on {path}: {cause.message}"
  | .deadlineOutOfRange command => s!"{command} cannot be given a deadline"

/-- Is the configuration at fault, so that another attempt must fail in the same way? -/
def isConfiguration : SurveyError → Bool
  | .noProducer _ | .claimedTwice _ _ _ | .unknownParser _ _ | .missingArtifact _ _
  | .unknownDetectorKind _ | .unknownParserKind _ | .config _ => true
  | _ => false

end SurveyError

/-! ## Fatal failures -/

/-- Which failures end the program, so that no caller gets to handle them. -/
class HasFatal (ε : Type) where
  isFatal : ε → Bool

export HasFatal (isFatal)

instance : HasFatal SurveyError where
  isFatal
    | .deadlineOutOfRange _ => true
    | _ => false

theorem SurveyError.isFatal_of_isConfiguration {e : SurveyError} (h : e.isConfiguration = true) :
    isFatal e = false := by
  cases e <;> first | rfl | cases h

end FeatureSurvey
