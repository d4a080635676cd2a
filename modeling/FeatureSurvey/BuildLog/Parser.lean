import FeatureSurvey.Detect.Basic
import FeatureSurvey.Detect.Session
import FeatureSurvey.Text.Utf8

/-!
# `BuildLog/Parser.lean` — the parser of a build log

The log is read when the first stage is asked for, and classified once; from then on every
answer comes from that reading. While reading fails, nothing is kept, and the next question
tries again. A log has no variables.
-/

set_option autoImplicit false

namespace FeatureSurvey

structure BuildLogParser where
  name : String
  log : String
  binaryName : Option String := none
  deriving DecidableEq, Repr

namespace BuildLogParser

variable {W : Type} [Host W]

/-- Read the log as it is now. -/
def read (p : BuildLogParser) (w : W) : Except SurveyError CompilerLines :=
  if Host.isFile w p.log then
    match Host.readFile w p.log with
    | .ok bytes => .ok (CompilerLines.classify (Text.decode bytes) p.binaryName)
    | .error e => .error (.file p.log e)
  else .error (.file p.log (.notFile "build log"))

/-- The compiler lines of this run. -/
def lines (p : BuildLogParser) : Job (Session W) CompilerLines := fun s =>
  match s.memory.logs.get? p.name with
  | some lines => (.ok lines, s)
  | none =>
    match p.read s.world with
    | .ok lines =>
      (.ok lines, { s with memory := { s.memory with logs := s.memory.logs.insert p.name lines } })
    | .error e => (.error e, s)

def parse (p : BuildLogParser) : Selector → Job (Session W) ParseOutput
  | .stage stage => do return .lines ((← p.lines).stage stage)
  | .variable name => Attempt.fail (.unsupportedSelector p.name (.variable name))

def toParser (p : BuildLogParser) : Parser (Session W) := ⟨p.name, p.parse⟩

end BuildLogParser

end FeatureSurvey
