import FeatureSurvey.BuildLog.Parser
import FeatureSurvey.Config.Legacy
import FeatureSurvey.Detector.Hardening
import FeatureSurvey.Detector.LineDetectors
import FeatureSurvey.Detector.SourcePattern
import FeatureSurvey.Registry.Basic
import FeatureSurvey.Rules.Parser

/-!
# `Registry/BuiltIn.lean` — the built-in kinds

Two kinds of parsers and six kinds of detectors. Building one checks that the artifact, the
parser and the options it needs are there, and settles which program its tool is; no file is
read and no tool is run before the first question.
-/

set_option autoImplicit false

namespace FeatureSurvey.BuiltIn

variable {W : Type} [Host W]

/-- The program for a tool of a run. -/
def tool (option : Option String) (name fallback : String) : Job (Session W) String :=
  Attempt.ask fun s => Tool.resolve s.world option name fallback

def buildLogParser : ParserFactory (Session W) := fun b => do
  let log ← Attempt.ofExcept (b.inputs.requireBuildLog Kind.buildLog)
  return { name := b.spec.name, log, binaryName := b.inputs.binaryName : BuildLogParser }.toParser

def rulesParser : ParserFactory (Session W) := fun b => do
  let source ← Attempt.ofExcept (b.inputs.requireSourceDir Kind.rulesVariable)
  let rules := (b.spec.option? "rules_file").getD RulesParser.defaultRulesFile
  let make ← tool (b.spec.option? "tool") "MAKE_BIN" "make"
  return { name := b.spec.name, sourceDir := source, rulesFile := Path.join source rules, make,
           timeout := b.timeout : RulesParser }.toParser

def aslrDetector : DetectorFactory (Session W) := fun b => do
  return Detector.aslr b.spec.name (← Attempt.ofExcept b.requireParser)

def languageVersionDetector : DetectorFactory (Session W) := fun b => do
  return Detector.languageVersion b.spec.name (← Attempt.ofExcept b.requireParser)

def rulesFlagDetector : DetectorFactory (Session W) := fun b => do
  let parser ← Attempt.ofExcept b.requireParser
  let variableName ← Attempt.ofExcept (b.requireOption "variable")
  let flag ← Attempt.ofExcept (b.requireOption "flag")
  return Detector.rulesFlag b.spec.name parser variableName flag

def hardeningDetector : DetectorFactory (Session W) := fun b => do
  let binary ← Attempt.ofExcept (b.inputs.requireBinaryPath Kind.hardening)
  let tool ← tool (b.spec.option? "tool") "HARDENING_CHECK_BIN" "hardening-check"
  return { name := b.spec.name, binary, tool, timeout := b.timeout : HardeningDetector }.toDetector

/-- The detector that counts patterns, with a kind's own patterns as defaults. -/
def sourcePatternDetector (kind : String) (defaults : List (String × String)) :
    DetectorFactory (Session W) := fun b => do
  let source ← Attempt.ofExcept (b.inputs.requireSourceDir kind)
  let includes := ((b.spec.option? "include").map Patterns.listedIncludes).getD []
  let tool ← tool (b.spec.option? "tool") "GREP_BIN" "grep"
  let detector : SourcePatternDetector :=
    { name := b.spec.name
      sourceDir := source
      patterns := Patterns.withOptions defaults b.spec.options
      includes := Patterns.includesOrDefault includes
      tool
      timeout := b.timeout }
  return ⟨b.spec.name, fun feature => Session.onWorld (detector.detect feature)⟩

/-- All built-in kinds. -/
def registry : KindRegistry (Session W) :=
  KindRegistry.empty
    |>.withParser Kind.buildLog buildLogParser
    |>.withParser Kind.rulesVariable rulesParser
    |>.withDetector Kind.aslr aslrDetector
    |>.withDetector Kind.languageVersion languageVersionDetector
    |>.withDetector Kind.hardening hardeningDetector
    |>.withDetector Kind.namedCast (sourcePatternDetector Kind.namedCast Patterns.namedCasts)
    |>.withDetector Kind.smartPointer
      (sourcePatternDetector Kind.smartPointer Patterns.smartPointers)
    |>.withDetector Kind.rulesFlag rulesFlagDetector

end FeatureSurvey.BuiltIn
