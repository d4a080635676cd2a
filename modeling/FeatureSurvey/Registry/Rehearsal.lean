import FeatureSurvey.Host.Journal
import FeatureSurvey.Registry.BuiltIn

/-!
# `Registry/Rehearsal.lean` — kinds that show what a run does

A rehearsal is a run with two more kinds, which look at nothing and write into the journal of
their world when they are built and when they are asked. From the journal one reads off in which
order a run builds and asks its instances.

A rehearsed detector asks its parser, if it has one, for all lines, and answers with as many
occurrences as the name of the feature has bytes. It answers no feature whose name starts with
`fail`.
-/

set_option autoImplicit false

namespace FeatureSurvey.Rehearsal

variable {W : Type} [Host W]

def note (line : String) : Job (Session (Journaled W)) Unit :=
  Attempt.always fun s => ((), { s with world := s.world.note line })

def countingKind : String := "counting"

def echoKind : String := "echo"

def countingParser : ParserFactory (Session (Journaled W)) := fun b => do
  note s!"build parser {b.spec.name}"
  return ⟨b.spec.name, fun selector => do
    note s!"parse {b.spec.name} {selector.label}"
    return .lines ["line"]⟩

/-- The answer of a rehearsed detector, behind that of its parser. -/
def echo (name feature : String) : Except SurveyError FeatureValue :=
  if Text.startsWith feature "fail" then .error (.unsupportedFeature name feature)
  else .ok (.ofCount (UInt64.ofNat feature.utf8ByteSize))

/-- Two options let the building fail: `need` names an option that has to be there, and
`needs_parser` asks for a parser. -/
def echoDetector : DetectorFactory (Session (Journaled W)) := fun b => do
  note s!"build detector {b.spec.name}"
  if let some key := b.spec.option? "need" then
    let _ ← Attempt.ofExcept (b.requireOption key)
  if (b.spec.option? "needs_parser").isSome then
    let _ ← Attempt.ofExcept b.requireParser
  return ⟨b.spec.name, fun feature => do
    note s!"detect {b.spec.name} {feature}"
    if let some parser := b.parser then
      let _ ← parser.parse (.stage .all)
    Attempt.ofExcept (echo b.spec.name feature)⟩

/-- The built-in kinds and the two of the rehearsal. -/
def registry : KindRegistry (Session (Journaled W)) :=
  BuiltIn.registry
    |>.withParser countingKind countingParser
    |>.withDetector echoKind echoDetector

end FeatureSurvey.Rehearsal
