import FeatureSurvey.Config.Basic

/-!
# `Config/Legacy.lean` — kind names of older configurations

Older configurations name a kind by the class that carried it out. Each of these names stands
for one of the kinds below, and every other kind name stands for itself. The list serves
detectors and parsers alike.
-/

set_option autoImplicit false

namespace FeatureSurvey

namespace Kind

def buildLog : String := "build-log"
def rulesVariable : String := "rules-variable"
def aslr : String := "aslr"
def languageVersion : String := "lang-version"
def hardening : String := "hardening-check"
def namedCast : String := "named-cast"
def smartPointer : String := "smart-pointer"
def rulesFlag : String := "rules-flag"

/-- The older names, each with the kind it stands for. -/
def legacyNames : List (String × String) := [
  ("ASLRDetector", aslr),
  ("ALSRDetector", aslr),
  ("CppVersionDetector", languageVersion),
  ("HardeningDetector", hardening),
  ("NamedCastDetector", namedCast),
  ("SmartPointerDetector", smartPointer),
  ("BuildLogParser", buildLog),
  ("RulesFlagParser", rulesVariable)]

/-- The kind that a kind name stands for. -/
def current (kind : String) : String := (legacyNames.lookup kind).getD kind

end Kind

/-- The configuration with every kind under its current name. -/
def Config.withCurrentKinds (c : Config) : Config :=
  { c with
    detectors := c.detectors.map fun d => { d with kind := Kind.current d.kind }
    parsers := c.parsers.map fun p => { p with kind := Kind.current p.kind } }

end FeatureSurvey
