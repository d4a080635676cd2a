import FeatureSurvey.Data.Table
import FeatureSurvey.Text.Blank
import FeatureSurvey.Text.Lines
import FeatureSurvey.Text.Search

/-!
# `Detector/Report.lean` — the report of the hardening audit

The audit of a binary prints a line that names the binary and then one line for each protection:
a label, a colon, and a status. Blanks around either do not count, a status may itself hold
colons, and lines of any other shape are passed over. Of two lines with one label the later
counts.
-/

set_option autoImplicit false

namespace FeatureSurvey.Report

/-- The feature that stands for all protections at once. -/
def allProtections : String := "hardening"

/-- Features and the labels under which the audit reports them. -/
def labels : List (String × String) := [
  ("ro-relocation", "Read-only relocations"),
  ("stack-protector", "Stack protected"),
  ("fortify-source", "Fortify Source functions"),
  ("PIE", "Position Independent Executable"),
  ("immediate-binding", "Immediate binding"),
  ("stack-clash", "Stack clash protection"),
  ("control-flow-integrity", "Control flow integrity")]

def label? (feature : String) : Option String := labels.lookup feature

/-- The label and status on one line. -/
def entry? (line : String) : Option (String × String) := do
  let (label, status) ← Text.splitOnce? line ':'
  if Text.isBlankText label then none else some (Text.trim label, Text.trim status)

def parse (stdout : String) : Table String :=
  Table.ofList (((Text.lines stdout).drop 1).filterMap entry?)

end FeatureSurvey.Report
