import FeatureSurvey.Detect.Basic
import FeatureSurvey.Detect.Session
import FeatureSurvey.Detector.Report
import FeatureSurvey.Tool.Run

/-!
# `Detector/Hardening.lean` — the hardening audit of a binary

The audit tool is run on the binary until it has given a report, which then answers every
feature. Its status `1` only says that some protection is missing, so `0` and `1` both mean that
there is a report.
-/

set_option autoImplicit false

namespace FeatureSurvey

structure HardeningDetector where
  name : String
  binary : String
  tool : String
  timeout : Timeout
  deriving DecidableEq, Repr

namespace HardeningDetector

def command (d : HardeningDetector) : Command := { program := d.tool, arguments := [d.binary] }

/-- The report in what the audit printed, if its status says that there is one. -/
def reportOf (d : HardeningDetector) (output : ToolOutput) : Except SurveyError (Table String) :=
  if output.status = some 0 ∨ output.status = some 1 then .ok (Report.parse output.stdout)
  else .error (Tool.failed d.command.describe output)

/-- What a report says about a feature. -/
def answer (d : HardeningDetector) (report : Table String) (feature : String) :
    Except SurveyError FeatureValue :=
  if feature = Report.allProtections then .ok (.table report)
  else
    match Report.label? feature with
    | none => .error (.unsupportedFeature d.name feature)
    | some label =>
      match report.get? label with
      | none => .error (.toolOutput d.tool (.noEntry label))
      | some status => .ok (.text status)

variable {W : Type}

/-- How often the audit has been started in this run. -/
def invocations (d : HardeningDetector) (s : Session W) : Nat :=
  (s.memory.audits.get? d.name).getD 0

variable [Host W]

/-- The report of this run. -/
def report (d : HardeningDetector) : Job (Session W) (Table String) := do
  match ← Attempt.ask fun s : Session W => s.memory.reports.get? d.name with
  | some report => return report
  | none =>
    let count ← Attempt.ask d.invocations
    Session.remember fun m => { m with audits := m.audits.insert d.name (count + 1) }
    let output ← Session.onWorld (Tool.run d.command d.timeout)
    let report ← Attempt.ofExcept (d.reportOf output)
    Session.remember fun m => { m with reports := m.reports.insert d.name report }
    return report

def detect (d : HardeningDetector) (feature : String) : Job (Session W) FeatureValue := do
  Attempt.ofExcept (d.answer (← d.report) feature)

def toDetector (d : HardeningDetector) : Detector (Session W) := ⟨d.name, d.detect⟩

end HardeningDetector

end FeatureSurvey
