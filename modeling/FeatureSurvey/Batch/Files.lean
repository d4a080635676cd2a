import FeatureSurvey.Batch.Package
import FeatureSurvey.Config.Load
import FeatureSurvey.Json.Printer
import FeatureSurvey.Json.Reader

/-!
# `Batch/Files.lean` — package lists and result files

The package list is read from a file, and the records are written to one, both as a list in JSON.
The records are laid out with one member a line and a line feed at the end.
-/

set_option autoImplicit false

namespace FeatureSurvey.Batch

variable {W : Type} [Host W]

/-- Where results go unless another file is named. -/
def defaultOutput : String := "detection_results.json"

/-- Read a package list. -/
def loadPackages (path : String) : Task W (List PackageInfo) := do
  let body ← Task.readText s!"Failed to read package infos at {path}" path
  match (Json.read? body).bind (Source.listOf? PackageInfo.ofSource?) with
  | some packages => return packages
  | none => Attempt.fail ⟨[s!"Invalid package infos JSON at {path}"], .json⟩

def printRecords (records : List PackageRecord) : String :=
  Json.pretty (.list (records.map PackageRecord.toValue)) ++ "\n"

def writeRecords (path : String) (records : List PackageRecord) : Task W Unit :=
  Attempt.step (fun e => ⟨[s!"Failed to write results to {path}"], .os e⟩)
    (Host.writeFile path (printRecords records).toUTF8)

end FeatureSurvey.Batch
