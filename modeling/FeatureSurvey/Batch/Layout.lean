import FeatureSurvey.Host.Job
import FeatureSurvey.Host.Path

/-!
# `Batch/Layout.lean` — the scratch directories of a batch

Under one root there is a directory for the downloaded source, one for the downloaded binary
with its extracted contents inside, one for the build log, and one for the clone of a repository.
Before each package the first three are made afresh, and after it all four are removed.
-/

set_option autoImplicit false

namespace FeatureSurvey

structure Layout where
  root : String
  deriving DecidableEq, Repr

namespace Layout

def sourceDir (l : Layout) : String := Path.join l.root "source_package_downloads"

def binaryDir (l : Layout) : String := Path.join l.root "binary_package_downloads"

/-- What the binary package holds, after its extraction. -/
def extractionDir (l : Layout) : String := Path.join l.binaryDir "extraction_root"

def buildLogDir (l : Layout) : String := Path.join l.root "build_log_dir"

/-- The clone of a repository, which the clone itself makes. -/
def gitDir (l : Layout) : String := Path.join l.root "git_bisection_repo"

/-- The directories made afresh for every package. -/
def packageDirs (l : Layout) : List String := [l.sourceDir, l.binaryDir, l.buildLogDir]

def scratchDirs (l : Layout) : List String := l.packageDirs ++ [l.gitDir]

theorem mem_scratchDirs_of_packageDirs {l : Layout} {dir : String} (h : dir ∈ l.packageDirs) :
    dir ∈ l.scratchDirs := List.mem_append_left _ h

variable {W : Type} [Host W]

/-- Remove a directory; that it is not there is no error. -/
def removeIfThere (dir : String) : Attempt OsError W Unit := fun w =>
  match Host.removeTree dir w with
  | (.error .notFound, w) => (.ok (), w)
  | (r, w) => (r, w)

/-- Do something to each directory, up to the first failure. -/
def forEach (act : String → Attempt OsError W Unit) : List String → Attempt OsError W Unit
  | [] => pure ()
  | dir :: rest => do
    act dir
    forEach act rest

/-- Remove all scratch directories. -/
def teardown (l : Layout) : Attempt OsError W Unit := forEach removeIfThere l.scratchDirs

/-- Remove what is left of an earlier package, and make empty directories. -/
def reset (l : Layout) : Attempt OsError W Unit := do
  teardown l
  forEach (fun dir => Attempt.step id (Host.makeDirectories dir)) l.packageDirs

end Layout

end FeatureSurvey
