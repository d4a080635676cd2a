import FeatureSurvey.Host.Job
import FeatureSurvey.Host.Path

/-!
# `CommandLine/Checks.lean` — checking the paths that are given

A path given on the command line is checked before anything is done with it, and made absolute.
The message names the option it was given for. A file that is still to be written need not be
there; its path is then meant from the current directory.
-/

set_option autoImplicit false

namespace FeatureSurvey.CommandLine

variable {W : Type} [Host W]

/-- What an option's path has to be. -/
inductive Expected where
  | directory | file
  deriving DecidableEq, Repr

def Expected.name : Expected → String
  | .directory => "directory"
  | .file => "file"

def Expected.kind : Expected → EntryKind
  | .directory => .directory
  | .file => .file

/-- What is wrong when the path is something else. -/
def Expected.otherwise : Expected → String
  | .directory => "not a directory"
  | .file => "not a file"

/-- The absolute path of something that has to be there. -/
def existing (expected : Expected) (option path : String) : Task W String :=
  Attempt.askFor fun w =>
    match Host.entryKind? w path with
    | none => .error (.ofText s!"{option}: {expected.name} does not exist: {path}")
    | some kind =>
      if kind = expected.kind then
        (Host.canonicalPath w path).mapError fun e =>
          ⟨[s!"{option}: cannot resolve {path}"], .os e⟩
      else .error (.ofText s!"{option}: {expected.otherwise}: {path}")

def existingDir (option path : String) : Task W String := existing .directory option path

def existingFile (option path : String) : Task W String := existing .file option path

def currentDirectory (w : W) : Except Failure String :=
  (Host.workingDirectory w).mapError fun e => ⟨["Failed to get current directory"], .os e⟩

/-- The absolute path of something that may not be there yet. -/
def absolute (path : String) : Task W String :=
  Attempt.askFor fun w =>
    if Path.isHere path then currentDirectory w
    else
      match Host.canonicalPath w path with
      | .ok path => .ok path
      | .error _ => (currentDirectory w).map fun here => Path.join here path

end FeatureSurvey.CommandLine
