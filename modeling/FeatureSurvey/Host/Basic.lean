import FeatureSurvey.Host.Command

/-!
# `Host/Basic.lean` — the host of a survey

A survey reads files, runs tools and keeps scratch directories. All of that goes through the
operations of a `Host`: a type of worlds, with questions that leave the world alone and steps
that may change it. Nothing is assumed of how a world answers, so what is proved about the jobs
built on these operations holds for every behaviour of tools and files.

Paths are texts. Questions about a path that cannot be followed are answered as if nothing were
there.
-/

set_option autoImplicit false

namespace FeatureSurvey

/-- What stands at a path. -/
inductive EntryKind where
  | file | directory | other
  deriving DecidableEq, Repr

class Host (W : Type) where
  /-- The value of an environment variable. -/
  environment? : W → String → Option String
  workingDirectory : W → Except OsError String
  entryKind? : W → String → Option EntryKind
  readFile : W → String → Except OsError ByteArray
  /-- The names in a directory. -/
  listDirectory : W → String → Except OsError (List String)
  /-- The absolute path of something that is there, without detours. -/
  canonicalPath : W → String → Except OsError String
  /-- Seconds on a clock that is never set back. -/
  uptime : W → Nat
  /-- Seconds since the beginning of 1970, on the clock on the wall. -/
  wallClock : W → Int
  run : Command → Timeout → StateM W ToolRun
  writeFile : String → ByteArray → StateM W (Except OsError Unit)
  /-- Write behind the end of a file that is there. -/
  appendFile : String → ByteArray → StateM W (Except OsError Unit)
  copyFile : String → String → StateM W (Except OsError Unit)
  /-- Make a directory and those above it that are missing. -/
  makeDirectories : String → StateM W (Except OsError Unit)
  /-- Remove a directory with all it holds. -/
  removeTree : String → StateM W (Except OsError Unit)
  /-- Make an empty directory of our own, its name beginning with the given text. -/
  makeTemporary : String → StateM W (Except OsError String)
  /-- Where such directories are made. -/
  temporaryRoot : W → String

namespace Host

variable {W : Type} [Host W]

def isFile (w : W) (path : String) : Bool := entryKind? w path == some .file

def isDirectory (w : W) (path : String) : Bool := entryKind? w path == some .directory

/-- The paths in a directory that pass a test, in the order of their names. -/
def entriesWhere (w : W) (keep : String → Bool) (join : String → String → String) (dir : String) :
    Except OsError (List String) :=
  (listDirectory w dir).map fun names =>
    ((names.mergeSort fun a b => decide (a ≤ b)).map (join dir)).filter keep

end Host

end FeatureSurvey
