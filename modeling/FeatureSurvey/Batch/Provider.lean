import FeatureSurvey.Batch.Layout
import FeatureSurvey.Batch.Package
import FeatureSurvey.Batch.Settings
import FeatureSurvey.Batch.Template
import FeatureSurvey.Calendar.Date
import FeatureSurvey.Text.Integer
import FeatureSurvey.Text.Lines
import FeatureSurvey.Tool.Run

/-!
# `Batch/Provider.lean` — fetching the artifacts of a package

A provider fetches what a package has into the scratch directories. The one here runs commands:
those that the package list gives for downloading, and those of the settings for the rest. Of a
download only what it leaves in its directory counts, not its status: downloading tools end
badly over harmless warnings.

A package's source is the one directory left, its binary package and its build log the one file
left. A binary package without exactly one binary has no binary to look at.
-/

set_option autoImplicit false

namespace FeatureSurvey

/-- An extracted binary package and its one binary, seen from where it was extracted. -/
structure BinaryArtifact where
  extractionDir : String
  binary : String
  deriving DecidableEq, Repr

namespace BinaryArtifact

def path (a : BinaryArtifact) : String := Path.join a.extractionDir a.binary

def name (a : BinaryArtifact) : String := (Path.fileName? a.binary).getD a.binary

end BinaryArtifact

/-- How the artifacts of a package are fetched. -/
structure ArtifactProvider (W : Type) where
  source : PackageInfo → Layout → Task W String
  binary : PackageInfo → Layout → Task W (Option BinaryArtifact)
  buildLog : PackageInfo → Layout → Task W (Option String)
  creationDate : PackageInfo → Task W (Option Date)

namespace Batch

variable {W : Type} [Host W]

/-- The paths in a directory that pass a test, in the order of their names. -/
def listEntries (keep : W → String → Bool) (dir : String) : Task W (List String) :=
  Attempt.askFor fun w =>
    (Host.entriesWhere w (keep w) Path.join dir).mapError fun e =>
      ⟨[s!"Failed to list {dir}"], .os e⟩

/-- Where packages put their binaries. -/
def binaryDirs : List String := ["usr/bin", "usr/sbin", "usr/games", "bin", "sbin"]

/-- The files in these directories, seen from the root. -/
def findIn (root : String) : List String → Task W (List String)
  | [] => pure []
  | dir :: rest => do
    if ← Attempt.ask fun w : W => Host.isDirectory w (Path.join root dir) then
      let files ← listEntries Host.isFile (Path.join root dir)
      let found := files.filterMap fun file =>
        (Path.fileName? file).map fun name => Path.join dir name
      return found ++ (← findIn root rest)
    else findIn root rest

/-- The files in the directories where packages put their binaries. -/
def findBinaries (root : String) : Task W (List String) := findIn root binaryDirs

end Batch

/-- A provider that runs commands. -/
structure CommandProvider where
  commands : CommandSettings
  timeout : Timeout

namespace CommandProvider

open Batch

/-- What templates know of a package. -/
def packageValues (info : PackageInfo) : List (String × String) :=
  [("package", info.name), ("version", info.version)]

/-- The command of a filled template, run in a directory. -/
def command? (words : List String) (dir : String) : Option Command :=
  match words with
  | [] => none
  | program :: arguments => some ⟨program, arguments, some dir⟩

variable {W : Type} [Host W]

/-- Run the command of a template, which has to succeed. -/
def runIn (p : CommandProvider) (template dir : String) (values : List (String × String)) :
    Task W String :=
  match command? (Template.render template values) dir with
  | none => Attempt.fail (.ofText s!"empty command template '{template}'")
  | some command => Job.toTask (Tool.runChecked command p.timeout)

/-- Run a download, however it ends. -/
def downloadInto (p : CommandProvider) (template dir : String) (info : PackageInfo) :
    Task W Unit :=
  match command? (Template.render template (packageValues info)) dir with
  | none => Attempt.fail (.ofText s!"empty download command '{template}'")
  | some command => do
    let _ ← Job.toTask (Tool.run command p.timeout)

def source (p : CommandProvider) (info : PackageInfo) (layout : Layout) : Task W String := do
  match info.downloadSource with
  | none => Attempt.fail (.ofText s!"package {info.name} has no download_source_cmd")
  | some template =>
    p.downloadInto template layout.sourceDir info
    match ← listEntries Host.isDirectory layout.sourceDir with
    | [dir] => return dir
    | dirs =>
      Attempt.fail (.ofText s!"package source could not be extracted ({dirs.length} directories)")

/-- The binaries of an extracted package. -/
def binaries (p : CommandProvider) (layout : Layout) : Task W (List String) :=
  match p.commands.binaryFinder with
  | none => findBinaries layout.extractionDir
  | some finder => do
    let stdout ← p.runIn finder layout.extractionDir []
    return ((Text.lines stdout).map Text.trim).filter fun line => !line.isEmpty

def binary (p : CommandProvider) (info : PackageInfo) (layout : Layout) :
    Task W (Option BinaryArtifact) := do
  match info.downloadBinary with
  | none => return none
  | some template =>
    p.downloadInto template layout.binaryDir info
    match ← listEntries Host.isFile layout.binaryDir with
    | [package] =>
      Attempt.step .ofOs (Host.makeDirectories layout.extractionDir)
      let _ ← p.runIn p.commands.extract layout.binaryDir
        [("deb", package), ("dest", layout.extractionDir)]
      match ← p.binaries layout with
      | [binary] => return some ⟨layout.extractionDir, binary⟩
      | _ => return none
    | files =>
      Attempt.fail (.ofText s!"binary package could not be downloaded ({files.length} files)")

def buildLog (p : CommandProvider) (info : PackageInfo) (layout : Layout) :
    Task W (Option String) := do
  match p.commands.buildLog with
  | none => return none
  | some template =>
    p.downloadInto template layout.buildLogDir info
    match ← listEntries Host.isFile layout.buildLogDir with
    | [log] => return some log
    | files => Attempt.fail (.ofText s!"build log could not be downloaded ({files.length} files)")

/-- The date of a moment in seconds, as a command prints it. -/
def dateOf (stdout : String) : Except Failure Date :=
  let text := Text.trim stdout
  match Text.parseInteger text with
  | .error fault =>
    .error ⟨[s!"creation time is not Unix seconds: '{text}'"], .other fault.message⟩
  | .ok seconds =>
    match Date.ofSeconds? seconds with
    | some date => .ok date
    | none => .error (.ofText s!"creation time {seconds} is out of range")

def creationDate (p : CommandProvider) (info : PackageInfo) : Task W (Option Date) := do
  match p.commands.creationTime with
  | none => return none
  | some template =>
    let stdout ← p.runIn template "." (packageValues info)
    return some (← Attempt.ofExcept (dateOf stdout))

def toProvider (p : CommandProvider) : ArtifactProvider W :=
  ⟨p.source, p.binary, p.buildLog, p.creationDate⟩

end CommandProvider

end FeatureSurvey
