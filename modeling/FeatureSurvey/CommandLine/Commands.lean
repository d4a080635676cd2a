import FeatureSurvey.Batch.Files
import FeatureSurvey.Batch.Run
import FeatureSurvey.CommandLine.Checks
import FeatureSurvey.Registry.BuiltIn

/-!
# `CommandLine/Commands.lean` — the commands

Each command checks the paths it was given, loads its configuration and does its work with the
built-in kinds. What is printed on success is the result; everything else is a failure with its
circumstances.
-/

set_option autoImplicit false

namespace FeatureSurvey.CommandLine

variable {W : Type} [Host W]

/-! ## Detecting -/

structure DetectArguments where
  config : String := ""
  binaryDir : Option String := none
  binaryName : Option String := none
  sourceDir : Option String := none
  buildLog : Option String := none
  features : List String := []
  deriving DecidableEq, Repr, Inhabited

/-- The binary that a directory and a name in it mean, with its short name. -/
def binaryOf (dir name : String) : Task W (String × String) := do
  let dir ← existingDir "--binary-dir" dir
  let binary ← existingFile "--binary-name" (Path.join dir name)
  return (binary, (Path.fileName? name).getD name)

/-- A path that may be missing, checked if it is there. -/
def checked (check : String → Task W String) : Option String → Task W (Option String)
  | some path => do return some (← check path)
  | none => return none

/-- The artifacts that the arguments give, of which there must be one. -/
def DetectArguments.inputs (a : DetectArguments) : Task W Inputs := do
  let binary ←
    match a.binaryDir, a.binaryName with
    | some dir, some name => some <$> binaryOf dir name
    | none, none => pure none
    | _, _ => Attempt.fail (.ofText "--binary-dir and --binary-name must be given together")
  let sourceDir ← checked (existingDir "--source-dir") a.sourceDir
  let buildLog ← checked (existingFile "--build-log") a.buildLog
  let inputs : Inputs :=
    { binaryPath := binary.map (·.1), binaryName := binary.map (·.2), sourceDir, buildLog }
  if inputs.isEmpty then
    Attempt.fail (.ofText
      "at least one of --binary-dir/--binary-name, --source-dir or --build-log is required")
  return inputs

def detect (a : DetectArguments) : Task W ResultRecord := do
  let path ← existingFile "--config" a.config
  let inputs ← a.inputs
  let config ← Config.load path
  let builder : InstanceBuilder (Session W) := { kinds := BuiltIn.registry, config, inputs }
  Task.within "Detection failed" (Session.run (Runner.run builder a.features)).toTask

/-! ## Searching a repository -/

structure BisectArguments where
  config : String := ""
  repository : String := ""
  feature : String := ""
  old : Option String := none
  new : Option String := none
  branch : Option String := none
  deriving DecidableEq, Repr, Inhabited

/-- The newest commit to look at: the one named, else the branch, else the current one. -/
def BisectArguments.newest (a : BisectArguments) : String := (a.new <|> a.branch).getD "HEAD"

/-- The commit that introduced the feature, if there is one in the range. -/
def bisect (a : BisectArguments) : Task W (Option String) := do
  let path ← existingFile "--config" a.config
  let repository ← existingDir "--repo" a.repository
  let config ← Config.load path
  let tree ← Task.within s!"{repository} is not a git working tree"
    (Job.toTask (WorkTree.borrow repository (.ofSeconds config.toolTimeout)))
  let search : Task W Bisect.Outcome := do
    let old ←
      match a.old with
      | some old => pure old
      | none => Job.toTask (tree.rootCommit a.newest)
    let query : Bisect.Query W := { kinds := BuiltIn.registry, config, feature := a.feature }
    Task.within s!"Bisection of '{a.feature}' failed"
      (Job.toTask (query.search tree old a.newest))
  return (← search.guarded tree.release).commit?

def bisectReport (feature : String) (commit : Option String) : Value :=
  .record [("feature", .text feature), ("commit", .optionText commit)]

/-! ## Processing packages -/

structure BatchArguments where
  packages : String := ""
  settings : String := ""
  out : String := Batch.defaultOutput
  options : BatchOptions := {}
  deriving DecidableEq, Repr, Inhabited

def processPackages (a : BatchArguments) : Task W (List PackageRecord) := do
  let packagesPath ← existingFile "package infos" a.packages
  let settingsPath ← existingFile "--settings" a.settings
  let packages ← Batch.loadPackages packagesPath
  let settings ← BatchSettings.load settingsPath
  let configs ← settings.loadConfigs
  let bisection ← settings.loadBisectionConfig
  let whitelist ← settings.loadWhitelist
  let git ← Attempt.ask fun w : W => WorkTree.defaultGit w
  let provider : CommandProvider := ⟨settings.commands, settings.timeout⟩
  let batch : Batch W :=
    { configs, bisection, kinds := BuiltIn.registry, whitelist,
      layout := ⟨settings.scratchRoot⟩, provider := provider.toProvider, options := a.options, git }
  batch.run packages

/-- Process packages and write the records to a file. -/
def writePackages (a : BatchArguments) : Task W Unit := do
  let out ← absolute a.out
  Batch.writeRecords out (← processPackages a)

/-! ## Listing kinds -/

/-- The kinds of detectors and parsers, as a value or as text. -/
def kindsValue (detectors parsers : List String) : Value :=
  .record [("detectors", .texts detectors), ("parsers", .texts parsers)]

def kindsText (detectors parsers : List String) : String :=
  let item (kind : String) : String := s!"- {kind}\n"
  "Detector kinds:\n" ++ String.join (detectors.map item) ++
    "Parser kinds:\n" ++ String.join (parsers.map item)

end FeatureSurvey.CommandLine
