import FeatureSurvey.Batch.Whitelist
import FeatureSurvey.Config.Load
import FeatureSurvey.Host.Path

/-!
# `Batch/Settings.lean` — settings of a batch

A batch is set up by a file that names a configuration for each combination of artifacts, one for
searching repositories, the list of repositories that may be cloned, the scratch directory, and
the commands that fetch artifacts. Relative paths in it are meant from the directory of the file.
-/

set_option autoImplicit false

namespace FeatureSurvey

open Fields

/-- Something for each combination of artifacts. -/
structure ConfigSet (α : Type) where
  full : α
  withoutBuildLog : α
  withoutBinary : α
  sourceOnly : α
  deriving DecidableEq

namespace ConfigSet

variable {α β : Type}

/-- The one for the artifacts that are there. -/
def select (c : ConfigSet α) (hasBinary hasBuildLog : Bool) : α :=
  match hasBinary, hasBuildLog with
  | true, true => c.full
  | true, false => c.withoutBuildLog
  | false, true => c.withoutBinary
  | false, false => c.sourceOnly

def map (f : α → β) (c : ConfigSet α) : ConfigSet β :=
  ⟨f c.full, f c.withoutBuildLog, f c.withoutBinary, f c.sourceOnly⟩

/-- Do something for each, in order. -/
def mapM {m : Type → Type} [Monad m] (f : α → m β) (c : ConfigSet α) : m (ConfigSet β) := do
  return ⟨← f c.full, ← f c.withoutBuildLog, ← f c.withoutBinary, ← f c.sourceOnly⟩

def fields : List (List String) :=
  [["full"], ["without_build_log"], ["without_binary"], ["source_only"]]

def toValue (f : α → Value) (c : ConfigSet α) : Value :=
  .record [("full", f c.full), ("without_build_log", f c.withoutBuildLog),
    ("without_binary", f c.withoutBinary), ("source_only", f c.sourceOnly)]

def ofSource? (format : Format) (read : Source → Option α) (s : Source) :
    Option (ConfigSet α) := do
  match ← Fields.ofSource? format fields s with
  | [full, withoutBuildLog, withoutBinary, sourceOnly] =>
    some ⟨← required? read full, ← required? read withoutBuildLog, ← required? read withoutBinary,
      ← required? read sourceOnly⟩
  | _ => none

end ConfigSet

/-- Command templates. -/
structure CommandSettings where
  extract : String := "dpkg -x \x7bdeb\x7d \x7bdest\x7d"
  buildLog : Option String := some "getbuildlog \x7bpackage\x7d last amd64"
  /-- Prints the binaries of the extracted package; without it, the usual directories are
  looked through. -/
  binaryFinder : Option String := none
  /-- Prints when the package was made, in seconds. -/
  creationTime : Option String := none
  deriving DecidableEq, Repr, Inhabited

namespace CommandSettings

def fields : List (List String) :=
  [["extract"], ["build_log"], ["binary_finder"], ["creation_time"]]

def toValue (c : CommandSettings) : Value :=
  .record [("extract", .text c.extract), ("build_log", .optionText c.buildLog),
    ("binary_finder", .optionText c.binaryFinder), ("creation_time", .optionText c.creationTime)]

def ofSource? (format : Format) (s : Source) : Option CommandSettings := do
  let usual : CommandSettings := {}
  let text? (fallback : Option String) := optional? fallback (Source.asOption? Source.asText?)
  match ← Fields.ofSource? format fields s with
  | [extract, buildLog, binaryFinder, creationTime] =>
    some {
      extract := ← optional? usual.extract Source.asText? extract
      buildLog := ← text? usual.buildLog buildLog
      binaryFinder := ← text? none binaryFinder
      creationTime := ← text? none creationTime }
  | _ => none

end CommandSettings

structure BatchSettings where
  configs : ConfigSet String
  bisectionConfig : Option String := none
  whitelist : Option String := none
  scratchRoot : String := "harness_scratch"
  commandTimeout : UInt64 := defaultToolTimeout
  commands : CommandSettings := {}
  deriving DecidableEq

namespace BatchSettings

def fields : List (List String) :=
  [["configs"], ["bisection_config"], ["github_whitelist"], ["scratch_root"],
    ["command_timeout_secs"], ["commands"]]

def toValue (s : BatchSettings) : Value :=
  .record [("configs", s.configs.toValue .text),
    ("bisection_config", .optionText s.bisectionConfig),
    ("github_whitelist", .optionText s.whitelist), ("scratch_root", .text s.scratchRoot),
    ("command_timeout_secs", .word s.commandTimeout), ("commands", s.commands.toValue)]

def ofSource? (format : Format) (s : Source) : Option BatchSettings := do
  match ← Fields.ofSource? format fields s with
  | [configs, bisectionConfig, whitelist, scratchRoot, commandTimeout, commands] =>
    some {
      configs := ← required? (ConfigSet.ofSource? format Source.asText?) configs
      bisectionConfig := ← optional? none (Source.asOption? Source.asText?) bisectionConfig
      whitelist := ← optional? none (Source.asOption? Source.asText?) whitelist
      scratchRoot := ← optional? "harness_scratch" Source.asText? scratchRoot
      commandTimeout := ← optional? defaultToolTimeout Source.asWord? commandTimeout
      commands := ← optional? {} (CommandSettings.ofSource? format) commands }
  | _ => none

/-- The settings with their paths seen from a directory. -/
def seenFrom (s : BatchSettings) (base : String) : BatchSettings :=
  { s with
    configs := s.configs.map (Path.join base)
    bisectionConfig := s.bisectionConfig.map (Path.join base)
    whitelist := s.whitelist.map (Path.join base)
    scratchRoot := Path.join base s.scratchRoot }

def timeout (s : BatchSettings) : Timeout := .ofSeconds s.commandTimeout

variable {W : Type} [Host W]

/-- Read the settings of a file. -/
def load (path : String) : Task W BatchSettings := do
  let body ← Task.readText s!"Failed to read harness settings at {path}" path
  match (Yaml.read? body).bind (ofSource? .yaml) with
  | some settings => return settings.seenFrom ((Path.parent? path).getD ".")
  | none => Attempt.fail ⟨[s!"Invalid harness settings at {path}"], .yaml⟩

def loadConfigs (s : BatchSettings) : Task W (ConfigSet Config) := s.configs.mapM Config.load

/-- The configuration for searching repositories; unless one is named, the one for bare
sources. -/
def loadBisectionConfig (s : BatchSettings) : Task W Config :=
  Config.load (s.bisectionConfig.getD s.configs.sourceOnly)

def loadWhitelist (s : BatchSettings) : Task W Whitelist :=
  match s.whitelist with
  | none => return .empty
  | some path => do
    return .ofText (← Task.readText s!"Failed to read github whitelist at {path}" path)

end BatchSettings

end FeatureSurvey
