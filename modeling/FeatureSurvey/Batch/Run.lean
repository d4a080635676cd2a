import FeatureSurvey.Batch.Provider
import FeatureSurvey.Bisect.Feature

/-!
# `Batch/Run.lean` — processing a list of packages

Packages are processed one after another, each in scratch directories made afresh. Fetching the
source, fetching the binary and detecting have to succeed, or the package is left out; a build
log or a creation date that cannot be had is done without. If the package has a repository that
may be cloned, the commits that introduced its features are looked for in a clone, and whatever
goes wrong there costs no more than what it concerns, unless it is fatal.

The batch stops when it has as many records as were asked for, and fails only if the scratch
directories cannot be made or a fatal failure ends it.
-/

set_option autoImplicit false

namespace FeatureSurvey

structure BatchOptions where
  /-- How many packages are passed over at the start. -/
  startOffset : Nat := 0
  /-- How many records are wanted; without a number, all. -/
  count : Option Nat := none
  skipBisect : Bool := false
  deriving DecidableEq, Repr

structure Batch (W : Type) where
  configs : ConfigSet Config
  bisection : Config
  kinds : KindRegistry (Session W)
  whitelist : Whitelist := .empty
  layout : Layout
  provider : ArtifactProvider W
  options : BatchOptions := {}
  git : String

namespace Batch

variable {W : Type} [Host W]

/-! ## Searching a repository -/

def gitTimeout (b : Batch W) : Timeout := .ofSeconds b.bisection.toolTimeout

/-- Where a feature came in, if the search finds it and the commit's date can be read. -/
def introduction (b : Batch W) (tree : WorkTree) (first head feature : String) :
    Job W (Option FeatureIntroduction) := do
  let query : Bisect.Query W := { kinds := b.kinds, config := b.bisection, feature }
  match ← (query.search tree first head).caught with
  | .ok { verdict := .introduced commit, .. } =>
    match ← (tree.commitDate commit).caught with
    | .ok date => return some ⟨commit, date.format⟩
    | .error _ => return none
  | _ => return none

/-- Where each feature came in. -/
def introductions (b : Batch W) (tree : WorkTree) (first head : String)
    (found : Table FeatureIntroduction) :
    List String → Job W (Table FeatureIntroduction)
  | [] => return found
  | feature :: rest => do
    match ← b.introduction tree first head feature with
    | some i => introductions b tree first head (found.insert feature i) rest
    | none => introductions b tree first head found rest

/-- Search a clone. -/
def searchClone (b : Batch W) (url : String) (tree : WorkTree) : Job W BisectionData := do
  let head ← tree.headCommit
  let first ← tree.rootCommit head
  let creation ← tree.commitDate first
  let features ← b.introductions tree first head ∅ b.bisection.featuresSelected
  return ⟨url, creation.format, features⟩

/-- Clone a repository and search it; the clone is removed again. -/
def searchRepository (b : Batch W) (url : String) : Job W BisectionData := do
  let tree ← WorkTree.clone b.git url b.layout.gitDir b.gitTimeout
  (b.searchClone url tree).endedBy tree.discard

/-- What the search of a package's repository gives, if it is to be searched at all. -/
def bisectionData (b : Batch W) (info : PackageInfo) : Job W (Option BisectionData) := do
  match info.repository with
  | none => return none
  | some url =>
    if b.options.skipBisect || !b.whitelist.allows url then return none
    else return (← (b.searchRepository url).caught).toOption

/-! ## One package -/

/-- The artifacts of a package, as far as they can be had. -/
structure Artifacts where
  source : String
  binary : Option BinaryArtifact
  buildLog : Option String
  creationDate : Option Date

def Artifacts.inputs (a : Artifacts) : Inputs :=
  { binaryPath := a.binary.map BinaryArtifact.path
    binaryName := a.binary.map BinaryArtifact.name
    sourceDir := some a.source
    buildLog := a.buildLog }

/-- Something that is done without if it cannot be had. -/
def ifPossible {α : Type} (task : Task W (Option α)) : Task W (Option α) := do
  return (← task.caught).toOption.join

def fetch (b : Batch W) (info : PackageInfo) : Task W Artifacts := do
  let source ← b.provider.source info b.layout
  let binary ← b.provider.binary info b.layout
  let buildLog ← ifPossible (b.provider.buildLog info b.layout)
  let creationDate ← ifPossible (b.provider.creationDate info)
  return { source, binary, buildLog, creationDate }

/-- Run the detectors for the artifacts that are there. -/
def detect (b : Batch W) (info : PackageInfo) (a : Artifacts) : Task W ResultRecord := do
  let config := b.configs.select a.binary.isSome a.buildLog.isSome
  let builder : InstanceBuilder (Session W) := { kinds := b.kinds, config, inputs := a.inputs }
  Task.within s!"Detection failed for {info.name}" (Session.run (Runner.run builder [])).toTask

def process (b : Batch W) (info : PackageInfo) : Task W PackageRecord := do
  let artifacts ← b.fetch info
  let record ← b.detect info artifacts
  let bisection ← (b.bisectionData info).toTask
  let now ← Attempt.ask fun w : W => Host.wallClock w
  return {
    name := info.name
    rank := info.rank
    source := info.source
    version := info.version
    collected := Date.timestamp now
    detected := record.toValue.sorted
    sorted := record.toValue.sorted_sorted
    creationDate := artifacts.creationDate.map Date.format
    bisection
    maintainer := info.maintainer }

/-! ## The batch -/

/-- Make the scratch directories, process a package, and remove them again. A fatal failure leaves
them as they are. -/
def processFresh (b : Batch W) (info : PackageInfo) : Task W (Except Failure PackageRecord) := do
  Task.within s!"Failed to prepare scratch directories under {b.layout.root}"
    (b.layout.reset.mapFailure .ofOs)
  let record ← (b.process info).caught
  let _ ← Attempt.always b.layout.teardown.outcome
  return record

/-- Process packages until as many records as `wanted` are there. -/
def processAll (b : Batch W) : Option Nat → List PackageInfo → Task W (List PackageRecord)
  | some 0, _ => pure []
  | _, [] => pure []
  | wanted, info :: rest => do
    match ← b.processFresh info with
    | .ok record => return record :: (← processAll b (wanted.map (· - 1)) rest)
    | .error _ => processAll b wanted rest

def run (b : Batch W) (packages : List PackageInfo) : Task W (List PackageRecord) :=
  b.processAll b.options.count (packages.drop b.options.startOffset)

end Batch

end FeatureSurvey
