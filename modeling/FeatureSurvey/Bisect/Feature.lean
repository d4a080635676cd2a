import FeatureSurvey.Bisect.Search
import FeatureSurvey.Git.WorkTree
import FeatureSurvey.Host.Path
import FeatureSurvey.Run.Runner

/-!
# `Bisect/Feature.lean` — the commit that introduced a feature

The oracle of the search checks a commit out and runs the detectors on the bare source tree. The
tree it works in has to be one that was made here: a clone is worked in directly, and for a
borrowed tree a scratch tree is added next to it and removed afterwards, so that the caller's own
files and branch stay as they are.

Whatever happens once work in a tree has begun, the tree is put back on the ref it was on.
-/

set_option autoImplicit false

namespace FeatureSurvey.Bisect

variable {W : Type} [Host W]

/-- Which feature is looked for, and how it is detected. -/
structure Query (W : Type) where
  kinds : KindRegistry (Session W)
  config : Config
  feature : String

namespace Query

/-- Detect the feature in a source tree. -/
def detectIn (q : Query W) (dir : String) : Job W Bool := do
  let builder : InstanceBuilder (Session W) :=
    { kinds := q.kinds, config := q.config, inputs := .sourceOnly dir }
  let record ← Session.run (Runner.run builder [q.feature])
  return ((record.get? q.feature).map FeatureValue.isPresent).getD false

/-- Is the feature there at a commit? -/
def oracle (q : Query W) (tree : WorkTree) : Oracle W := fun commit => do
  tree.checkout commit
  q.detectIn tree.root

/-- Search in a tree made here, and put it back on the ref it is on. -/
def searchIn (q : Query W) (tree : WorkTree) (old new : String) : Job W Outcome := do
  let ref ← tree.currentRef
  let search : Job W Outcome := do
    let history ← tree.firstParentRange old new
    findIntroduction history (q.oracle tree)
  search.endedBy (tree.checkout ref)

/-- What the names of our directories begin with. -/
def directoryName : String := "probe-bisect"

/-- Search in a scratch tree of a borrowed one. -/
def searchBeside (q : Query W) (tree : WorkTree) (old new : String) : Job W Outcome := do
  let old ← tree.resolve old
  let new ← tree.resolve new
  let root ← Attempt.ask fun w : W => Host.temporaryRoot w
  let scratch ← Attempt.step (.file root) (Host.makeTemporary directoryName)
  let search : Job W Outcome := do
    let worktree ← tree.addScratch (Path.join scratch "tree")
    (q.searchIn worktree old new).endedBy worktree.discard
  search.guarded do
    let _ ← Host.removeTree scratch

/-- Find the commit between `old` and `new` that introduced the feature. A feature that no
detector answers is an error before anything is done. -/
def search (q : Query W) (tree : WorkTree) (old new : String) : Job W Outcome := do
  let _ ← Attempt.ofExcept (Resolver.assign q.config [q.feature])
  if tree.isOwned then q.searchIn tree old new else q.searchBeside tree old new

end Query

end FeatureSurvey.Bisect
