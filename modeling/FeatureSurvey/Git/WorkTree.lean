import FeatureSurvey.Calendar.Date
import FeatureSurvey.Text.Lines
import FeatureSurvey.Text.Search
import FeatureSurvey.Tool.Run

/-!
# `Git/WorkTree.lean` — working trees

A working tree is a directory in which `git` keeps the files of one commit. A tree is either the
caller's own, which is borrowed and left in place, or it was made here, as a clone or as a linked
tree of another repository. A tree made here is removed when it is discarded, and the repository
of a linked tree is told to forget it.

Every command runs the `git` executable with the directory of the tree before anything else.
-/

set_option autoImplicit false

namespace FeatureSurvey

inductive Ownership where
  | borrowed
  | cloned
  /-- Linked to the repository at a path. -/
  | linked (repository : String)
  deriving DecidableEq, Repr

structure WorkTree where
  root : String
  git : String
  timeout : Timeout
  ownership : Ownership
  deriving DecidableEq, Repr

namespace WorkTree

/-- The executable, unless another is named. -/
def defaultGit {W : Type} [Host W] (w : W) : String := Tool.resolve w none "GIT_BIN" "git"

/-- May the tree be checked out into and removed? -/
def isOwned (t : WorkTree) : Bool := t.ownership != .borrowed

/-! ## Commands -/

def command (t : WorkTree) (arguments : List String) : Command :=
  { program := t.git, arguments := "-C" :: t.root :: arguments }

def cloneCommand (git url dest : String) : Command :=
  { program := git, arguments := ["clone", "--quiet", url, dest] }

def pruneCommand (t : WorkTree) (repository : String) : Command :=
  { program := t.git, arguments := ["-C", repository, "worktree", "prune"] }

variable {W : Type} [Host W]

def run (t : WorkTree) (arguments : List String) : Job W String :=
  Tool.runChecked (t.command arguments) t.timeout

/-- The one line that a command prints. -/
def oneLine (command : Command) (stdout : String) : Except SurveyError String :=
  let line := Text.trim stdout
  if line.isEmpty || Text.contains line "\n" then
    .error (.toolOutput command.describe (.notOneLine line))
  else .ok line

def runForLine (t : WorkTree) (arguments : List String) : Job W String := do
  let stdout ← t.run arguments
  Attempt.ofExcept (oneLine (t.command arguments) stdout)

/-! ## Making and releasing trees -/

/-- Clone a repository into a directory. -/
def clone (git url dest : String) (timeout : Timeout) : Job W WorkTree := do
  let _ ← Tool.runChecked (cloneCommand git url dest) timeout
  return ⟨dest, git, timeout, .cloned⟩

/-- Use a tree of the caller's. -/
def borrow (path : String) (timeout : Timeout) : Job W WorkTree := do
  let git ← Attempt.ask fun w : W => defaultGit w
  let tree : WorkTree := ⟨path, git, timeout, .borrowed⟩
  let _ ← tree.run ["rev-parse", "--git-dir"]
  return tree

/-- Add a linked tree that stands on no branch. -/
def addScratch (t : WorkTree) (dest : String) : Job W WorkTree := do
  let _ ← t.run ["worktree", "add", "--detach", "--quiet", dest, "HEAD"]
  return ⟨dest, t.git, t.timeout, .linked t.root⟩

/-- Remove a tree made here, and have the repository of a linked one forget it. What cannot be
removed stays; a borrowed tree is not touched. -/
def discard (t : WorkTree) : Job W Unit :=
  match t.ownership with
  | .borrowed => pure ()
  | .cloned => do
    let _ ← Attempt.always (Host.removeTree t.root)
  | .linked repository => do
    let _ ← Attempt.always (Host.removeTree t.root)
    let _ ← Tool.runChecked (t.pruneCommand repository) t.timeout

/-- Let a tree go at the end of all work with it, when nobody asks what came of that. -/
def release (t : WorkTree) : StateM W Unit := do
  let _ ← t.discard.outcome

/-! ## Revisions -/

/-- The full name of the commit that a revision means. -/
def resolve (t : WorkTree) (revision : String) : Job W String :=
  t.runForLine ["rev-parse", "--verify", "--quiet", revision ++ "^\x7bcommit\x7d"]

def headCommit (t : WorkTree) : Job W String := t.resolve "HEAD"

/-- The first commit on the line of first parents that leads to a revision. -/
def rootCommit (t : WorkTree) (revision : String) : Job W String := do
  let stdout ← t.run ["rev-list", "--first-parent", "--max-parents=0", revision]
  match (Text.lines stdout).getLast? with
  | some line => return line
  | none => Attempt.fail (.toolOutput "git rev-list" (.noRoot revision))

/-- The branch the tree is on, or the commit if it is on none. -/
def currentRef (t : WorkTree) : Job W String := do
  -- On no branch the question fails, which is an answer here.
  match ← (t.run ["symbolic-ref", "--short", "-q", "HEAD"]).caught with
  | .ok stdout => if Text.isBlankText stdout then t.headCommit else return Text.trim stdout
  | .error _ => t.headCommit

/-- Can the first commit be reached from the second? -/
def isAncestor (t : WorkTree) (ancestor descendant : String) : Job W Bool := do
  let command := t.command ["merge-base", "--is-ancestor", ancestor, descendant]
  let output ← Tool.run command t.timeout
  if output.status = some 0 then return true
  else if output.status = some 1 then return false
  else Attempt.fail (Tool.failed command.describe output)

/-- The commits listed in what `rev-list` prints. -/
def listed (stdout : String) : List String :=
  ((Text.lines stdout).map Text.trim).filter fun line => !line.isEmpty

/-- The commits on the line of first parents from `old` to `new`, oldest first, `old` included. -/
def firstParentRange (t : WorkTree) (old new : String) : Job W (List String) := do
  let old ← t.resolve old
  let new ← t.resolve new
  if !(← t.isAncestor old new) then Attempt.fail (.config (.unrelatedEnds old new))
  let stdout ← t.run ["rev-list", "--first-parent", "--reverse", s!"{old}..{new}"]
  return old :: listed stdout

/-- Bring the tree to a commit, and drop every file that is not the commit's. -/
def checkout (t : WorkTree) (commit : String) : Job W Unit := do
  let _ ← t.run ["checkout", "--quiet", "--force", commit]
  let _ ← t.run ["clean", "-fdxq"]

/-- The author's date of a commit. -/
def commitDate (t : WorkTree) (commit : String) : Job W Date := do
  let line ← t.runForLine ["log", "-1", "--format=%ad", "--date=short", commit]
  Attempt.ofExcept ((Date.parse line).mapError fun fault =>
    .toolOutput "git log" (.badDate line fault))

end WorkTree

end FeatureSurvey
