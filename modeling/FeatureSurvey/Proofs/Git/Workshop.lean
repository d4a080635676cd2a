import FeatureSurvey.Config.Legacy
import FeatureSurvey.Proofs.Git.Repository
import Mathlib.Data.List.ProdSigma
import Mathlib.Logic.Function.Basic

/-!
# `Proofs/Git/Workshop.lean` — a repository that works

What `Proofs/Git/Repository.lean` asks of `git` can be kept, and here is a host that keeps it, for
every graph of commits. A `Project` says which lines of source each commit has. A `Workshop` holds
working trees by their directories. Each tree stands on a commit, off any branch, and may have lines
that are not the commit's; a checkout moves it, and the cleaning drops what is not the commit's.

The host knows two programs: `git`, as far as it is used here, and a `grep` that prints the lines of
a tree that contain a text.
-/

set_option autoImplicit false

namespace FeatureSurvey

open Text (onLines)
open WorkTree (IsQuestion resolving relating ranging checkingOut cleaning addingScratch)

structure Project where
  graph : CommitGraph
  /-- The lines of source at a commit. -/
  source : String → List String

/-- A working tree: the commit it stands on, and the lines that are not the commit's. -/
structure Standing where
  head : String
  extra : List String := []

/-- A world in which a project is worked on. -/
structure Workshop (P : Project) where
  trees : String → Option Standing

namespace Workshop

variable {P : Project}

/-! ## The programs -/

/-- Nothing but a status. -/
def silent (status : Int) : ToolOutput := ⟨some status, "", ""⟩

def printed (lines : List String) : ToolOutput := ⟨some 0, onLines lines, ""⟩

def put (w : Workshop P) (dir : String) (standing : Standing) : Workshop P :=
  ⟨Function.update w.trees dir (some standing)⟩

/-- The commit that a revision means in a tree that stands on `head`. -/
def meaning (P : Project) (head revision : String) : Option String :=
  if revision ∈ P.graph.commits then some revision
  else if revision = "HEAD" then some head else none

/-- The revision in front of the nine characters that ask for a commit. -/
def peeled (spec : String) : String := String.ofList (spec.toList.take (spec.toList.length - 9))

/-- The two ends of a range. -/
def ends (P : Project) (spec : String) : Option (String × String) :=
  (P.graph.commits.product P.graph.commits).find? fun (o, n) => s!"{o}..{n}" == spec

/-- What `git` does in a tree. -/
def onTree (w : Workshop P) (dir : String) (standing : Standing) :
    List String → ToolOutput × Workshop P
  -- A tree is on no branch.
  | ["symbolic-ref", "--short", "-q", "HEAD"] => (silent 1, w)
  | ["rev-parse", "--verify", "--quiet", spec] =>
    match meaning P standing.head (peeled spec) with
    | some c => (printed [c], w)
    | none => (silent 1, w)
  | ["merge-base", "--is-ancestor", a, d] =>
    (if a ∈ P.graph.ancestors d then silent 0 else silent 1, w)
  | ["rev-list", "--first-parent", "--reverse", spec] =>
    match ends P spec with
    | some (o, n) => (printed (P.graph.range o n), w)
    | none => (silent 128, w)
  | ["checkout", "--quiet", "--force", revision] =>
    match meaning P standing.head revision with
    | some c => (printed [], w.put dir { standing with head := c })
    | none => (silent 1, w)
  | ["clean", "-fdxq"] => (printed [], w.put dir { standing with extra := [] })
  | ["worktree", "add", "--detach", "--quiet", dest, "HEAD"] =>
    (printed [], w.put dest { head := standing.head })
  | ["worktree", "prune"] => (printed [], w)
  | _ => (silent 129, w)

def git (w : Workshop P) : List String → ToolOutput × Workshop P
  | "-C" :: dir :: args =>
    match w.trees dir with
    | some standing => w.onTree dir standing args
    | none => (silent 128, w)
  | _ => (silent 129, w)

/-- The lines of a tree that contain a text, if there is a tree. -/
def lookUp (P : Project) (text : String) : Option Standing → ToolOutput
  | some standing =>
    let found := (P.source standing.head ++ standing.extra).filter fun line =>
      Text.contains line text
    if found.isEmpty then silent 1 else printed found
  | none => silent 2

def grep (w : Workshop P) (arguments : List String) : ToolOutput :=
  match arguments.reverse with
  | dir :: text :: _ => lookUp P text (w.trees dir)
  | _ => silent 2

instance : Host (Workshop P) where
  environment? _ _ := none
  workingDirectory _ := .error .notFound
  entryKind? w path := (w.trees path).map fun _ => .directory
  readFile _ _ := .error .notFound
  listDirectory _ _ := .error .notFound
  canonicalPath _ path := .ok path
  uptime _ := 0
  wallClock _ := 0
  run command _ w :=
    if command.program = "git" then
      (.exited (w.git command.arguments).1, (w.git command.arguments).2)
    else if command.program = "grep" then (.exited (w.grep command.arguments), w)
    else (.notStarted .notFound, w)
  writeFile _ _ w := (.error .accessDenied, w)
  appendFile _ _ w := (.error .accessDenied, w)
  copyFile _ _ w := (.error .accessDenied, w)
  makeDirectories _ w := (.error .accessDenied, w)
  removeTree dir w := (.ok (), ⟨Function.update w.trees dir none⟩)
  makeTemporary front w := (.ok s!"/tmp/{front}", w)
  temporaryRoot _ := "/tmp"

/-- The workshops of a project as states of one repository. -/
def repository (P : Project) : Repository (Workshop P) where
  graph := P.graph
  isTree w t := t.git = "git" ∧ (t.timeout.deadline? 0).isSome = true ∧
    ∃ standing, w.trees t.root = some standing ∧ standing.head ∈ P.graph.commits
  means w t revision := (w.trees t.root).bind fun standing => meaning P standing.head revision
  standsAt w t c := ∃ standing, w.trees t.root = some standing ∧ standing.head = c
  isClean w t := ∃ standing, w.trees t.root = some standing ∧ standing.extra = []

/-! ## Reading command lines -/

theorem peeled_resolving (revision : String) :
    peeled (revision ++ "^\x7bcommit\x7d") = revision := by
  have hsuffix : "^\x7bcommit\x7d".toList.length = 9 := by decide
  rw [peeled, String.toList_append, List.length_append, hsuffix, Nat.add_sub_cancel,
    List.take_left, String.ofList_toList]

/-- Commits have no dots in their names, so a range can be read in one way only. -/
theorem range_inj {a b o n : String} (ha : Text.IsPlain a) (ho : Text.IsPlain o)
    (heq : s!"{a}..{b}" = s!"{o}..{n}") : a = o ∧ b = n := by
  have hlist : a.toList ++ '.' :: ('.' :: b.toList) = o.toList ++ '.' :: ('.' :: n.toList) := by
    have hlist := congrArg String.toList heq
    simpa [toString, String.toList_append] using hlist
  obtain ⟨ho, hn⟩ := Text.append_cons_inj (ha.not_mem rfl) (ho.not_mem rfl) hlist
  exact ⟨String.toList_inj.1 ho, String.toList_inj.1 (List.cons.inj hn).2⟩

theorem ends_ranging {o n : String} (ho : o ∈ P.graph.commits) (hn : n ∈ P.graph.commits) :
    ends P s!"{o}..{n}" = some (o, n) := by
  have hsome : (ends P s!"{o}..{n}").isSome := by
    rw [ends, List.find?_isSome]
    exact ⟨(o, n), List.mem_product.2 ⟨ho, hn⟩, by simp⟩
  obtain ⟨⟨a, b⟩, hends⟩ := Option.isSome_iff_exists.1 hsome
  have hmem := List.mem_product.1 (List.mem_of_find?_eq_some hends)
  have hpair := List.find?_some hends
  have heq : s!"{a}..{b}" = s!"{o}..{n}" := eq_of_beq hpair
  obtain ⟨rfl, rfl⟩ := range_inj (P.graph.plain a hmem.1) (P.graph.plain o ho) heq
  exact hends

/-! ## What is kept -/

variable {w : Workshop P} {t : WorkTree} {standing : Standing}

/-- A command on a tree runs, within its limit. -/
theorem exec_attempt (ht : (repository P).isTree w t) (h : w.trees t.root = some standing)
    (args : List String) :
    (t.attempt args).exec w =
      (.ok (w.onTree t.root standing args).1, (w.onTree t.root standing args).2) := by
  obtain ⟨hgit, hlimit, -⟩ := ht
  have hrun : Host.run (t.command args) t.timeout w =
      (.exited (w.onTree t.root standing args).1, (w.onTree t.root standing args).2) := by
    simp [Host.run, WorkTree.command, hgit, git, h]
  rw [WorkTree.attempt, Tool.exec_run, hrun, Tool.judge]
  exact congrArg (·, _) (if_pos hlimit)

theorem run_grep {command : Command} {timeout : Timeout} (h : command.program = "grep") :
    Host.run command timeout w = (.exited (w.grep command.arguments), w) := by
  simp [Host.run, h]

theorem onTree_of_isQuestion {args : List String} (h : IsQuestion args) :
    (w.onTree t.root standing args).2 = w := by
  cases h with
  | branch => rfl
  | revision revision =>
    simp only [resolving, onTree]
    split <;> rfl
  | ancestry => rfl
  | range =>
    simp only [ranging, onTree]
    split <;> rfl

theorem means_eq (h : w.trees t.root = some standing) (revision : String) :
    (repository P).means w t revision = meaning P standing.head revision := by
  show (w.trees t.root).bind _ = _
  rw [h]
  rfl

theorem meaning_mem_commits {head revision c : String} (hhead : head ∈ P.graph.commits)
    (h : meaning P head revision = some c) : c ∈ P.graph.commits := by
  rw [meaning] at h
  split at h
  · cases h
    assumption
  · split at h
    · cases h
      exact hhead
    · cases h

/-- **The workshop answers truthfully**, whatever the graph of the project. -/
theorem repository_answers (P : Project) : (repository P).Answers where
  unmoved {w w' t args outcome} ht hargs h := by
    obtain ⟨standing, hstanding, -⟩ := ht.2.2
    rw [exec_attempt ht hstanding] at h
    obtain rfl : w = w' := (onTree_of_isQuestion hargs).symm.trans (Prod.mk.inj h).2
    exact fun t ht => ⟨ht, fun _ => rfl⟩
  commits {w t revision c} ht h := by
    obtain ⟨standing, hstanding, hhead⟩ := ht.2.2
    rw [means_eq hstanding] at h
    exact meaning_mem_commits hhead h
  revision {w w' t revision output} ht h hstatus := by
    obtain ⟨standing, hstanding, -⟩ := ht.2.2
    rw [exec_attempt ht hstanding] at h
    rw [means_eq hstanding]
    simp only [resolving, onTree, peeled_resolving] at h
    split at h
    · rename_i c hc
      cases h
      exact ⟨c, hc, rfl⟩
    · cases h
      cases hstatus
  ancestry {w w' t a d output} ht _ _ h := by
    obtain ⟨standing, hstanding, -⟩ := ht.2.2
    rw [exec_attempt ht hstanding] at h
    simp only [relating, onTree] at h
    by_cases hancestor : a ∈ P.graph.ancestors d
    · rw [if_pos hancestor] at h
      cases h
      exact ⟨fun _ => hancestor, fun h => by cases h⟩
    · rw [if_neg hancestor] at h
      cases h
      exact ⟨fun h => (by cases h), fun _ => hancestor⟩
  range {w w' t o n output} ht ho hn h _ := by
    obtain ⟨standing, hstanding, -⟩ := ht.2.2
    rw [exec_attempt ht hstanding] at h
    simp only [ranging, onTree, ends_ranging ho hn] at h
    cases h
    rfl

/-- **No command of the workshop fails.** -/
theorem repository_works (P : Project) : (repository P).Works where
  head {w t} ht := by
    obtain ⟨standing, hstanding, -⟩ := ht.2.2
    rw [means_eq hstanding, meaning]
    split
    · exact ⟨_, rfl⟩
    · exact ⟨_, rfl⟩
  fullName {w t c} ht hc := by
    obtain ⟨standing, hstanding, -⟩ := ht.2.2
    exact (means_eq hstanding c).trans (if_pos hc)
  revision {w t revision c} ht h := by
    obtain ⟨standing, hstanding, -⟩ := ht.2.2
    rw [means_eq hstanding] at h
    refine ⟨printed [c], w, ?_, rfl, trivial⟩
    rw [exec_attempt ht hstanding]
    simp only [resolving, onTree, peeled_resolving, h]
  ancestry {w t a d} ht _ _ := by
    obtain ⟨standing, hstanding, -⟩ := ht.2.2
    refine ⟨_, _, exec_attempt ht hstanding _, ?_⟩
    simp only [relating, onTree]
    split
    · exact .inl rfl
    · exact .inr rfl
  range {w t o n} ht ho hn := by
    obtain ⟨standing, hstanding, -⟩ := ht.2.2
    refine ⟨printed (P.graph.range o n), w, ?_, rfl, trivial⟩
    rw [exec_attempt ht hstanding]
    simp only [ranging, onTree, ends_ranging ho hn]
  checkout {w t c} ht hc := by
    obtain ⟨hgit, hlimit, standing, hstanding, -⟩ := id ht
    have hmeaning : meaning P standing.head c = some c := if_pos hc
    refine ⟨printed [], w.put t.root { standing with head := c }, ?_, rfl, ?_, ?_⟩
    · rw [exec_attempt ht hstanding]
      simp only [checkingOut, onTree, hmeaning]
    · exact ⟨hgit, hlimit, _, Function.update_self .., hc⟩
    · exact ⟨_, Function.update_self .., rfl⟩
  clean {w t c} ht hc := by
    obtain ⟨hgit, hlimit, standing, hstanding, hhead⟩ := id ht
    obtain ⟨standing', hstanding', rfl⟩ := hc
    obtain rfl := Option.some.inj (hstanding.symm.trans hstanding')
    refine ⟨printed [], w.put t.root { standing with extra := [] }, ?_, rfl, ?_, ?_, ?_⟩
    · exact exec_attempt ht hstanding cleaning
    · exact ⟨hgit, hlimit, _, Function.update_self .., hhead⟩
    · exact ⟨_, Function.update_self .., rfl⟩
    · exact ⟨_, Function.update_self .., rfl⟩
  stays {w t args} ht hargs := by
    obtain ⟨hgit, hlimit, standing, hstanding, hhead⟩ := id ht
    rw [exec_attempt ht hstanding]
    rcases hargs with rfl | ⟨revision, rfl⟩
    · exact ⟨hgit, hlimit, _, Function.update_self .., hhead⟩
    · simp only [checkingOut, onTree]
      split
      · rename_i c hc
        exact ⟨hgit, hlimit, _, Function.update_self .., meaning_mem_commits hhead hc⟩
      · exact ht
  inTime ht := ht.2.1
  scratch front {w t} ht := by
    obtain ⟨hgit, hlimit, standing, hstanding, hhead⟩ := id ht
    have hadd (dest : String) : t.Succeeds (addingScratch dest) w fun w'' =>
        (repository P).isTree w'' (t.scratch dest) := by
      refine ⟨printed [], w.put dest { head := standing.head }, ?_, rfl, ?_⟩
      · exact exec_attempt ht hstanding (addingScratch dest)
      · exact ⟨hgit, hlimit, _, Function.update_self .., hhead⟩
    exact ⟨s!"/tmp/{front}", w, rfl, hadd _⟩

/-! ## A project with a merge -/

/-- Two commits on `r`, and a merge of them. -/
def diamond : CommitGraph where
  commits := ["r", "a", "b", "m"]
  parents c := if c = "m" then ["a", "b"] else if c = "a" ∨ c = "b" then ["r"] else []
  generation c := if c = "m" then 2 else if c = "a" ∨ c = "b" then 1 else 0
  closed {c p} _ hp := by
    split at hp
    · have hp : p = "a" ∨ p = "b" := by simpa using hp
      rcases hp with rfl | rfl <;> simp
    · split at hp
      · obtain rfl := List.mem_singleton.1 hp
        simp
      · cases hp
  older {c p} hp := by
    split at hp
    · have hp : p = "a" ∨ p = "b" := by simpa using hp
      rcases hp with rfl | rfl <;> simp_all
    · split at hp
      · obtain rfl := List.mem_singleton.1 hp
        simp_all
      · cases hp
  plain c hc := by
    simp only [List.mem_cons, List.not_mem_nil, or_false] at hc
    rcases hc with rfl | rfl | rfl | rfl <;> exact ⟨by simp, by simp⟩

/-- The marker comes in with `a`. -/
def merging : Project where
  graph := diamond
  source c := if c = "a" ∨ c = "m" then ["int x; // marker"] else ["int x;"]

/-- A clone of the project and a tree of the caller's, with a line that is nobody's commit's. -/
def cloned : WorkTree := ⟨"/clone", "git", ⟨60000⟩, .cloned⟩

def borrowed : WorkTree := ⟨"/home/tree", "git", ⟨60000⟩, .borrowed⟩

/-- Two trees stand in it, each on a commit of its own. -/
def workshop : Workshop merging where
  trees dir :=
    if dir = "/clone" then some { head := "m" }
    else if dir = "/home/tree" then some { head := "b", extra := ["// marker"] }
    else none

/-- A configuration by which lines with the marker are counted. -/
def markers : Config where
  detectors := [{
    name := "markers"
    kind := Kind.namedCast
    features := ["marker"]
    options := Table.ofList [("pattern.marker", "marker")] }]

theorem cloned_isTree : (repository merging).isTree workshop cloned :=
  ⟨rfl, by decide, { head := "m" }, rfl, by decide⟩

theorem borrowed_isTree : (repository merging).isTree workshop borrowed :=
  ⟨rfl, by decide, { head := "b", extra := ["// marker"] }, rfl, by decide⟩

theorem mem_ancestors_r {c : String} : c ∈ diamond.ancestors "r" ↔ c = "r" := by
  rw [CommitGraph.mem_ancestors]
  simp [show diamond.parents "r" = [] from rfl]

theorem mem_ancestors_b {c : String} : c ∈ diamond.ancestors "b" ↔ c = "b" ∨ c = "r" := by
  rw [CommitGraph.mem_ancestors]
  simp [show diamond.parents "b" = ["r"] from rfl, mem_ancestors_r]

theorem b_mem_ancestors_m : "b" ∈ diamond.ancestors "m" :=
  CommitGraph.mem_ancestors.2 (.inr ⟨"b", by decide, CommitGraph.self_mem_ancestors⟩)

theorem firstParentLine_m : diamond.firstParentLine "m" = ["m", "a", "r"] := by
  rw [CommitGraph.firstParentLine_of_some (show diamond.firstParent? "m" = some "a" from rfl),
    CommitGraph.firstParentLine_of_some (show diamond.firstParent? "a" = some "r" from rfl),
    CommitGraph.firstParentLine_of_none (show diamond.firstParent? "r" = none from rfl)]

theorem range_b_m : diamond.range "b" "m" = ["a", "m"] := by
  simp [CommitGraph.range, firstParentLine_m, mem_ancestors_b]

end Workshop

end FeatureSurvey
