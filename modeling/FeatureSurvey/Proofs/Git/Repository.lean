import FeatureSurvey.Host.Path
import FeatureSurvey.Proofs.Git.CommitGraph
import FeatureSurvey.Proofs.Git.Log

/-!
# `Proofs/Git/Repository.lean` — what the manual says

A `Repository` is a way to read a world: which working trees there are, which commit a revision
means in each of them, which commit a tree stands at, and whether there is anything in it besides
the commit. All of that is about one graph of commits, which stays as it is.

`Answers` is what the manual of `git` says about three questions. A revision is answered with the
commit that it means; a question about ancestry ends with status zero or one, and these are yes and
no; and a range is answered with the commits on the line of the newer end that the older end cannot
reach. Nothing is said of a question that fails.

`Works` is for those who need more than that: no command fails, as long as what it is given is
there. A world that has both is built in `Proofs/Git/Workshop.lean`.
-/

set_option autoImplicit false

namespace FeatureSurvey

open Text (onLines)
open WorkTree (checkingOut cleaning)

structure Repository (W : Type) where
  graph : CommitGraph
  /-- The tree is there, and it is one of this repository. -/
  isTree : W → WorkTree → Prop
  /-- The commit that a revision means in a tree. -/
  means : W → WorkTree → String → Option String
  /-- The files that are kept track of in a tree are those of a commit. -/
  standsAt : W → WorkTree → String → Prop
  /-- There are no other files in the tree. -/
  isClean : W → WorkTree → Prop

namespace WorkTree

variable {W : Type} [Host W]

/-- Run a command on the tree, whatever its status. -/
def attempt (t : WorkTree) (args : List String) : Job W ToolOutput :=
  Tool.run (t.command args) t.timeout

/-- The command ends with status zero, in a world with a property. -/
def Succeeds (t : WorkTree) (args : List String) (w : W) (Q : W → Prop) : Prop :=
  ∃ output w', (t.attempt args).exec w = (.ok output, w') ∧ output.status = some 0 ∧ Q w'

theorem exec_run (t : WorkTree) (args : List String) (w : W) :
    (t.run args).exec w =
      (((t.attempt args).exec w).1.bind (Tool.checked (t.command args)),
        ((t.attempt args).exec w).2) := by
  rw [run, Tool.runChecked, Attempt.exec_bind, attempt]
  rcases (Tool.run (t.command args) t.timeout : Job W ToolOutput).exec w with ⟨e | output, w'⟩ <;>
    rfl

/-- A command that answers has ended with status zero. -/
theorem run_eq_ok {t : WorkTree} {args : List String} {w w' : W} {stdout : String}
    (h : (t.run args).exec w = (.ok stdout, w')) :
    ∃ output, (t.attempt args).exec w = (.ok output, w') ∧ output.status = some 0 ∧
      output.stdout = stdout := by
  rw [exec_run] at h
  obtain ⟨hok, rfl⟩ := Prod.mk.inj h
  rcases hrun : (t.attempt args).exec w with ⟨e | output, w'⟩ <;> rw [hrun] at hok
  · cases hok
  · refine ⟨output, rfl, ?_⟩
    simp only [Except.bind, Tool.checked, ToolOutput.success, beq_iff_eq] at hok
    split at hok
    · rename_i hstatus
      exact ⟨hstatus, Except.ok.inj hok⟩
    · cases hok

theorem run_of_attempt {t : WorkTree} {args : List String} {w w' : W} {output : ToolOutput}
    (h : (t.attempt args).exec w = (.ok output, w')) (hstatus : output.status = some 0) :
    (t.run args).exec w = (.ok output.stdout, w') := by
  rw [exec_run, h]
  simp [Except.bind, Tool.checked, ToolOutput.success, hstatus]

/-- Where the clock can tell the limit of a tree, no command on it ends fatally. -/
theorem isFatal_of_run {t : WorkTree} {args : List String} {w : W} {e : SurveyError}
    (hlimit : (t.timeout.deadline? (Host.uptime w)).isSome = true)
    (h : ((t.run args).exec w).1 = .error e) : isFatal e = false := by
  rw [exec_run] at h
  rcases hattempt : ((t.attempt args).exec w).1 with e' | output <;> rw [hattempt] at h
  · cases h
    exact Tool.isFatal_of_judge hlimit hattempt
  · exact Tool.isFatal_of_checked h

end WorkTree

namespace Repository

variable {W : Type} (R : Repository W)

/-- The trees stay, and their revisions mean what they meant. -/
def Unmoved (w w' : W) : Prop :=
  ∀ t, R.isTree w t → R.isTree w' t ∧ ∀ revision, R.means w' t revision = R.means w t revision

/-- What the manual says of the questions, if they are answered. -/
structure Answers [Host W] : Prop where
  /-- Asking changes nothing. -/
  unmoved : ∀ {w w' : W} {t : WorkTree} {args : List String}
    {outcome : Except SurveyError ToolOutput}, R.isTree w t → WorkTree.IsQuestion args →
    (t.attempt args).exec w = (outcome, w') → R.Unmoved w w'
  commits : ∀ {w : W} {t : WorkTree} {revision c : String}, R.isTree w t →
    R.means w t revision = some c → c ∈ R.graph.commits
  revision : ∀ {w w' : W} {t : WorkTree} {revision : String} {output : ToolOutput}, R.isTree w t →
    (t.attempt (WorkTree.resolving revision)).exec w = (.ok output, w') →
    output.status = some 0 → ∃ c, R.means w t revision = some c ∧ output.stdout = onLines [c]
  ancestry : ∀ {w w' : W} {t : WorkTree} {a d : String} {output : ToolOutput}, R.isTree w t →
    a ∈ R.graph.commits → d ∈ R.graph.commits →
    (t.attempt (WorkTree.relating a d)).exec w = (.ok output, w') →
    (output.status = some 0 → a ∈ R.graph.ancestors d) ∧
      (output.status = some 1 → a ∉ R.graph.ancestors d)
  range : ∀ {w w' : W} {t : WorkTree} {o n : String} {output : ToolOutput}, R.isTree w t →
    o ∈ R.graph.commits → n ∈ R.graph.commits →
    (t.attempt (WorkTree.ranging o n)).exec w = (.ok output, w') →
    output.status = some 0 → output.stdout = onLines (R.graph.range o n)

/-- No command fails: what the manual says of work on trees that have a commit to stand on. -/
structure Works [Host W] : Prop where
  head : ∀ {w : W} {t : WorkTree}, R.isTree w t → ∃ c, R.means w t "HEAD" = some c
  /-- A full name means what it names. -/
  fullName : ∀ {w : W} {t : WorkTree} {c : String}, R.isTree w t → c ∈ R.graph.commits →
    R.means w t c = some c
  revision : ∀ {w : W} {t : WorkTree} {revision c : String}, R.isTree w t →
    R.means w t revision = some c → t.Succeeds (WorkTree.resolving revision) w fun _ => True
  /-- A question about ancestry is answered with yes or no. -/
  ancestry : ∀ {w : W} {t : WorkTree} {a d : String}, R.isTree w t → a ∈ R.graph.commits →
    d ∈ R.graph.commits →
    ∃ output w', (t.attempt (WorkTree.relating a d)).exec w = (.ok output, w') ∧
      (output.status = some 0 ∨ output.status = some 1)
  range : ∀ {w : W} {t : WorkTree} {o n : String}, R.isTree w t → o ∈ R.graph.commits →
    n ∈ R.graph.commits → t.Succeeds (WorkTree.ranging o n) w fun _ => True
  checkout : ∀ {w : W} {t : WorkTree} {c : String}, R.isTree w t → c ∈ R.graph.commits →
    t.Succeeds (WorkTree.checkingOut c) w fun w' => R.isTree w' t ∧ R.standsAt w' t c
  clean : ∀ {w : W} {t : WorkTree} {c : String}, R.isTree w t → R.standsAt w t c →
    t.Succeeds WorkTree.cleaning w fun w' =>
      R.isTree w' t ∧ R.standsAt w' t c ∧ R.isClean w' t
  /-- Whatever it is brought to, and whether that works or not, a tree is still there. -/
  stays : ∀ {w : W} {t : WorkTree} {args : List String}, R.isTree w t →
    (args = cleaning ∨ ∃ revision, args = checkingOut revision) →
    R.isTree ((t.attempt args).exec w).2 t
  /-- Removing a scratch tree is a matter of moments. -/
  inTime : ∀ {w : W} {t : WorkTree} {dest : String}, R.isTree w (t.scratch dest) →
    (t.timeout.deadline? (Host.uptime (Host.removeTree dest w).2)).isSome = true
  /-- There is room for a directory, and for a scratch tree in it. -/
  scratch : ∀ (front : String) {w : W} {t : WorkTree}, R.isTree w t →
    ∃ directory w', Host.makeTemporary front w = (.ok directory, w') ∧
      t.Succeeds (WorkTree.addingScratch (Path.join directory "tree")) w' fun w'' =>
        R.isTree w'' (t.scratch (Path.join directory "tree"))

variable {R} {w w' : W} {t : WorkTree}

theorem Unmoved.trans {w'' : W} (h : R.Unmoved w w') (h' : R.Unmoved w' w'') :
    R.Unmoved w w'' := by
  intro t ht
  obtain ⟨ht', hmeans⟩ := h t ht
  obtain ⟨ht'', hmeans'⟩ := h' t ht'
  exact ⟨ht'', fun revision => (hmeans' revision).trans (hmeans revision)⟩

/-- Where a tree is there, the clock can tell the limit of its commands: some of them work. -/
theorem Works.deadline [Host W] (hW : R.Works) (ht : R.isTree w t) :
    (t.timeout.deadline? (Host.uptime w)).isSome = true := by
  obtain ⟨c, hc⟩ := hW.head ht
  obtain ⟨output, w', hattempt, -⟩ := hW.revision ht hc
  exact Tool.deadline_of_judge (congrArg Prod.fst hattempt)

end Repository

end FeatureSurvey
