import FeatureSurvey.Git.WorkTree
import FeatureSurvey.Proofs.Log.Recorded

/-!
# `Proofs/Git/Log.lean` — what work on a tree leaves in the log

Every command on a working tree starts with `-C` and the tree's directory. There are two sorts of
them. *Questions* look something up, and `IsQuestion` lists the four that are asked. The other sort
changes the tree: a checkout and the cleaning behind it. `CheckoutLog` lists what bringing a tree
to a commit can leave in the log, and with which outcome; **the cleaning is there just when the
checkout ended with status zero**.

Nothing is assumed of `git`: any command may end in any way, or not at all.
-/

set_option autoImplicit false

namespace FeatureSurvey

/-- The command is one on the working tree in a directory. -/
def Command.OnTreeAt (directory : String) (command : Command) : Prop :=
  ∃ args, command.arguments = "-C" :: directory :: args

/-- A command on some working tree. -/
def Event.OnTree : Event → Prop
  | .ran command _ => ∃ directory, command.OnTreeAt directory
  | _ => False

/-- The command ended with status zero, within its limit. -/
def Succeeded (outcome : Except SurveyError ToolOutput) : Prop :=
  ∃ output, outcome = .ok output ∧ output.status = some 0

namespace WorkTree

/-! ## Command lines -/

def askingBranch : List String := ["symbolic-ref", "--short", "-q", "HEAD"]

def resolving (revision : String) : List String :=
  ["rev-parse", "--verify", "--quiet", revision ++ "^\x7bcommit\x7d"]

def relating (ancestor descendant : String) : List String :=
  ["merge-base", "--is-ancestor", ancestor, descendant]

def ranging (old new : String) : List String :=
  ["rev-list", "--first-parent", "--reverse", s!"{old}..{new}"]

def checkingOut (commit : String) : List String := ["checkout", "--quiet", "--force", commit]

def cleaning : List String := ["clean", "-fdxq"]

def addingScratch (dest : String) : List String :=
  ["worktree", "add", "--detach", "--quiet", dest, "HEAD"]

def pruning : List String := ["worktree", "prune"]

/-- The tree that adding a scratch tree makes. -/
def scratch (t : WorkTree) (dest : String) : WorkTree := ⟨dest, t.git, t.timeout, .linked t.root⟩

/-- What a tree is asked, and does not change by. -/
inductive IsQuestion : List String → Prop
  | branch : IsQuestion askingBranch
  | revision (revision : String) : IsQuestion (resolving revision)
  | ancestry (ancestor descendant : String) : IsQuestion (relating ancestor descendant)
  | range (old new : String) : IsQuestion (ranging old new)

/-- The events are questions to the tree. -/
def Asked (t : WorkTree) (es : List Event) : Prop :=
  ∀ e ∈ es, ∃ args outcome, IsQuestion args ∧ e = .ran (t.command args) outcome

theorem Asked.nil {t : WorkTree} : t.Asked [] := fun _ he => absurd he (List.not_mem_nil)

theorem Asked.single {t : WorkTree} {args : List String} {outcome : Except SurveyError ToolOutput}
    (h : IsQuestion args) : t.Asked [.ran (t.command args) outcome] := by
  intro e he
  obtain rfl := List.mem_singleton.1 he
  exact ⟨args, outcome, h, rfl⟩

theorem Asked.append {t : WorkTree} {es es' : List Event} (h : t.Asked es) (h' : t.Asked es') :
    t.Asked (es ++ es') := by
  intro e he
  rcases List.mem_append.1 he with he | he
  · exact h e he
  · exact h' e he

/-- What bringing a tree to a commit leaves in the log. -/
inductive CheckoutLog (t : WorkTree) (commit : String) :
    Except SurveyError Unit → List Event → Prop
  /-- The checkout went wrong, and nothing is cleaned. -/
  | refused {outcome : Except SurveyError ToolOutput} {e : SurveyError} (h : ¬ Succeeded outcome) :
      CheckoutLog t commit (.error e) [.ran (t.command (checkingOut commit)) outcome]
  | uncleaned {first second : Except SurveyError ToolOutput} {e : SurveyError}
      (h : Succeeded first) (h' : ¬ Succeeded second) :
      CheckoutLog t commit (.error e)
        [.ran (t.command (checkingOut commit)) first, .ran (t.command cleaning) second]
  | brought {first second : Except SurveyError ToolOutput}
      (h : Succeeded first) (h' : Succeeded second) :
      CheckoutLog t commit (.ok ())
        [.ran (t.command (checkingOut commit)) first, .ran (t.command cleaning) second]

variable {W : Type} [Host W]

/-! ## Logs -/

/-- A checked command answers just when it succeeded. -/
theorem checked_eq_ok_iff {command : Command} {outcome : Except SurveyError ToolOutput} :
    (∃ stdout, outcome.bind (Tool.checked command) = .ok stdout) ↔ Succeeded outcome := by
  cases outcome with
  | error e => simp [Except.bind, Succeeded]
  | ok output =>
    simp only [Except.bind, Tool.checked, ToolOutput.success, beq_iff_eq, Succeeded]
    by_cases h : output.status = some 0 <;> simp [h]

theorem succeeded_of_ok {command : Command} {outcome : Except SurveyError ToolOutput}
    {stdout : String} (h : .ok stdout = outcome.bind (Tool.checked command)) :
    Succeeded outcome :=
  checked_eq_ok_iff.1 ⟨stdout, h.symm⟩

theorem not_succeeded_of_error {command : Command} {outcome : Except SurveyError ToolOutput}
    {e : SurveyError} (h : .error e = outcome.bind (Tool.checked command)) :
    ¬ Succeeded outcome := by
  intro hs
  obtain ⟨_, hok⟩ := checked_eq_ok_iff.2 hs
  cases h.trans hok

theorem run_emits (t : WorkTree) (args : List String) :
    (t.run args : Job (Recorded W) String).Emits fun r es =>
      ∃ outcome, es = [.ran (t.command args) outcome] ∧
        r = outcome.bind (Tool.checked (t.command args)) :=
  Tool.runChecked_emits _ _

theorem run_asked (t : WorkTree) {args : List String} (h : IsQuestion args) :
    (t.run args : Job (Recorded W) String).Emits fun _ es => t.Asked es := by
  refine (t.run_emits args).mono ?_
  rintro r es ⟨outcome, rfl, -⟩
  exact .single h

/-- The commit that an answered `rev-parse` names. -/
def named (t : WorkTree) (revision : String) (outcome : Except SurveyError ToolOutput) :
    Except SurveyError String :=
  (outcome.bind (Tool.checked (t.command (resolving revision)))).bind
    (oneLine (t.command (resolving revision)))

theorem resolve_emits (t : WorkTree) (revision : String) :
    (t.resolve revision : Job (Recorded W) String).Emits fun r es =>
      ∃ outcome, es = [.ran (t.command (resolving revision)) outcome] ∧
        r = t.named revision outcome := by
  refine (t.run_emits (resolving revision)).bind ?_ ?_
  · rintro e es ⟨outcome, rfl, h⟩
    exact ⟨outcome, rfl, by rw [named, ← h]; rfl⟩
  · rintro stdout es ⟨outcome, rfl, h⟩
    exact .ofExcept ⟨outcome, rfl, by rw [named, ← h]; rfl⟩

theorem resolve_asked (t : WorkTree) (revision : String) :
    (t.resolve revision : Job (Recorded W) String).Emits fun _ es => t.Asked es := by
  refine (t.resolve_emits revision).mono ?_
  rintro r es ⟨outcome, rfl, -⟩
  exact .single (.revision revision)

theorem currentRef_asked (t : WorkTree) :
    (t.currentRef : Job (Recorded W) String).Emits fun _ es => t.Asked es := by
  have head (es : List Event) (h : t.Asked es) :
      (t.headCommit : Job (Recorded W) String).Emits fun _ es' => t.Asked (es ++ es') :=
    (t.resolve_asked "HEAD").mono fun _ _ h' => h.append h'
  refine (Attempt.Emits.caught (Q := fun _ es => t.Asked es) (t.run_asked .branch)
    fun _ _ h => h).bind (fun _ _ h => h) ?_
  rintro (e | stdout) es h
  · -- on no branch, the commit is asked for
    exact head es h
  · by_cases hblank : Text.isBlankText stdout
    · simp only [hblank, if_true]
      exact head es h
    · simp only [hblank]
      exact .pure (by simpa using h)

theorem isAncestor_asked (t : WorkTree) (ancestor descendant : String) :
    (t.isAncestor ancestor descendant : Job (Recorded W) Bool).Emits fun _ es => t.Asked es := by
  refine (Tool.run_emits _ _).bind ?_ ?_
  · rintro e es rfl
    exact .single (.ancestry ancestor descendant)
  · rintro output es rfl
    have h : t.Asked ([.ran (t.command (relating ancestor descendant)) (.ok output)] ++ []) :=
      Asked.single (.ancestry ancestor descendant)
    split
    · exact .pure h
    · split
      · exact .pure h
      · exact .fail h

theorem firstParentRange_asked (t : WorkTree) (old new : String) :
    (t.firstParentRange old new : Job (Recorded W) (List String)).Emits fun _ es => t.Asked es := by
  refine (t.resolve_asked old).bind (fun _ _ h => h) fun o es₁ h₁ => ?_
  refine (t.resolve_asked new).bind (fun _ _ h => h₁.append h) fun n es₂ h₂ => ?_
  refine (t.isAncestor_asked o n).bind (fun _ _ h => h₁.append (h₂.append h)) fun b es₃ h₃ => ?_
  have sofar (es : List Event) (h : t.Asked es) : t.Asked (es₁ ++ (es₂ ++ (es₃ ++ es))) :=
    h₁.append (h₂.append (h₃.append h))
  cases b with
  | false =>
    -- the range is refused, and no command follows
    exact .fail (sofar [] .nil)
  | true =>
    refine (t.run_asked (.range o n)).bind (fun _ es h => sofar es h) fun stdout es₄ h₄ => ?_
    exact .pure (sofar (es₄ ++ []) (h₄.append .nil))

theorem checkout_emits (t : WorkTree) (commit : String) :
    (t.checkout commit : Job (Recorded W) Unit).Emits (CheckoutLog t commit) := by
  refine (t.run_emits (checkingOut commit)).bind ?_ ?_
  · rintro e es ⟨first, rfl, h⟩
    exact .refused (not_succeeded_of_error h)
  · rintro stdout es ⟨first, rfl, h⟩
    have hfirst := succeeded_of_ok h
    refine (t.run_emits cleaning).bind ?_ ?_
    · rintro e es ⟨second, rfl, h'⟩
      exact .uncleaned hfirst (not_succeeded_of_error h')
    · rintro stdout' es ⟨second, rfl, h'⟩
      exact .pure (.brought hfirst (succeeded_of_ok h'))

end WorkTree

end FeatureSurvey
