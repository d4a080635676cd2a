import FeatureSurvey.Bisect.Feature
import FeatureSurvey.Proofs.Run.Phases

/-!
# `Proofs/Git/Failing.lean` — what work in a tree may fail with

Most of what can go wrong in a tree is a command that did not succeed or printed something else than
was wanted, and none of that is fatal. What is left is a command whose limit the clock cannot tell.
So the sort of errors is left open, as it is for detectors: it takes in every error that is not
fatal, and what becomes of tools in the worlds that have the invariant.

The search of a tree of our own is put together from such work and from what the detectors do
(`Bisect.Query.search_fails`).
-/

set_option autoImplicit false

namespace FeatureSurvey

variable {W : Type} [Host W] {I : W → Prop} {P : SurveyError → Prop}

namespace WorkTree

theorem isFatal_of_oneLine {command : Command} {stdout : String} {e : SurveyError}
    (h : oneLine command stdout = .error e) : isFatal e = false := by
  unfold oneLine at h
  dsimp only at h
  split at h <;> cases h
  rfl

theorem isFatal_of_date {line : String} {e : SurveyError} (h : ((Date.parse line).mapError
    fun fault => SurveyError.toolOutput "git log" (.badDate line fault)) = .error e) :
    isFatal e = false := by
  cases hdate : Date.parse line <;> rw [hdate] at h <;> cases h
  rfl

variable {t : WorkTree} (h : TakesIn I t.timeout P) (own : ∀ e, isFatal e = false → P e)

section Commands

include h

theorem run_fails (args : List String) : (t.run args : Job W String).Fails I P :=
  Tool.runChecked_fails h _

theorem discard_fails : (t.discard : Job W Unit).Fails I P := by
  unfold discard
  split
  · exact .pure _
  · exact Attempt.Fails.bind (.always (h.lasts.removeTree _)) fun _ => .pure _
  · refine Attempt.Fails.bind (.always (h.lasts.removeTree _)) fun _ => ?_
    exact (Tool.runChecked_fails h _).bind fun _ => .pure _

theorem checkout_fails (commit : String) : (t.checkout commit : Job W Unit).Fails I P :=
  (run_fails h _).bind fun _ => (run_fails h _).bind fun _ => .pure _

end Commands

include h own

theorem runForLine_fails (args : List String) : (t.runForLine args : Job W String).Fails I P :=
  (run_fails h args).bind fun _ => .ofExcept fun e he => own e (isFatal_of_oneLine he)

theorem resolve_fails (revision : String) : (t.resolve revision : Job W String).Fails I P :=
  runForLine_fails h own _

theorem rootCommit_fails (revision : String) :
    (t.rootCommit revision : Job W String).Fails I P := by
  refine (run_fails h _).bind fun stdout => ?_
  split
  · exact .pure _
  · exact .fail (own _ rfl)

theorem commitDate_fails (commit : String) : (t.commitDate commit : Job W Date).Fails I P :=
  (runForLine_fails h own _).bind fun _ => .ofExcept fun e he => own e (isFatal_of_date he)

theorem currentRef_fails : (t.currentRef : Job W String).Fails I P := by
  refine ((run_fails h _).caught.mono fun _ he => he.1).bind ?_
  rintro (e | stdout)
  · exact resolve_fails h own "HEAD"
  · dsimp only
    split
    · exact resolve_fails h own "HEAD"
    · exact .pure _

theorem firstParentRange_fails (old new : String) :
    (t.firstParentRange old new : Job W (List String)).Fails I P := by
  refine (resolve_fails h own old).bind fun o => (resolve_fails h own new).bind fun n => ?_
  have hancestor : (t.isAncestor o n : Job W Bool).Fails I P := by
    refine (Tool.run_fails h _).bind fun output => ?_
    split
    · exact .pure _
    · split
      · exact .pure _
      · exact .fail (own _ rfl)
  refine hancestor.bind fun connected => ?_
  split
  · exact .fail_bind (own _ rfl) _
  · exact (run_fails h _).bind fun _ => .pure _

end WorkTree

namespace Bisect

section Search

variable {S : Type} {I : S → Prop} {history : List String} {oracle : Oracle S}

theorem narrow_fails (h : ∀ commit, (oracle commit).Fails I P) (lo hi evaluations : Nat)
    (within : hi < history.length) :
    (narrow history oracle lo hi evaluations within).Fails I P := by
  induction lo, hi, evaluations, within using narrow.induct with
  | case1 lo hi evaluations within apart mid ihlo ihhi =>
    rw [narrow, dif_pos apart]
    refine (h _).bind fun present => ?_
    cases present with
    | true => exact ihlo
    | false => exact ihhi
  | case2 lo hi evaluations within apart =>
    rw [narrow, dif_neg apart]
    exact .pure _

/-- A search fails with what its questions fail with. -/
theorem findIntroduction_fails (h : ∀ commit, (oracle commit).Fails I P) :
    (findIntroduction history oracle).Fails I P := by
  cases history with
  | nil => exact .pure _
  | cons oldest rest =>
    rw [findIntroduction]
    refine (h _).bind fun present => ?_
    cases present with
    | false => exact .pure _
    | true =>
      by_cases alone : rest.isEmpty
      · simp only [alone, if_true]
        exact .pure _
      · simp only [alone]
        refine (h _).bind fun present => ?_
        cases present with
        | true => exact .pure _
        | false => exact narrow_fails h _ _ _ _

end Search

end Bisect

/-! ## Sessions and searches -/

/-- A session fails with what its job fails with; at its end the copies are removed. -/
theorem Session.run_fails {α : Type} (lasts : Host.Lasts I) {job : Job (Session W) α}
    (h : job.Fails (fun s => I s.world) P) : (Session.run job).Fails I P := by
  intro w hw
  obtain ⟨hkept, herror⟩ := h { world := w } hw
  refine ⟨?_, herror⟩
  rw [Session.exec_run]
  unfold Session.removeCopies
  generalize (job.exec { world := w }).2.memory.copies.values = copies
  generalize (job.exec { world := w }).2.world = v at hkept
  induction copies generalizing v with
  | nil => exact hkept
  | cons copy rest ih => exact ih _ (lasts.removeTree _ _ hkept)

namespace Bisect.Query

variable {q : Query W} (builtIn : q.kinds = BuiltIn.registry)
  (own : ∀ e, isFatal e = false → P e)

include builtIn own

theorem detectIn_fails (h : TakesIn I (.ofSeconds q.config.toolTimeout) P) (dir : String) :
    (q.detectIn dir).Fails I P := by
  have hrun : Attempt.Fails (fun s => I s.world) P
      (Runner.run (BuiltIn.builder q.config (.sourceOnly dir)) [q.feature]) :=
    BuiltIn.run_fails h fun e he => own e (SurveyError.isFatal_of_isConfiguration he)
  unfold detectIn
  rw [builtIn]
  exact (Session.run_fails h.lasts hrun).bind fun _ => .pure _

/-- The search of a tree of our own, whose commands have the limit of the detectors. -/
theorem search_fails {t : WorkTree} (owned : t.isOwned = true)
    (limit : t.timeout = .ofSeconds q.config.toolTimeout) (h : TakesIn I t.timeout P)
    (old new : String) : (q.search t old new).Fails I P := by
  unfold search
  refine Attempt.Fails.bind (.ofExcept fun e he => own e ?_) fun _ => ?_
  · exact SurveyError.isFatal_of_isConfiguration (Resolver.isConfiguration_of_assign he)
  rw [if_pos owned]
  refine (WorkTree.currentRef_fails h own).bind fun ref => ?_
  refine Attempt.Fails.endedBy ?_ ((WorkTree.checkout_fails h ref).mono fun _ he _ => he)
  refine (WorkTree.firstParentRange_fails h own old new).bind fun history => ?_
  exact findIntroduction_fails fun commit => (WorkTree.checkout_fails h commit).bind fun _ =>
    detectIn_fails builtIn own (limit ▸ h) t.root

end Bisect.Query

end FeatureSurvey
