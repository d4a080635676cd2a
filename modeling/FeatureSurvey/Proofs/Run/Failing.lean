import FeatureSurvey.Detect.Session

/-!
# `Proofs/Run/Failing.lean` — what a job may fail with

`Attempt.Fails` is a judgment on jobs: wherever the job starts, if it fails, then with an error of a
given sort. Where it may start is an invariant of the state, which the job keeps. Both are left
open, and there is a rule for each way of putting jobs together.

A caller that catches a failure passes on the fatal ones only. So a job that is caught, or runs as
the last step behind another one, fails with what the sort has of these (`Attempt.Fails.caught`,
`Attempt.Fails.endedBy`).
-/

set_option autoImplicit false

namespace FeatureSurvey

/-- The job keeps the invariant, and if it fails, then with an error of this sort. -/
def Attempt.Fails {ε S α : Type} (I : S → Prop) (P : ε → Prop) (job : Attempt ε S α) : Prop :=
  ∀ s, I s → I (job.exec s).2 ∧ ∀ e, (job.exec s).1 = .error e → P e

namespace Attempt.Fails

variable {ε S W α β : Type} {I : S → Prop} {P : ε → Prop} {job : Attempt ε S α}

/-- Whatever is done, it is done in some world and fails with some error. -/
theorem trivial : job.Fails (fun _ => True) fun _ => True :=
  fun _ _ => ⟨True.intro, fun _ _ => True.intro⟩

theorem pure (a : α) : (Pure.pure a : Attempt ε S α).Fails I P :=
  fun _ hs => ⟨hs, fun _ he => by cases he⟩

theorem fail {e : ε} (h : P e) : (Attempt.fail e : Attempt ε S α).Fails I P := by
  intro s hs
  refine ⟨hs, fun e' he => ?_⟩
  cases he
  exact h

theorem ofExcept {r : Except ε α} (h : ∀ e, r = .error e → P e) :
    (Attempt.ofExcept r : Attempt ε S α).Fails I P := fun _ hs => ⟨hs, h⟩

theorem ask (question : S → α) : (Attempt.ask question : Attempt ε S α).Fails I P :=
  fun _ hs => ⟨hs, fun _ he => by cases he⟩

theorem always {act : StateM S α} (h : ∀ s, I s → I (act s).2) :
    (Attempt.always act : Attempt ε S α).Fails I P :=
  fun s hs => ⟨h s hs, fun _ he => by cases he⟩

theorem step {onRefusal : OsError → ε} {act : StateM S (Except OsError α)}
    (hact : ∀ s, I s → I (act s).2) (h : ∀ cause, P (onRefusal cause)) :
    (Attempt.step onRefusal act).Fails I P := by
  intro s hs
  refine ⟨hact s hs, fun e he => ?_⟩
  rw [exec_step] at he
  cases hres : (act s).1 with
  | error cause =>
    rw [hres] at he
    cases he
    exact h cause
  | ok a =>
    rw [hres] at he
    cases he

theorem bind {next : α → Attempt ε S β} (h : job.Fails I P) (hnext : ∀ a, (next a).Fails I P) :
    (job >>= next).Fails I P := by
  intro s hs
  obtain ⟨hkept, herror⟩ := h s hs
  rcases hjob : job.exec s with ⟨e | a, s'⟩ <;> rw [hjob] at hkept herror
  · rw [exec_bind_error hjob]
    refine ⟨hkept, fun e' he => ?_⟩
    cases he
    exact herror e rfl
  · rw [exec_bind_ok hjob]
    exact hnext a s' hkept

/-- Nothing comes behind a failure. -/
theorem fail_bind {e : ε} (h : P e) (next : α → Attempt ε S β) :
    ((Attempt.fail e : Attempt ε S α) >>= next).Fails I P := by
  intro s hs
  rw [exec_bind_error (exec_fail e s)]
  exact fail (α := β) h s hs

/-- A job whose failure is looked at before anything else is done about it. -/
theorem outcome_bind {next : Except ε α → Attempt ε S β} (h : job.Fails I P)
    (ok : ∀ a, (next (.ok a)).Fails I P) (error : ∀ e, P e → (next (.error e)).Fails I P) :
    (Attempt.always job.outcome >>= next).Fails I P := by
  intro s hs
  obtain ⟨hkept, herror⟩ := h s hs
  rw [exec_bind_ok (exec_always job.outcome s)]
  show I ((next (job.exec s).1).exec (job.exec s).2).2 ∧ _
  cases hjob : (job.exec s).1 with
  | error cause => exact hjob ▸ error cause (herror cause hjob) _ hkept
  | ok a => exact hjob ▸ ok a _ hkept

theorem onWorld {I : W → Prop} {P : SurveyError → Prop} {job : Job W α}
    (h : Attempt.Fails I P job) :
    Attempt.Fails (fun s : Session W => I s.world) P (Session.onWorld job) :=
  fun s hs => h s.world hs

theorem mono {P' : ε → Prop} (h : job.Fails I P) (hP : ∀ e, P e → P' e) : job.Fails I P' :=
  fun s hs => ⟨(h s hs).1, fun e he => hP e ((h s hs).2 e he)⟩

/-- A job that is caught fails with nothing but what is fatal. -/
theorem caught [HasFatal ε] (h : job.Fails I P) :
    job.caught.Fails I fun e => P e ∧ isFatal e = true := by
  intro s hs
  obtain ⟨hkept, herror⟩ := h s hs
  rw [exec_caught]
  refine ⟨hkept, fun e he => ?_⟩
  rcases hjob : (job.exec s).1 with cause | a <;> rw [hjob, unlessFatal] at he
  · split at he <;> cases he
    rename_i hfatal
    exact ⟨herror _ hjob, hfatal⟩
  · cases he

/-- Behind a job, a last one adds no failure but a fatal one. -/
theorem endedBy [HasFatal ε] {last : Attempt ε S Unit} (h : job.Fails I P)
    (hlast : last.Fails I fun e => isFatal e = true → P e) : (job.endedBy last).Fails I P := by
  intro s hs
  obtain ⟨hkept, herror⟩ := h s hs
  obtain ⟨hkept', herror'⟩ := hlast.caught _ hkept
  rw [exec_endedBy]
  refine ⟨hkept', fun e he => ?_⟩
  rw [exec_caught] at herror'
  rcases hcaught : unlessFatal (last.exec (job.exec s).2).1 with cause | r <;> rw [hcaught] at he
  · cases he
    obtain ⟨hP, hfatal⟩ := herror' _ hcaught
    exact hP hfatal
  · exact herror e he

end Attempt.Fails

end FeatureSurvey
