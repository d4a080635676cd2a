import FeatureSurvey.Failure
import FeatureSurvey.Host.Basic

/-!
# `Host/Job.lean` — jobs on a host

A job is a step on a world that may fail. What it did before it failed stays done: the world
comes out of a failed job just as it comes out of a finished one. Two kinds of failure are in
use, so the kind is a parameter: a `Job` fails with an error of the survey, a `Task` with a
failure that carries its circumstances.

Some failures are fatal (`HasFatal`): they end the program, and the only steps still taken are
those that are taken in any case. `caught` hands every other failure to the caller as a value, and
is what a job uses that can do without something; `outcome` makes a value of any failure and is
for those that raise it again.

`guarded` runs a last step behind a job, however the job ends, and `endedBy` runs a last job, of
which nothing but a fatal failure is heard. `through` carries a job to a larger state of which the
world is a part.
-/

set_option autoImplicit false

namespace FeatureSurvey

abbrev Attempt (ε W α : Type) := ExceptT ε (StateM W) α

abbrev Job (W α : Type) := Attempt SurveyError W α

abbrev Task (W α : Type) := Attempt Failure W α

namespace Attempt

variable {ε ε' W S α : Type}

/-- The outcome and the world after it. -/
def exec (job : Attempt ε W α) (w : W) : Except ε α × W := (ExceptT.run job) w

/-- A step that cannot fail. -/
def always (step : StateM W α) : Attempt ε W α := fun w => let (a, w) := step w; (.ok a, w)

/-- A question to the world. -/
def ask (question : W → α) : Attempt ε W α := fun w => (.ok (question w), w)

/-- A question to the world that may have no answer. -/
def askFor (question : W → Except ε α) : Attempt ε W α := fun w => (question w, w)

def ofExcept (r : Except ε α) : Attempt ε W α := fun w => (r, w)

def fail (e : ε) : Attempt ε W α := fun w => (.error e, w)

/-- A step whose refusal by the system is a failure. -/
def step (onRefusal : OsError → ε) (act : StateM W (Except OsError α)) : Attempt ε W α :=
  fun w => let (r, w) := act w; (r.mapError onRefusal, w)

/-- Change the failure. -/
def mapFailure (f : ε → ε') (job : Attempt ε W α) : Attempt ε' W α := fun w =>
  let (r, w) := job.exec w
  (r.mapError f, w)

/-- Run a last step behind the job, however the job ends. -/
def guarded (job : Attempt ε W α) (last : StateM W Unit) : Attempt ε W α := fun w =>
  let (r, w) := job.exec w
  let ((), w) := last w
  (r, w)

/-- The outcome as a value: a job that cannot fail any more. -/
def outcome (job : Attempt ε W α) : StateM W (Except ε α) := fun w => job.exec w

/-- An outcome as a value, unless it is a fatal failure. -/
def unlessFatal [HasFatal ε] : Except ε α → Except ε (Except ε α)
  | .ok a => .ok (.ok a)
  | .error e => if isFatal e then .error e else .ok (.error e)

/-- The outcome as a value, for a caller that can go on without the job. -/
def caught [HasFatal ε] (job : Attempt ε W α) : Attempt ε W (Except ε α) := fun w =>
  let (r, w) := job.exec w
  (unlessFatal r, w)

/-- Run a last job behind the job, however the job ends. That it could not be done is no failure
of the whole. -/
def endedBy [HasFatal ε] (job : Attempt ε W α) (last : Attempt ε W Unit) : Attempt ε W α := do
  let r ← always job.outcome
  let _ ← last.caught
  ofExcept r

/-- Carry a job to a larger state, of which `part` is the world and `put` puts it back. -/
def through (part : S → W) (put : S → W → S) (job : Attempt ε W α) : Attempt ε S α := fun s =>
  let (r, w) := job.exec (part s)
  (r, put s w)

/-! ## Outcomes of composed jobs -/

@[simp] theorem exec_pure (a : α) (w : W) : (pure a : Attempt ε W α).exec w = (.ok a, w) := rfl

@[simp] theorem exec_fail (e : ε) (w : W) : (fail e : Attempt ε W α).exec w = (.error e, w) := rfl

@[simp] theorem exec_throw (e : ε) (w : W) :
    (throw e : Attempt ε W α).exec w = (.error e, w) := rfl

@[simp] theorem exec_ask (q : W → α) (w : W) :
    (ask q : Attempt ε W α).exec w = (.ok (q w), w) := rfl

@[simp] theorem exec_askFor (q : W → Except ε α) (w : W) :
    (askFor q).exec w = (q w, w) := rfl

@[simp] theorem exec_ofExcept (r : Except ε α) (w : W) :
    (ofExcept r : Attempt ε W α).exec w = (r, w) := rfl

@[simp] theorem exec_always (act : StateM W α) (w : W) :
    (always act : Attempt ε W α).exec w = (.ok (act w).1, (act w).2) := rfl

@[simp] theorem exec_step (f : OsError → ε) (act : StateM W (Except OsError α)) (w : W) :
    (step f act).exec w = ((act w).1.mapError f, (act w).2) := rfl

@[simp] theorem exec_mapFailure (f : ε → ε') (job : Attempt ε W α) (w : W) :
    (mapFailure f job).exec w = ((job.exec w).1.mapError f, (job.exec w).2) := rfl

@[simp] theorem exec_guarded (job : Attempt ε W α) (last : StateM W Unit) (w : W) :
    (guarded job last).exec w = ((job.exec w).1, (last (job.exec w).2).2) := rfl

/-- An outcome that is no fatal failure is a value. -/
theorem unlessFatal_eq_ok [HasFatal ε] {r : Except ε α}
    (h : ∀ e, r = .error e → isFatal e = false) : unlessFatal r = .ok r := by
  cases r with
  | ok a => rfl
  | error e => rw [unlessFatal, h e rfl]; rfl

@[simp] theorem exec_caught [HasFatal ε] (job : Attempt ε W α) (w : W) :
    (caught job).exec w = (unlessFatal (job.exec w).1, (job.exec w).2) := rfl

/-- A second job starts in the world that the first one leaves, if the first one succeeds. -/
theorem exec_bind {β : Type} (job : Attempt ε W α) (next : α → Attempt ε W β) (w : W) :
    (job >>= next).exec w =
      match job.exec w with
      | (.ok a, w) => (next a).exec w
      | (.error e, w) => (.error e, w) := by
  show ExceptT.run (job >>= next) w = _
  simp only [ExceptT.run_bind, exec]
  show (StateT.bind (ExceptT.run job) _) w = _
  simp only [StateT.bind]
  show (match ExceptT.run job w with | (a, s) => _) = _
  rcases ExceptT.run job w with ⟨_ | _, _⟩ <;> rfl

theorem exec_bind_ok {β : Type} {job : Attempt ε W α} {next : α → Attempt ε W β} {w w' : W} {a : α}
    (h : job.exec w = (.ok a, w')) : (job >>= next).exec w = (next a).exec w' := by
  rw [exec_bind, h]

theorem exec_bind_error {β : Type} {job : Attempt ε W α} {next : α → Attempt ε W β} {w w' : W}
    {e : ε} (h : job.exec w = (.error e, w')) : (job >>= next).exec w = (.error e, w') := by
  rw [exec_bind, h]

theorem exec_endedBy [HasFatal ε] (job : Attempt ε W α) (last : Attempt ε W Unit) (w : W) :
    (job.endedBy last).exec w =
      ((unlessFatal (last.exec (job.exec w).2).1).bind fun _ => (job.exec w).1,
        (last.exec (job.exec w).2).2) := by
  rcases h : last.exec (job.exec w).2 with ⟨r, w'⟩
  rw [endedBy, exec_bind, exec_always]
  simp only [outcome, exec_bind, exec_caught, h]
  cases unlessFatal r <;> rfl

/-- If the whole succeeded, the job behind which the last one ran did. -/
theorem exec_of_endedBy_ok [HasFatal ε] {job : Attempt ε W α} {last : Attempt ε W Unit} {w : W}
    {a : α} (h : ((job.endedBy last).exec w).1 = .ok a) : (job.exec w).1 = .ok a := by
  rw [exec_endedBy] at h
  rcases hlast : unlessFatal (last.exec (job.exec w).2).1 with e | r <;> rw [hlast] at h
  · cases h
  · exact h

/-- A last job that does not end in a fatal failure has no part in the outcome. -/
theorem exec_endedBy_fst [HasFatal ε] {job : Attempt ε W α} {last : Attempt ε W Unit} {w : W}
    (h : ∀ e, (last.exec (job.exec w).2).1 = .error e → isFatal e = false) :
    ((job.endedBy last).exec w).1 = (job.exec w).1 := by
  rw [exec_endedBy, unlessFatal_eq_ok h]
  rfl

/-- A composed job that succeeded is two jobs that succeeded. -/
theorem exec_bind_eq_ok {β : Type} {job : Attempt ε W α} {next : α → Attempt ε W β} {w w' : W}
    {b : β} (h : (job >>= next).exec w = (.ok b, w')) :
    ∃ a between, job.exec w = (.ok a, between) ∧ (next a).exec between = (.ok b, w') := by
  rw [exec_bind] at h
  rcases hjob : job.exec w with ⟨e | a, between⟩ <;> rw [hjob] at h
  · cases h
  · exact ⟨a, between, rfl, h⟩

end Attempt

/-- A job of the survey as a task. -/
def Job.toTask {W α : Type} (job : Job W α) : Task W α := job.mapFailure Failure.ofSurvey

/-- Say what was being done, should the task fail. -/
def Task.within {W α : Type} (context : String) (task : Task W α) : Task W α :=
  task.mapFailure fun f => f.within context

end FeatureSurvey
