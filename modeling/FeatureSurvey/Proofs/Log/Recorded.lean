import FeatureSurvey.Detect.Session
import FeatureSurvey.Registry.Builder
import FeatureSurvey.Tool.Run

/-!
# `Proofs/Log/Recorded.lean` — worlds with a log, and what a job adds to it

Which commands a job issues, and in which order, cannot be read off its outcome. It can be read
off a log, and a log needs no second version of the job: jobs run on any host, so they run on a
world that keeps a log, too. `Recorded W` is the world `W` with a log of every step taken in it.
As a host it answers exactly as `W` does.

`Emits` is the judgment of this file. A step emits a relation when, from whatever state it is
started in, it adds events at the end of the log, and these events stand in the relation to what
the step answers. **A log is only ever added to**: that is part of the judgment, so a statement
about the events of a run is a statement about all of them.

The rules follow the way jobs are put together. Each takes the relation wanted of the whole and
asks of the second part what is then left to show, with the events of the first part in front.
-/

set_option autoImplicit false

namespace FeatureSurvey

/-- A step that was taken, and what came of it. -/
inductive Event where
  /-- A command was run; the outcome is the one that `Tool.run` reports. -/
  | ran (command : Command) (outcome : Except SurveyError ToolOutput)
  | wrote (path : String) (outcome : Except OsError Unit)
  | appended (path : String) (outcome : Except OsError Unit)
  | copied (source dest : String) (outcome : Except OsError Unit)
  | madeDirectories (path : String) (outcome : Except OsError Unit)
  | removed (path : String) (outcome : Except OsError Unit)
  | madeTemporary (front : String) (outcome : Except OsError String)
  /-- A line that a parser or a detector adds of its own accord. -/
  | noted (line : String)

structure Recorded (W : Type) where
  world : W
  log : List Event := []

namespace Recorded

variable {W α : Type}

/-- Take a step of the world and log it. -/
def logging (event : W → α → Event) (step : StateM W α) : StateM (Recorded W) α := fun r =>
  ((step r.world).1, ⟨(step r.world).2, r.log ++ [event r.world (step r.world).1]⟩)

theorem logging_eq {event : W → α → Event} {step : StateM W α} {w v : W} {a : α}
    {log : List Event} (h : step w = (a, v)) :
    logging event step ⟨w, log⟩ = (a, ⟨v, log ++ [event w a]⟩) := by
  simp [logging, h]

instance [Host W] : Host (Recorded W) where
  environment? r := Host.environment? r.world
  workingDirectory r := Host.workingDirectory r.world
  entryKind? r := Host.entryKind? r.world
  readFile r := Host.readFile r.world
  listDirectory r := Host.listDirectory r.world
  canonicalPath r := Host.canonicalPath r.world
  uptime r := Host.uptime r.world
  wallClock r := Host.wallClock r.world
  run command timeout :=
    logging (fun w result => .ran command (Tool.judge command timeout (Host.uptime w) result))
      (Host.run command timeout)
  writeFile path bytes := logging (fun _ => .wrote path) (Host.writeFile path bytes)
  appendFile path bytes := logging (fun _ => .appended path) (Host.appendFile path bytes)
  copyFile source dest := logging (fun _ => .copied source dest) (Host.copyFile source dest)
  makeDirectories path := logging (fun _ => .madeDirectories path) (Host.makeDirectories path)
  removeTree path := logging (fun _ => .removed path) (Host.removeTree path)
  makeTemporary front := logging (fun _ => .madeTemporary front) (Host.makeTemporary front)
  temporaryRoot r := Host.temporaryRoot r.world

end Recorded

/-- States that have a log. -/
class Logged (S : Type) where
  log : S → List Event

instance {W : Type} : Logged (Recorded W) := ⟨Recorded.log⟩

instance {W : Type} [Logged W] : Logged (Session W) := ⟨fun s => Logged.log s.world⟩

instance {S : Type} [Logged S] : Logged (Building S) := ⟨fun b => Logged.log b.state⟩

section Emits

variable {ε S α β : Type} [Logged S]

/-- From every state, the step adds events to the log that stand in the relation to its answer. -/
def Emits (step : StateM S α) (Q : α → List Event → Prop) : Prop :=
  ∀ s, ∃ es, Logged.log (step s).2 = Logged.log s ++ es ∧ Q (step s).1 es

/-- The same of a job, whose answer is its outcome. -/
def Attempt.Emits (job : Attempt ε S α) (Q : Except ε α → List Event → Prop) : Prop :=
  FeatureSurvey.Emits job.outcome Q

/-! ## Rules for steps -/

theorem Emits.mono {step : StateM S α} {P Q : α → List Event → Prop} (h : Emits step P)
    (hPQ : ∀ a es, P a es → Q a es) : Emits step Q := by
  intro s
  obtain ⟨es, hlog, hP⟩ := h s
  exact ⟨es, hlog, hPQ _ _ hP⟩

theorem Emits.pure {Q : α → List Event → Prop} {a : α} (h : Q a []) :
    Emits (pure a : StateM S α) Q := fun _ => ⟨[], (List.append_nil _).symm, h⟩

theorem Emits.bind {step : StateM S α} {next : α → StateM S β} {P : α → List Event → Prop}
    {Q : β → List Event → Prop} (h : Emits step P)
    (hnext : ∀ a es, P a es → Emits (next a) fun b es' => Q b (es ++ es')) :
    Emits (step >>= next) Q := by
  intro s
  obtain ⟨es, hlog, hP⟩ := h s
  obtain ⟨es', hlog', hQ⟩ := hnext _ es hP (step s).2
  exact ⟨es ++ es', by rw [← List.append_assoc, ← hlog]; exact hlog', hQ⟩

theorem emits_logging {W : Type} {event : W → α → Event} {step : StateM W α}
    {Q : α → List Event → Prop} (h : ∀ w a, Q a [event w a]) :
    Emits (Recorded.logging event step) Q :=
  fun r => ⟨[event r.world (step r.world).1], rfl, h _ _⟩

/-! ## Rules for jobs -/

namespace Attempt.Emits

variable {job : Attempt ε S α} {P Q : Except ε α → List Event → Prop}

/-- The judgment, read for one state. -/
theorem log (h : job.Emits Q) (s : S) :
    ∃ es, Logged.log (job.exec s).2 = Logged.log s ++ es ∧ Q (job.exec s).1 es := h s

theorem mono (h : job.Emits P) (hPQ : ∀ r es, P r es → Q r es) : job.Emits Q :=
  FeatureSurvey.Emits.mono h hPQ

theorem pure {a : α} (h : Q (.ok a) []) : (Pure.pure a : Attempt ε S α).Emits Q :=
  fun _ => ⟨[], (List.append_nil _).symm, h⟩

theorem fail {e : ε} (h : Q (.error e) []) : (Attempt.fail e : Attempt ε S α).Emits Q :=
  fun _ => ⟨[], (List.append_nil _).symm, h⟩

theorem ofExcept {r : Except ε α} (h : Q r []) : (Attempt.ofExcept r : Attempt ε S α).Emits Q :=
  fun _ => ⟨[], (List.append_nil _).symm, h⟩

theorem ask {question : S → α} (h : ∀ a, Q (.ok a) []) :
    (Attempt.ask question : Attempt ε S α).Emits Q :=
  fun s => ⟨[], (List.append_nil _).symm, h (question s)⟩

theorem always {step : StateM S α} (h : FeatureSurvey.Emits step fun a es => Q (.ok a) es) :
    (Attempt.always step : Attempt ε S α).Emits Q := h

theorem step {onRefusal : OsError → ε} {act : StateM S (Except OsError α)}
    (h : FeatureSurvey.Emits act fun r es => Q (r.mapError onRefusal) es) :
    (Attempt.step onRefusal act).Emits Q := h

/-- The second job is looked at for every outcome of the first, with the first one's events in
front of its own. -/
theorem bind {next : α → Attempt ε S β} {Q : Except ε β → List Event → Prop} (h : job.Emits P)
    (error : ∀ e es, P (.error e) es → Q (.error e) es)
    (hnext : ∀ a es, P (.ok a) es → (next a).Emits fun r es' => Q r (es ++ es')) :
    (job >>= next).Emits Q := by
  intro s
  obtain ⟨es, hlog, hP⟩ := h.log s
  show ∃ es, Logged.log ((job >>= next).exec s).2 = _ ∧ Q ((job >>= next).exec s).1 es
  rcases hjob : job.exec s with ⟨e | a, s'⟩ <;> rw [hjob] at hlog hP
  · rw [exec_bind_error hjob]
    exact ⟨es, hlog, error e es hP⟩
  · rw [exec_bind_ok hjob]
    obtain ⟨es', hlog', hQ⟩ := (hnext a es hP).log s'
    exact ⟨es ++ es', by rw [hlog', hlog, List.append_assoc], hQ⟩

theorem caught [HasFatal ε] {Q : Except ε (Except ε α) → List Event → Prop} (h : job.Emits P)
    (hQ : ∀ r es, P r es → Q (unlessFatal r) es) : job.caught.Emits Q := by
  intro s
  obtain ⟨es, hlog, hP⟩ := h s
  exact ⟨es, hlog, hQ _ _ hP⟩

/-- The last job is looked at for every outcome of the job it stands behind. -/
theorem endedBy [HasFatal ε] {last : Attempt ε S Unit} (h : job.Emits P)
    (hlast : ∀ r es, P r es →
      last.Emits fun c es' => Q ((unlessFatal c).bind fun _ => r) (es ++ es')) :
    (job.endedBy last).Emits Q := by
  intro s
  obtain ⟨es, hlog, hP⟩ := h.log s
  obtain ⟨es', hlog', hQ⟩ := (hlast _ es hP).log (job.exec s).2
  show ∃ es, Logged.log ((job.endedBy last).exec s).2 = _ ∧ Q ((job.endedBy last).exec s).1 es
  rw [exec_endedBy]
  exact ⟨es ++ es', by rw [hlog', hlog, List.append_assoc], hQ⟩

/-- The last step is looked at for every outcome of the job it stands behind. -/
theorem guarded {last : StateM S Unit} (h : job.Emits P)
    (hlast : ∀ r es, P r es → FeatureSurvey.Emits last fun _ es' => Q r (es ++ es')) :
    (job.guarded last).Emits Q := by
  intro s
  obtain ⟨es, hlog, hP⟩ := h s
  obtain ⟨es', hlog', hQ⟩ := hlast _ es hP (job.exec s).2
  exact ⟨es ++ es', by rw [← List.append_assoc, ← hlog]; exact hlog', hQ⟩

end Attempt.Emits

end Emits

/-! ## What the tools add -/

section Tools

variable {W : Type} [Host W]

/-- Running a command adds the command, with the outcome that is reported. -/
theorem Tool.run_emits (command : Command) (timeout : Timeout) :
    (Tool.run command timeout : Job (Recorded W) ToolOutput).Emits fun r es =>
      es = [.ran command r] :=
  fun _ => ⟨_, rfl, rfl⟩

theorem Tool.runChecked_emits (command : Command) (timeout : Timeout) :
    (Tool.runChecked command timeout : Job (Recorded W) String).Emits fun r es =>
      ∃ outcome, es = [.ran command outcome] ∧ r = outcome.bind (Tool.checked command) := by
  refine (Tool.run_emits command timeout).bind ?_ ?_
  · rintro e es rfl
    exact ⟨.error e, rfl, rfl⟩
  · rintro output es rfl
    exact .ofExcept ⟨.ok output, rfl, rfl⟩

theorem removeTree_emits (path : String) :
    Emits (Host.removeTree path : StateM (Recorded W) _) fun r es => es = [.removed path r] :=
  emits_logging fun _ _ => rfl

theorem makeTemporary_emits (front : String) :
    Emits (Host.makeTemporary front : StateM (Recorded W) _) fun r es =>
      es = [.madeTemporary front r] :=
  emits_logging fun _ _ => rfl

end Tools

end FeatureSurvey
