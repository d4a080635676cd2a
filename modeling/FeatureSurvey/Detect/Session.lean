import FeatureSurvey.BuildLog.CompilerLines
import FeatureSurvey.Data.Table
import FeatureSurvey.Host.Job

/-!
# `Detect/Session.lean` — what one run remembers

During a run a build log is read once, a rules file is copied once, and the audit of a binary is
run until it has given one report. What comes of it is kept in the run's memory, under the name
of the parser or detector it belongs to, and is gone when the run is over; the copies are then
removed.

A session is a world together with such a memory. `Session.onWorld` carries a job on the world to
the session.
-/

set_option autoImplicit false

namespace FeatureSurvey

/-- A copy of a rules file in a directory of its own. -/
structure RulesCopy where
  directory : String
  makefile : String
  deriving DecidableEq, Repr

structure Memory where
  /-- The compiler lines of each build log that was read. -/
  logs : Table CompilerLines := ∅
  copies : Table RulesCopy := ∅
  reports : Table (Table String) := ∅
  /-- How often each detector has started the audit. -/
  audits : Table Nat := ∅

structure Session (W : Type) where
  world : W
  memory : Memory := {}

namespace Session

variable {W α : Type}

/-- Carry a job on the world to the session. -/
def onWorld (job : Job W α) : Job (Session W) α :=
  job.through (fun s => s.world) fun s w => { s with world := w }

def remember (f : Memory → Memory) : Job (Session W) Unit :=
  Attempt.always fun s => ((), { s with memory := f s.memory })

/-- Remove what the memory holds in directories of its own. -/
def removeCopies [Host W] (memory : Memory) (w : W) : W :=
  memory.copies.values.foldl (fun w copy => (Host.removeTree copy.directory w).2) w

/-- Run a job in a session of its own. -/
def run [Host W] (job : Job (Session W) α) : Job W α := fun w =>
  let (r, s) := job.exec { world := w }
  (r, removeCopies s.memory s.world)

theorem exec_onWorld (job : Job W α) (s : Session W) :
    (onWorld job).exec s =
      ((job.exec s.world).1, { s with world := (job.exec s.world).2 }) := rfl

theorem exec_run [Host W] (job : Job (Session W) α) (w : W) :
    (run job).exec w =
      ((job.exec { world := w }).1,
        removeCopies (job.exec { world := w }).2.memory (job.exec { world := w }).2.world) := rfl

end Session

end FeatureSurvey
