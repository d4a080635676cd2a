import FeatureSurvey.Host.Basic

/-!
# `Host/Journal.lean` — a world with a journal

A journaled world is a world and a list of lines, to which whoever acts in the world may add. As a
host it is the world itself: its operations neither read the journal nor change it.
-/

set_option autoImplicit false

namespace FeatureSurvey

structure Journaled (W : Type) where
  world : W
  journal : List String := []

namespace Journaled

variable {W α : Type}

def note (j : Journaled W) (line : String) : Journaled W :=
  { j with journal := j.journal ++ [line] }

/-- A step of the world. -/
def onWorld (step : StateM W α) : StateM (Journaled W) α := fun j =>
  let (a, world) := step j.world
  (a, { j with world })

instance [Host W] : Host (Journaled W) where
  environment? j := Host.environment? j.world
  workingDirectory j := Host.workingDirectory j.world
  entryKind? j := Host.entryKind? j.world
  readFile j := Host.readFile j.world
  listDirectory j := Host.listDirectory j.world
  canonicalPath j := Host.canonicalPath j.world
  uptime j := Host.uptime j.world
  wallClock j := Host.wallClock j.world
  run command timeout := onWorld (Host.run command timeout)
  writeFile path bytes := onWorld (Host.writeFile path bytes)
  appendFile path bytes := onWorld (Host.appendFile path bytes)
  copyFile source dest := onWorld (Host.copyFile source dest)
  makeDirectories path := onWorld (Host.makeDirectories path)
  removeTree path := onWorld (Host.removeTree path)
  makeTemporary front := onWorld (Host.makeTemporary front)
  temporaryRoot j := Host.temporaryRoot j.world

end Journaled

end FeatureSurvey
