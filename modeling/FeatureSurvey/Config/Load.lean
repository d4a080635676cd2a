import FeatureSurvey.Config.Document
import FeatureSurvey.Host.Job
import FeatureSurvey.Text.Utf8

/-!
# `Config/Load.lean` — configurations in files

A file that has to be text must be UTF-8 throughout. What goes wrong is reported with the path
and with what was being done.
-/

set_option autoImplicit false

namespace FeatureSurvey

variable {W : Type} [Host W]

/-- The text of a file, as far as it is one. -/
def Host.readText (w : W) (path : String) : Except OsError String :=
  match Host.readFile w path with
  | .error e => .error e
  | .ok bytes =>
    match Text.decode? bytes with
    | some text => .ok text
    | none => .error .notText

/-- Read a text file, and say what was being done if that fails. -/
def Task.readText (context path : String) : Task W String :=
  Attempt.askFor fun w => (Host.readText w path).mapError fun e => ⟨[context], .os e⟩

/-- Read the configuration of a file, ready for a run. -/
def Config.load (path : String) : Task W Config := do
  let body ← Task.readText s!"Failed to read probe config at {path}" path
  Task.within s!"Invalid probe config at {path}" (Attempt.ofExcept (Config.ofDocument body))

end FeatureSurvey
