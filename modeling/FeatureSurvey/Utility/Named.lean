import FeatureSurvey.Utility.Files
import FeatureSurvey.Utility.Grep
import FeatureSurvey.Utility.Printing
import FeatureSurvey.Utility.Sed
import FeatureSurvey.Utility.Text

/-!
# `Utility/Named.lean` — utilities by their names

The utilities that need nothing but their call. `find`, `sleep`, `env` and the shell itself run
other commands or let time go by, so they are steps of `Shell/Eval.lean`.
-/

set_option autoImplicit false

namespace FeatureSurvey.Utility

/-- The utilities with their names. -/
def all : List (String × (Call → Reply)) :=
  [("cat", cat), ("cp", cp), ("cut", cut), ("echo", echo), ("false", fun c => c.reply "" 1),
    ("grep", grep), ("head", head), ("mkdir", mkdir), ("printf", printf), ("rm", rm),
    ("sed", sed), ("seq", seq), ("tail", tail), ("test", test), ("[", bracket),
    ("touch", touch), ("true", fun c => c.reply "")]

def named? (name : String) : Option (Call → Reply) := all.lookup name

/-- The names of all programs of the system. -/
def programs : List String := all.map (·.1) ++ ["env", "find", "sh", "sleep"]

end FeatureSurvey.Utility
