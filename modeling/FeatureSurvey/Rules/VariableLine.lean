import FeatureSurvey.Error
import FeatureSurvey.Text.Blank
import FeatureSurvey.Text.Lines
import FeatureSurvey.Text.Search

/-!
# `Rules/VariableLine.lean` — the line that shows a variable

Asked for a variable, the rules print `NAME = value` among whatever else they print. Exactly one
line has to begin with the name and the equals sign. The whole line is the answer, and flags are
looked for among the words behind its first equals sign.
-/

set_option autoImplicit false

namespace FeatureSurvey.Rules

def variableLine (stdout variableName : String) : Except OutputFault String :=
  match (Text.lines stdout).filter fun line => Text.startsWith line (variableName ++ " =") with
  | [line] => .ok line
  | [] => .error (.noLine variableName)
  | lines => .error (.manyLines lines.length variableName)

/-- Is the flag one of the words of the value? -/
def hasFlag (line flag : String) : Bool :=
  match Text.splitOnce? line '=' with
  | some (_, value) => (Text.words value).contains flag
  | none => false

end FeatureSurvey.Rules
