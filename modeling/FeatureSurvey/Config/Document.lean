import FeatureSurvey.Config.Decode
import FeatureSurvey.Config.Legacy
import FeatureSurvey.Config.Validate
import FeatureSurvey.Failure
import FeatureSurvey.Yaml.Reader

/-!
# `Config/Document.lean` — configurations as documents

A configuration document is read, its kinds are brought under their current names, and it is
validated; what comes out is ready for a run.
-/

set_option autoImplicit false

namespace FeatureSurvey

/-- A document without content is the default configuration; `none` if the text is no document
or none of a configuration. -/
def Config.ofYaml? (body : String) : Option Config := do
  Config.ofSource? .yaml (← Yaml.read? body)

def Config.ofDocument (body : String) : Except Failure Config :=
  match Config.ofYaml? body with
  | none => .error ⟨["Failed to parse probe config YAML"], .yaml⟩
  | some config =>
    let config := config.withCurrentKinds
    match config.validate with
    | .ok () => .ok config
    | .error e => .error (.ofSurvey e)

end FeatureSurvey
