/-!
# `Detect/Query.lean` — what detectors ask, and of what

A detector does not read an artifact itself: it asks a parser, either for the compiler lines of
one stage of a build or for the value of a variable. The parser answers with lines or with one
value; a detector that gets the other of the two cannot use it.
-/

set_option autoImplicit false

namespace FeatureSurvey

/-- One of the artifacts a run may be given. -/
inductive Artifact where
  | binaryPath | sourceDir | buildLog
  deriving DecidableEq, Repr

def Artifact.label : Artifact → String
  | .binaryPath => "binary path"
  | .sourceDir => "source directory"
  | .buildLog => "build log"

/-- The groups of compiler lines in a build log. -/
inductive BuildStage where
  | linker | objects | others | all
  deriving DecidableEq, Repr

namespace BuildStage

def name : BuildStage → String
  | .linker => "linker"
  | .objects => "objects"
  | .others => "others"
  | .all => "all"

def ofName? (s : String) : Option BuildStage :=
  [BuildStage.linker, .objects, .others, .all].find? fun stage => stage.name == s

end BuildStage

inductive Selector where
  | stage (stage : BuildStage)
  | variable (name : String)
  deriving DecidableEq, Repr

def Selector.label : Selector → String
  | .stage asked => s!"stage={asked.name}"
  | .variable name => s!"variable={name}"

inductive ParseOutput where
  | lines (lines : List String)
  | value (value : String)
  deriving DecidableEq, Repr

end FeatureSurvey
