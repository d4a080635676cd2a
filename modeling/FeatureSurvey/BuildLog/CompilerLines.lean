import FeatureSurvey.BuildLog.Definitions
import FeatureSurvey.Detect.Query
import FeatureSurvey.Text.Lines
import FeatureSurvey.Text.Lowercase
import FeatureSurvey.Text.Search

/-!
# `BuildLog/CompilerLines.lean` — the compiler lines of a build log

Of a build log only the lines count that call the compiler, which is to say those that begin
with its name and a blank. Each of them, with its definitions dropped, falls into one of three
groups.

* **linker**: the line makes the binary. With a name for the binary it has to contain `-o` and
  that name, upper and lower case being the same. Without one, any line with `-o` counts that
  does not compile an object.
* **objects**: a blank is followed by `-c`, and no word character comes right after.
* **others**: the rest.

The group `all` holds every line in the order of the log.
-/

set_option autoImplicit false

namespace FeatureSurvey

structure CompilerLines where
  all : List String := []
  linker : List String := []
  objects : List String := []
  others : List String := []
  deriving DecidableEq, Repr, Inhabited

namespace BuildLog

open Text

/-- What a compiler line begins with. -/
def compilerCall : String := "g++ "

/-- Does the flag that asks for an object stand right here? -/
def startsObjectFlag : List Char → Bool
  | ['-', 'c'] => true
  | '-' :: 'c' :: next :: _ => !isWordChar next
  | _ => false

/-- Does that flag follow a blank somewhere? -/
def hasObjectFlag : List Char → Bool
  | [] => false
  | c :: cs => (c == ' ' && startsObjectFlag cs) || hasObjectFlag cs

def compilesObject (line : String) : Bool :=
  startsWith line compilerCall && hasObjectFlag line.toList

/-- Does the line make the binary of this name, or, without a name, any binary? -/
def linksBinary (binaryName : Option String) (line : String) : Bool :=
  match binaryName with
  | some name => contains (lowercase line) ("-o " ++ lowercase name)
  | none => !compilesObject line && contains (lowercase line) "-o "

/-- The group of a line whose definitions have been dropped. -/
def stageOf (binaryName : Option String) (line : String) : BuildStage :=
  if linksBinary binaryName line then .linker
  else if compilesObject line then .objects
  else .others

end BuildLog

namespace CompilerLines

open BuildLog

/-- The compiler lines of a log, with their definitions dropped. -/
def callsIn (body : String) : List String :=
  ((Text.lines body).filter fun line => Text.startsWith line compilerCall).map stripDefinitions

def classify (body : String) (binaryName : Option String) : CompilerLines :=
  let all := callsIn body
  { all
    linker := all.filter fun line => stageOf binaryName line == .linker
    objects := all.filter fun line => stageOf binaryName line == .objects
    others := all.filter fun line => stageOf binaryName line == .others }

def stage (lines : CompilerLines) : BuildStage → List String
  | .linker => lines.linker
  | .objects => lines.objects
  | .others => lines.others
  | .all => lines.all

end CompilerLines

end FeatureSurvey
