import FeatureSurvey.CommandLine.Program
import FeatureSurvey.Sandbox.Host
import FeatureSurvey.Text.Integer

/-!
# `Main.lean` — the program in a sandbox of its own

The program is run in a sandbox world that holds the files its arguments name, at the same paths,
and the environment's choice of tools. It is a closed world: nothing it runs reaches out of it, and
what the arguments do not name is not there. Afterwards the result file, if one was written, is
brought out again.

The world begins at the moment that `SOURCE_DATE_EPOCH` tells, in seconds since 1970.
-/

set_option autoImplicit false

namespace FeatureSurvey.Main

open Sandbox

/-- The paths that words may name: each word, and what stands behind an equals sign in it. -/
def namedPaths (words : List String) : List String :=
  words.flatMap fun word =>
    match Text.splitOnce? word '=' with
    | some (_, value) => [word, value]
    | none => [word]

/-- The environment variables that choose tools and places. -/
def knownVariables : List String :=
  ["GIT_BIN", "GREP_BIN", "MAKE_BIN", "HARDENING_CHECK_BIN", "TMPDIR"]

def addVariables (w : World) (values : List (String × Option String)) : World :=
  values.foldl (fun w (name, value) =>
    match value with
    | some value => w.setVariable name value
    | none => w) w

/-- Put a file where its path leads, with the directories above it. -/
def addFile (w : World) (path : String) (bytes : ByteArray) : World :=
  let written := do
    let tree ← w.tree.makeDirectories w.here ((Path.parent? path).getD ".")
    tree.write w.here path bytes
  match written with
  | .ok tree => { w with tree }
  | .error _ => w

def place (path : String) : Place := (Path.pieces path).filter Path.isTelling

/-- The path of the result file, if the words ask for one. -/
def resultPath? (words : List String) : Option String :=
  match CommandLine.parse words with
  | .ok (.batch arguments) => some arguments.out
  | _ => none

/-- A file, unless it cannot be read. -/
def readFile? (path : String) : IO (Option ByteArray) := do
  try return some (← IO.FS.readBinFile path)
  catch _ => return none

/-- The world in which the words are meant. -/
def loadWorld (words : List String) : IO World := do
  let here := (← IO.currentDir).toString
  let began := match ← IO.getEnv "SOURCE_DATE_EPOCH" with
    | some text => (Text.parseInteger text).toOption.getD 0
    | none => 0
  let values ← knownVariables.mapM fun name => do return (name, ← IO.getEnv name)
  let mut w := addVariables (World.fresh (place here) began) values
  for path in namedPaths words do
    if let some bytes ← readFile? path then w := addFile w path bytes
  return w

end FeatureSurvey.Main

open FeatureSurvey in
def main (words : List String) : IO UInt32 := do
  let before ← Main.loadWorld words
  let (exit, after) := CommandLine.run words before
  IO.print exit.stdout
  IO.eprint exit.stderr
  if let some path := Main.resultPath? words then
    if exit.status == 0 then
      if let .ok bytes := Host.readFile after path then IO.FS.writeBinFile path bytes
  return UInt32.ofNat exit.status
