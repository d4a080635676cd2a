import FeatureSurvey.Sandbox.Walk
import FeatureSurvey.Utility.Named

/-!
# `Sandbox/World.lean` — a world of its own

A sandbox world is a tree of files, the place where one is, the variables of the environment, and
a clock. Its programs are the utilities and the shell; everything else that can be run is a script
in a file. Nothing in it depends on the machine it is run on, so a survey in such a world has one
outcome.
-/

set_option autoImplicit false

namespace FeatureSurvey.Sandbox

structure World where
  tree : Tree
  here : Place := []
  environment : List (String × String) := []
  /-- Thousandths of a second since the world began. -/
  clock : Nat := 0
  /-- The second on the wall clock at which the world began. -/
  began : Int := 0
  /-- How many directories of our own have been made. -/
  made : Nat := 0

namespace World

def valueOf? (w : World) (name : String) : Option String := w.environment.lookup name

def setVariable (w : World) (name value : String) : World :=
  { w with environment := (name, value) :: w.environment.filter fun v => v.1 != name }

/-- Where directories of our own are made, unless a variable says otherwise. -/
def temporaryRoot (w : World) : String :=
  match w.valueOf? "TMPDIR" with
  | some dir => if dir.isEmpty then "/tmp" else dir
  | none => "/tmp"

/-- The digits that tell apart the directories of our own. -/
def temporaryMark (n : Nat) : String :=
  let digits := toString n
  String.ofList (List.replicate (6 - digits.length) '0') ++ digits

def makeTemporary (w : World) (front : String) : Except OsError String × World :=
  let path := Path.join w.temporaryRoot (front ++ temporaryMark w.made)
  match w.tree.makeDirectory w.here path with
  | .ok tree => (.ok path, { w with tree, made := w.made + 1 })
  | .error e => (.error e, w)

/-- Change the tree by a step that may be refused. -/
def change (step : Tree → Place → Except OsError Tree) : StateM World (Except OsError Unit) :=
  fun w =>
    match step w.tree w.here with
    | .ok tree => (.ok (), { w with tree })
    | .error e => (.error e, w)

/-- The directories in which programs are looked for. -/
def programPath : String := "/usr/local/bin:/usr/bin:/bin"

/-- The tree of a fresh world: the programs of the system, the device that takes everything, and
a directory for directories of our own. -/
def freshTree : Tree :=
  let dirs : List Place := [["dev"], ["tmp"], ["usr"], ["usr", "local"], ["usr", "local", "bin"],
    ["usr", "bin"], ["bin"]]
  let programs : List (Place × Entry) := Utility.programs.flatMap fun name =>
    [(["usr", "bin", name], .program name), (["bin", name], .program name)]
  ⟨dirs.map (·, .directory) ++ (["dev", "null"], .void) :: programs⟩

/-- A fresh world at a place, which is made. -/
def fresh (here : Place) (began : Int) : World :=
  let tree := (List.range here.length).foldl (fun t n =>
    let place := here.take (n + 1)
    if (t.entryAt? place).isSome then t else t.put place .directory) freshTree
  { tree, here, environment := [("PATH", programPath)], began }

end World

end FeatureSurvey.Sandbox
