import FeatureSurvey.Sandbox.World
import FeatureSurvey.Shell.Eval

/-!
# `Sandbox/Start.lean` — starting commands

A command is started in its directory, if it names one. Its program is looked for as a path, or in
the directories of `PATH` if it is a plain name. The system runs programs of its own and files that
name their interpreter in the first line; it refuses everything else.

A command that overruns its limit or is killed has done what it did up to then. A limit of nothing
is over as soon as the command is started, before it can do anything.
-/

set_option autoImplicit false

namespace FeatureSurvey.Sandbox

/-- The bytes that one argument may have. -/
def argumentLimit : Nat := 131072

/-- How long a command is followed before it is taken for one that never ends. -/
def patience : Nat := 20000

/-- Where a command runs. -/
def startPlace (w : World) (command : Command) : Except OsError Place :=
  match command.directory with
  | none => .ok w.here
  | some dir =>
    match w.tree.find w.here dir with
    | .ok (place, .directory) => .ok place
    | .ok _ => .error .notDirectory
    | .error e => .error e

/-- Can what was found be started as it is? -/
def startable (t : Tree) (here : Place) (entry : Entry) : Except OsError Unit :=
  match entry with
  | .program _ => .ok ()
  | .file bytes _ =>
    match Shell.interpreter? (Bytes.ofByteArray bytes) with
    | none => .error .notExecutable
    | some (interpreter, _) => (Shell.lookUp t here "" interpreter).map fun _ => ()
  | _ => .error .accessDenied

/-- What a command needs in order to be started: its place, the path to it, and what stands
there. -/
def prepare (w : World) (command : Command) : Except OsError (Place × String × Entry) := do
  let words := command.program :: command.arguments
  if words.any fun word => word.contains '\x00' then throw .nulInCommand
  if words.any fun word => decide (argumentLimit ≤ word.utf8ByteSize) then throw .argumentsTooLong
  let place ← startPlace w command
  let searched := (w.valueOf? "PATH").getD "/bin:/usr/bin"
  let (path, entry) ← Shell.lookUp w.tree place searched command.program
  startable w.tree place entry
  return (place, path, entry)

/-- The machine that a command runs on. The first output collects what it prints, the second one
its complaints, and the input is empty. -/
def machine (w : World) (timeout : Timeout) (place : Place) (name : String) : Shell.Machine :=
  let values := w.environment.map fun (name, value) => (name, Bytes.ofText value)
  let shell : Shell.ShellState :=
    { name, values, exported := values.map (·.1), here := place,
      streams := ⟨0, .collected 0, .collected 1⟩ }
  let shell := (shell.set "PWD" (Bytes.ofText (Tree.pathOf place))).share "PWD"
  { tree := w.tree, clock := w.clock, deadline := some (w.clock + timeout.millis)
    inputs := #[""], outputs := #["", ""], shell }

/-- What the machine collected in an output, read as text. -/
def collected (m : Shell.Machine) (slot : Nat) : String :=
  Text.decode (Bytes.toByteArray (m.outputs.getD slot ""))

/-- Run a command to its end. -/
def runCommand (command : Command) (timeout : Timeout) : StateM World ToolRun := fun w =>
  match prepare w command with
  | .error e => (.notStarted e, w)
  | .ok (place, path, entry) =>
    if timeout.millis = 0 then (.overran, w)
    else
      let job := Shell.launch patience false (Bytes.ofText path) entry
        (command.arguments.map Bytes.ofText)
      let (r, m) := job.exec (machine w timeout place (Bytes.ofText command.program))
      let after := { w with tree := m.tree, clock := m.clock }
      let ended (status : Option Int) : ToolRun :=
        .exited { status, stdout := collected m 0, stderr := collected m 1 }
      match r with
      | .ok () => (ended (some ((m.shell.status % 256 : Nat) : Int)), after)
      | .error (.exit status) => (ended (some ((status % 256 : Nat) : Int)), after)
      | .error (.leave status) => (ended (some ((status % 256 : Nat) : Int)), after)
      | .error (.killed _) => (ended none, after)
      | .error .overran => (.overran, { after with clock := w.clock + timeout.millis })
      | .error _ => (ended (some 0), after)

end FeatureSurvey.Sandbox
