import FeatureSurvey.Host.Job
import FeatureSurvey.Sandbox.Walk
import FeatureSurvey.Shell.Script
import FeatureSurvey.Text.Bytes

/-!
# `Shell/Machine.lean` — what scripts run on

A machine holds the tree that scripts change, a clock that only sleeping moves, the inputs that
are read and the outputs that are collected, and the state of the shell that is running. A step of
a script either goes on or stops: it ends the shell, a function or a round of a loop, or it is
killed, or it overruns the time allowed.

What the shell prints goes to one of its sinks. A sink is a collected output or a file; printing
to a file that has been removed is lost.
-/

set_option autoImplicit false

namespace FeatureSurvey.Shell

open Sandbox

inductive Sink where
  | collected (slot : Nat)
  | file (place : Place)
  | nowhere
  deriving DecidableEq, Repr

/-- Where a shell reads and prints. -/
structure Streams where
  /-- The number of the input. -/
  input : Nat
  out : Sink
  err : Sink

/-- One shell. -/
structure ShellState where
  name : String
  arguments : List String := []
  values : List (String × String) := []
  /-- Variables that commands get to see. -/
  exported : List String := []
  functions : List (String × Script) := []
  /-- Variables to give back their values when the function is left. -/
  saved : List (String × Option String) := []
  status : Nat := 0
  /-- The line feeds in the script that is running. -/
  feeds : Nat := 0
  /-- The line of the command that is running. -/
  line : Nat := 0
  /-- The status of the last command whose output was put in. -/
  produced : Option Nat := none
  /-- Does a command that fails end the shell? -/
  careful : Bool := false
  /-- Does a parameter without a value end the shell? -/
  strict : Bool := false
  /-- The loops around the running command. -/
  loops : Nat := 0
  here : Place
  streams : Streams

structure Machine where
  tree : Tree
  /-- Thousandths of a second. -/
  clock : Nat := 0
  /-- The moment at which the time allowed is over. -/
  deadline : Option Nat := none
  inputs : Array String := #[]
  outputs : Array String := #[]
  shell : ShellState

/-- Why a step does not go on. -/
inductive Stop where
  | exit (status : Nat)
  | leave (status : Nat)
  | breakLoop (levels : Nat)
  | nextRound (levels : Nat)
  | killed (signal : Nat)
  | overran
  deriving DecidableEq, Repr

abbrev Act (α : Type) := Attempt Stop Machine α

/-! ## Variables -/

namespace ShellState

def value? (s : ShellState) (name : String) : Option String := s.values.lookup name

def set (s : ShellState) (name value : String) : ShellState :=
  { s with values := (name, value) :: s.values.filter fun v => v.1 != name }

def unset (s : ShellState) (name : String) : ShellState :=
  { s with
    values := s.values.filter fun v => v.1 != name
    exported := s.exported.filter fun v => v != name
    functions := s.functions.filter fun f => f.1 != name }

def giveBack (s : ShellState) (name : String) : Option String → ShellState
  | some value => s.set name value
  | none => { s with values := s.values.filter fun v => v.1 != name }

def share (s : ShellState) (name : String) : ShellState :=
  if s.exported.contains name then s else { s with exported := name :: s.exported }

/-- The variables that a command gets to see. -/
def visible (s : ShellState) : List (String × String) :=
  s.values.filter fun v => s.exported.contains v.1

/-- A shell of its own, started from this one. -/
def child (s : ShellState) (name : String) (arguments : List String) : ShellState :=
  { name, arguments, values := s.visible, exported := s.visible.map (·.1), line := s.line,
    here := s.here, streams := s.streams }

/-- The shell at a command that begins so many line feeds before the end of the script. -/
def atCommand (s : ShellState) (feedsLeft : Nat) : ShellState :=
  { s with line := s.feeds - feedsLeft + 1 }

/-- What stands before a complaint: the script and the line. -/
def lead (s : ShellState) : String := s!"{s.name}: {s.line}: "

/-- The characters at which fields end. -/
def separators (s : ShellState) : List Char := ((s.value? "IFS").getD " \t\n").toList

end ShellState

/-! ## Steps of a machine -/

def onShell (f : ShellState → ShellState) : Act Unit :=
  modify fun m => { m with shell := f m.shell }

def shell : Act ShellState := do return (← get).shell

def setStatus (status : Nat) : Act Unit := onShell fun s => { s with status }

/-- Print to a sink. -/
def emit (sink : Sink) (text : String) : Act Unit :=
  modify fun m =>
    match sink with
    | .nowhere => m
    | .collected slot => { m with outputs := m.outputs.modify slot (· ++ text) }
    | .file place =>
      match m.tree.entryAt? place with
      | some (.file bytes executable) =>
        { m with tree := m.tree.put place (.file (bytes ++ Bytes.toByteArray text) executable) }
      | _ => m

def print (text : String) : Act Unit := do emit (← shell).streams.out text

/-- Print a line of complaint. -/
def complain (text : String) : Act Unit := do
  let s ← shell
  emit s.streams.err (s.lead ++ text ++ "\n")

/-- Run a step; whether it goes on or stops, put back parts of the shell as they were. -/
def restoring (back : ShellState → ShellState → ShellState) {α : Type} (act : Act α) : Act α := do
  let before ← shell
  act.guarded (modify fun m => { m with shell := back before m.shell })

/-- Run a step with other streams. -/
def withStreams (streams : Streams) {α : Type} (act : Act α) : Act α :=
  restoring (fun before after => { after with streams := before.streams }) do
    onShell fun s => { s with streams }
    act

/-- A new input with a text. -/
def newInput (text : String) : Act Nat := do
  let m ← get
  set { m with inputs := m.inputs.push text }
  return m.inputs.size

/-- A new output, empty as yet. -/
def newOutput : Act Nat := do
  let m ← get
  set { m with outputs := m.outputs.push "" }
  return m.outputs.size

/-- Run a step and collect what it prints. -/
def collecting (act : Act Unit) : Act String := do
  let slot ← newOutput
  withStreams { (← shell).streams with out := .collected slot } act
  return (← get).outputs.getD slot ""

/-- Run a step in a shell of its own: only its status comes back. A shell of the same script is
killed together with it. -/
def apart (act : Act Unit) : Act Unit := fun m =>
  let (r, after) := act.exec m
  let back (status : Nat) : Machine := { after with shell := { m.shell with status } }
  match r with
  | .ok () => (.ok (), back after.shell.status)
  | .error (.exit status) => (.ok (), back status)
  | .error (.leave status) => (.ok (), back status)
  | .error (.breakLoop _) => (.ok (), back 0)
  | .error (.nextRound _) => (.ok (), back 0)
  | .error stop => (.error stop, back 0)

/-- What a shell says of a command that was killed. -/
def obituary (signal : Nat) : String :=
  if signal == 1 then "Hangup\n"
  else if signal == 9 then "Killed\n"
  else if signal == 15 then "Terminated\n"
  else ""

/-- Run a step as another command, in a shell that it starts with. Should that be killed, this
one goes on. -/
def asCommand (start : ShellState) (act : Act Unit) : Act Unit :=
  tryCatch (apart do
    onShell fun _ => start
    act) fun
    | .killed signal => do
      emit (← shell).streams.err (obituary signal)
      setStatus (128 + signal)
    | stop => throw stop

/-- Let time go by. -/
def sleep (millis : Nat) : Act Unit := do
  modify fun m => { m with clock := m.clock + millis }
  let m ← get
  match m.deadline with
  | some deadline => if deadline ≤ m.clock then throw .overran
  | none => pure ()

/-- Run a step inside one more loop. -/
def inLoop (act : Act Unit) : Act Unit :=
  restoring (fun before after => { after with loops := before.loops }) do
    onShell fun s => { s with loops := s.loops + 1 }
    act

/-- Run the body of a loop once; the answer is whether the loop goes on. -/
def round (body : Act Unit) : Act Bool :=
  tryCatch (do body; return true) fun
    | .breakLoop levels => if levels ≤ 1 then return false else throw (.breakLoop (levels - 1))
    | .nextRound levels => if levels ≤ 1 then return true else throw (.nextRound (levels - 1))
    | stop => throw stop

end FeatureSurvey.Shell
