import FeatureSurvey.CommandLine.Arguments

/-!
# `CommandLine/Program.lean` — the program

A run of the program is its arguments taken to an exit status and what it prints: `0` with the
result, `1` for a failure, `2` for a wrong use, `101` for a failure that nobody may handle.
-/

set_option autoImplicit false

namespace FeatureSurvey.CommandLine

def version : String := "0.1.0"

def programName : String := "feature-probe"

def usage : String :=
  "Feature detection and bisection\n\n" ++
  "Usage: feature-probe [-v]... <detect|bisect|harness|kinds> [OPTIONS]\n"

/-- How much is logged. -/
inductive Verbosity where
  | warn | info | debug | trace
  deriving DecidableEq, Repr

namespace Verbosity

/-- The level for a number of `-v` switches. -/
def ofCount : Nat → Verbosity
  | 0 => .warn
  | 1 => .info
  | 2 => .debug
  | _ => .trace

def name : Verbosity → String
  | .warn => "WARN"
  | .info => "INFO"
  | .debug => "DEBUG"
  | .trace => "TRACE"

end Verbosity

structure Exit where
  status : Nat
  stdout : String := ""
  /-- What went wrong, for the reader. -/
  stderr : String := ""
  deriving DecidableEq, Repr

variable {W : Type} [Host W]

/-- Carry out a request; gives what is printed. -/
def execute : Request → Task W String
  | .version => return s!"{programName} {version}\n"
  | .help => return usage
  | .detect arguments => do return Json.compact (← detect arguments).toValue ++ "\n"
  | .bisect arguments => do
    let commit ← bisect arguments
    return Json.compact (bisectReport arguments.feature commit) ++ "\n"
  | .batch arguments => do
    writePackages arguments
    return ""
  | .kinds json =>
    let registry : KindRegistry (Session W) := BuiltIn.registry
    if json then return Json.pretty (kindsValue registry.detectorKinds registry.parserKinds) ++ "\n"
    else return kindsText registry.detectorKinds registry.parserKinds

/-- Run the program. -/
def run (arguments : List String) : StateM W Exit := do
  match parse arguments with
  | .error _ => return { status := 2, stderr := usage }
  | .ok request =>
    match ← (execute request).outcome with
    | .ok stdout => return { status := 0, stdout }
    | .error failure =>
      if isFatal failure then return { status := 101, stderr := s!"{failure.message}\n" }
      else return { status := 1, stderr := s!"Error: {failure.message}\n" }

end FeatureSurvey.CommandLine
