import FeatureSurvey.Host.OsError

/-!
# `Host/Command.lean` — commands and what becomes of them

A command names a program, its arguments and, if need be, the directory to run it in. It gets a
limit of time. What becomes of it is a status with what it printed, or that it overran the limit
and was stopped, or that it was lost: it runs, but the system does not tell how it ends, and it is
stopped too. Or it could not be started at all.

Whether a limit can be kept is a matter of the clock: the moment at which it ends is counted in
seconds by a signed 64-bit number.
-/

set_option autoImplicit false

namespace FeatureSurvey

structure Command where
  program : String
  arguments : List String := []
  directory : Option String := none
  deriving DecidableEq, Repr

/-- The command line as error messages show it. -/
def Command.describe (c : Command) : String := String.intercalate " " (c.program :: c.arguments)

/-- A limit of time, in thousandths of a second. -/
structure Timeout where
  millis : Nat
  deriving DecidableEq, Repr

namespace Timeout

def ofSeconds (seconds : UInt64) : Timeout := ⟨seconds.toNat * 1000⟩

/-- The whole seconds of the limit, as messages name it. -/
def seconds (t : Timeout) : Nat := t.millis / 1000

/-- The moments that the clock can tell: whole seconds below this one. -/
def clockRange : Nat := 9223372036854775808

/-- The second in which a limit set at a given second ends, if the clock can tell it. -/
def deadline? (start : Nat) (t : Timeout) : Option Nat :=
  if start + t.seconds < clockRange then some (start + t.seconds) else none

end Timeout

/-- What a finished command leaves: its status, none if a signal ended it, and what it printed. -/
structure ToolOutput where
  status : Option Int
  stdout : String
  stderr : String
  deriving DecidableEq, Repr

def ToolOutput.success (o : ToolOutput) : Bool := o.status == some 0

inductive ToolRun where
  | exited (output : ToolOutput)
  | overran
  | lost (cause : OsError)
  | notStarted (cause : OsError)
  deriving DecidableEq, Repr

end FeatureSurvey
