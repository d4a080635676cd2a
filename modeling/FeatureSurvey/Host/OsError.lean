/-!
# `Host/OsError.lean` — why the system refused

The causes for which the operating system, or the code right above it, refuses an operation on a
file or a program. Those that the system knows carry its number and its wording; the last four
are found before the system is asked, or after it has answered, and have no number.
-/

set_option autoImplicit false

namespace FeatureSurvey

inductive OsError where
  | notFound
  | argumentsTooLong
  | notExecutable
  | accessDenied
  | busy
  | exists
  | notDirectory
  | isDirectory
  | invalidArgument
  | nameTooLong
  | notEmpty
  /-- A file that has to be text is not UTF-8. -/
  | notText
  | nulInPath
  | nulInCommand
  /-- A named thing is there, but is no regular file. -/
  | notFile (what : String)
  deriving DecidableEq, Repr

namespace OsError

/-- The system's number and wording. -/
def numbered? : OsError → Option (Nat × String)
  | .notFound => some (2, "No such file or directory")
  | .argumentsTooLong => some (7, "Argument list too long")
  | .notExecutable => some (8, "Exec format error")
  | .accessDenied => some (13, "Permission denied")
  | .busy => some (16, "Device or resource busy")
  | .exists => some (17, "File exists")
  | .notDirectory => some (20, "Not a directory")
  | .isDirectory => some (21, "Is a directory")
  | .invalidArgument => some (22, "Invalid argument")
  | .nameTooLong => some (36, "File name too long")
  | .notEmpty => some (39, "Directory not empty")
  | .notText | .nulInPath | .nulInCommand | .notFile _ => none

def message (e : OsError) : String :=
  match e.numbered?, e with
  | some (number, wording), _ => s!"{wording} (os error {number})"
  | none, .notFile what => s!"{what} is not a file"
  | none, .nulInPath => "file name contained an unexpected NUL byte"
  | none, .nulInCommand => "nul byte found in provided data"
  | none, _ => "stream did not contain valid UTF-8"

end OsError

end FeatureSurvey
