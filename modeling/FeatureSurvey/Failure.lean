import FeatureSurvey.Error

/-!
# `Failure.lean` — failures with their circumstances

Where files are loaded and packages processed, an error is passed up together with what was
being done, the outermost circumstance first. `root` is the cause itself. For the two file
formats the cause is only that the text could not be read as the thing expected.
-/

set_option autoImplicit false

namespace FeatureSurvey

inductive FailureRoot where
  | survey (error : SurveyError)
  | yaml
  | json
  | os (error : OsError)
  | other (text : String)
  deriving DecidableEq, Repr

/-- The wording of a cause, where it has one of its own. -/
def FailureRoot.message? : FailureRoot → Option String
  | .survey error => some error.message
  | .yaml => none
  | .json => none
  | .os error => some error.message
  | .other text => some text

structure Failure where
  contexts : List String := []
  root : FailureRoot
  deriving DecidableEq, Repr

namespace Failure

def ofText (text : String) : Failure := ⟨[], .other text⟩

def ofSurvey (error : SurveyError) : Failure := ⟨[], .survey error⟩

def ofOs (error : OsError) : Failure := ⟨[], .os error⟩

/-- Add what was being done around the failure. -/
def within (f : Failure) (context : String) : Failure :=
  { f with contexts := context :: f.contexts }

def message (f : Failure) : String :=
  String.intercalate ": " (f.contexts ++ f.root.message?.toList)

instance : HasFatal Failure where
  isFatal f :=
    match f.root with
    | .survey error => isFatal error
    | _ => false

end Failure

end FeatureSurvey
