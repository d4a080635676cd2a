import FeatureSurvey.Host.Job
import FeatureSurvey.Text.Blank

/-!
# `Tool/Run.lean` — running tools

Every tool is run with a limit of time, so that a tool that hangs becomes an error. `Tool.run`
hands back any status a tool may end with; `Tool.runChecked` accepts the status zero alone, and
then what the tool printed is the answer.

The limit is looked at after the start, as the clock begins to run only then: a limit that the
clock cannot tell the end of is found when the tool is running already, and that is fatal. A tool
that is lost is reported like one that was not started, but by its whole command line.
-/

set_option autoImplicit false

namespace FeatureSurvey.Tool

variable {W : Type} [Host W]

/-- The program for a tool: the one an option names, else the one an environment variable names,
else the default. -/
def resolve (w : W) (explicit : Option String) (name fallback : String) : String :=
  (explicit <|> Host.environment? w name).getD fallback

/-- A status that is no answer, as an error. -/
def failed (command : String) (output : ToolOutput) : SurveyError :=
  .toolFailed command output.status (Text.trim output.stderr)

/-- What a run of a command means, if it was started at the given second. -/
def judge (command : Command) (timeout : Timeout) (start : Nat) :
    ToolRun → Except SurveyError ToolOutput
  | .notStarted cause => .error (.toolNotStarted command.program cause)
  | .exited output =>
    if (timeout.deadline? start).isSome then .ok output
    else .error (.deadlineOutOfRange command.describe)
  | .overran =>
    if (timeout.deadline? start).isSome then .error (.toolTimeout command.describe timeout.seconds)
    else .error (.deadlineOutOfRange command.describe)
  | .lost cause =>
    if (timeout.deadline? start).isSome then .error (.toolNotStarted command.describe cause)
    else .error (.deadlineOutOfRange command.describe)

/-- A tool that gave an answer was in time. -/
theorem deadline_of_judge {command : Command} {timeout : Timeout} {start : Nat} {result : ToolRun}
    {output : ToolOutput} (h : judge command timeout start result = .ok output) :
    (timeout.deadline? start).isSome = true := by
  unfold judge at h
  split at h <;> first | cases h | (split at h <;> first | assumption | cases h)

/-- Where the clock can tell a limit, nothing fatal comes of a tool. -/
theorem isFatal_of_judge {command : Command} {timeout : Timeout} {start : Nat} {result : ToolRun}
    {e : SurveyError} (hlimit : (timeout.deadline? start).isSome = true)
    (h : judge command timeout start result = .error e) : isFatal e = false := by
  unfold judge at h
  simp only [hlimit, if_true] at h
  split at h <;> cases h <;> rfl

def run (command : Command) (timeout : Timeout) : Job W ToolOutput := fun w =>
  let (result, after) := Host.run command timeout w
  (judge command timeout (Host.uptime w) result, after)

theorem exec_run (command : Command) (timeout : Timeout) (w : W) :
    (run command timeout).exec w =
      (judge command timeout (Host.uptime w) (Host.run command timeout w).1,
        (Host.run command timeout w).2) := rfl

def checked (command : Command) (output : ToolOutput) : Except SurveyError String :=
  if output.success then .ok output.stdout else .error (failed command.describe output)

theorem isFatal_of_checked {command : Command} {output : ToolOutput} {e : SurveyError}
    (h : checked command output = .error e) : isFatal e = false := by
  unfold checked at h
  split at h <;> cases h
  rfl

def runChecked (command : Command) (timeout : Timeout) : Job W String := do
  let output ← run command timeout
  Attempt.ofExcept (checked command output)

end FeatureSurvey.Tool
