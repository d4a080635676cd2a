import FeatureSurvey.Detect.Basic
import FeatureSurvey.Detect.Session
import FeatureSurvey.Host.Path
import FeatureSurvey.Rules.VariableLine
import FeatureSurvey.Tool.Run

/-!
# `Rules/Parser.lean` — the parser of a rules file

The rules of a package are a makefile. To see a variable, the file is copied into a directory of
our own, a rule that prints any variable is put behind its end, and `make` is run on the copy in
the source tree. The copy is made once in a run, `make` is run for every question, and the
package's own file is only ever read.
-/

set_option autoImplicit false

namespace FeatureSurvey

structure RulesParser where
  name : String
  sourceDir : String
  rulesFile : String
  make : String
  timeout : Timeout
  deriving DecidableEq, Repr

namespace RulesParser

/-- The rule by which a variable is printed. -/
def printRule : String := "print-%  : ; @echo $* = $($*)"

/-- Where the rules are, seen from the source tree. -/
def defaultRulesFile : String := "debian/rules"

/-- What the names of our directories begin with. -/
def directoryName : String := "rules-parser"

variable {W : Type} [Host W]

/-- Copy the rules and add the rule that prints. -/
def fillCopy (p : RulesParser) (copy : RulesCopy) : Job W Unit := do
  Attempt.step (.file p.rulesFile) (Host.copyFile p.rulesFile copy.makefile)
  Attempt.step (.file copy.makefile)
    (Host.appendFile copy.makefile ("\n" ++ printRule ++ "\n").toUTF8)

/-- Make the copy; a directory that cannot be filled is removed again. -/
def makeCopy (p : RulesParser) : Job W RulesCopy := do
  if !(← Attempt.ask fun w : W => Host.isFile w p.rulesFile) then
    Attempt.fail (.file p.rulesFile (.notFile "rules file"))
  let root ← Attempt.ask fun w : W => Host.temporaryRoot w
  let directory ← Attempt.step (.file root) (Host.makeTemporary directoryName)
  let copy : RulesCopy := ⟨directory, Path.join directory "rules"⟩
  match ← Attempt.always (p.fillCopy copy).outcome with
  | .ok () => return copy
  | .error e =>
    let _ ← Attempt.always (Host.removeTree directory)
    Attempt.fail e

/-- The copy of this run. -/
def copy (p : RulesParser) : Job (Session W) RulesCopy := do
  match ← Attempt.ask fun s : Session W => s.memory.copies.get? p.name with
  | some copy => return copy
  | none =>
    let copy ← Session.onWorld p.makeCopy
    Session.remember fun m => { m with copies := m.copies.insert p.name copy }
    return copy

/-- The command that shows a variable. -/
def command (p : RulesParser) (copy : RulesCopy) (variableName : String) : Command :=
  { program := p.make
    arguments := ["-s", "-C", p.sourceDir, "-f", copy.makefile, "print-" ++ variableName] }

/-- The line that shows a variable. -/
def variableLine (p : RulesParser) (variableName : String) : Job (Session W) String := do
  let command := p.command (← p.copy) variableName
  let stdout ← Session.onWorld (Tool.runChecked command p.timeout)
  Attempt.ofExcept ((Rules.variableLine stdout variableName).mapError
    (.toolOutput command.describe))

def parse (p : RulesParser) : Selector → Job (Session W) ParseOutput
  | .variable name => do return .value (← p.variableLine name)
  | .stage stage => Attempt.fail (.unsupportedSelector p.name (.stage stage))

def toParser (p : RulesParser) : Parser (Session W) := ⟨p.name, p.parse⟩

end RulesParser

end FeatureSurvey
