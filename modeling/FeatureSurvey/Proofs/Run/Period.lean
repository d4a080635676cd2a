import FeatureSurvey.BuildLog.Parser
import FeatureSurvey.Detector.Hardening
import FeatureSurvey.Detector.LineDetectors
import FeatureSurvey.Detector.SourcePattern
import FeatureSurvey.Rules.Parser
import Mathlib.Logic.Function.Basic

/-!
# `Proofs/Run/Period.lean` — a period in which nothing changes

Runs can be compared only if they look at the same things. A `Period` is a stretch of time in a
world in which they do. The environment stays, files stay, and what comes of a command is a matter
of its command line.

There is one exception to all of this, and it is our own doing: directories that are made for copies
of rules files. Their names are new each time, so a command line is read with such a name replaced
by what the makefile of that name holds (`Period.line`). `Period.Laws` says what a world has to keep
to; what was done with our directories, it says step by step.

**In such a period an instance gives the same answers whatever it has been asked before.** The
memory of a session may hold something for an instance or not; if it does, it is what a fresh look
would find (`Period.Sound`). A job that gives one answer from all sound sessions is `Steady`, and
this file shows it of everything the built-in kinds do.
-/

set_option autoImplicit false

namespace FeatureSurvey

/-! ## Periods -/

/-- What stands in a directory of our own. -/
inductive Holding where
  | empty
  | copied (rules : String)
  /-- A copy of the rules, with the rule that prints. -/
  | ready (rules : String)
  deriving DecidableEq

/-- A word of a command line; the name of a makefile of our own stands for what it holds. -/
inductive Word where
  | text (word : String)
  | own (holding : Holding)
  deriving DecidableEq

structure CommandLine where
  program : String
  words : List Word
  directory : Option String := none
  deriving DecidableEq

/-- The makefile in a directory of our own. -/
def RulesParser.makefileIn (directory : String) : String := Path.join directory "rules"

/-- What is the same throughout a stretch of time. -/
structure Period (W : Type) where
  During : W → Prop
  /-- What the makefiles of our own directories hold, by their names. -/
  own : W → String → Option Holding
  /-- The texts and paths that are in use besides. -/
  Apart : String → Prop
  environment : String → Option String
  /-- The regular files, and what comes of reading them. -/
  file : String → Option (Except OsError ByteArray)
  /-- What a command line gives, if the tool can be run to its end. -/
  result : CommandLine → Timeout → Option ToolOutput
  /-- Can a directory of our own be made, filled with a copy, and the copy added to? -/
  canMake : Bool
  canCopy : String → Bool
  canAppend : String → Bool

namespace Period

variable {W : Type} (P : Period W)

def word (w : W) (argument : String) : Word :=
  match P.own w argument with
  | some holding => .own holding
  | none => .text argument

/-- The command line of a command, up to the names of our own directories. -/
def line (w : W) (command : Command) : CommandLine :=
  ⟨command.program, command.arguments.map (P.word w), command.directory⟩

/-- Each word of the command is in use, or it is a makefile of our own. -/
def Knows (own : String → Option Holding) (command : Command) : Prop :=
  ∀ a ∈ command.arguments, P.Apart a ∨ own a ≠ none

/-- What is asked of the world during a period. Nothing is asked about other texts and paths than
those that are in use. -/
structure Laws [Host W] : Prop where
  /-- Nothing of our own ever has a name that is in use otherwise. -/
  apart : ∀ {w : W} {name : String}, P.During w → P.Apart name → P.own w name = none
  environment : ∀ {w : W}, P.During w → ∀ name, Host.environment? w name = P.environment name
  file : ∀ {w : W} {path : String}, P.During w → P.Apart path →
    (if Host.isFile w path then some (Host.readFile w path) else none) = P.file path
  result : ∀ {w : W} {command : Command}, P.During w → P.Knows (P.own w) command → ∀ timeout,
    ((Tool.run command timeout).exec w).1.toOption = P.result (P.line w command) timeout
  run : ∀ {w : W} {command : Command}, P.During w → P.Knows (P.own w) command → ∀ timeout,
    P.During (Host.run command timeout w).2 ∧ P.own (Host.run command timeout w).2 = P.own w
  /-- A directory of our own is new when it is made. -/
  makeTemporary : ∀ {w : W}, P.During w →
    match Host.makeTemporary RulesParser.directoryName w with
    | (.ok directory, v) => P.canMake = true ∧ P.During v ∧
        P.own w (RulesParser.makefileIn directory) = none ∧
        P.own v = Function.update (P.own w) (RulesParser.makefileIn directory) (some .empty)
    | (.error _, v) => P.canMake = false ∧ P.During v ∧ P.own v = P.own w
  copyFile : ∀ {w : W} {rules makefile : String}, P.During w → P.Apart rules →
    P.own w makefile = some .empty →
    match Host.copyFile rules makefile w with
    | (.ok _, v) => P.canCopy rules = true ∧ P.During v ∧
        P.own v = Function.update (P.own w) makefile (some (.copied rules))
    | (.error _, v) => P.canCopy rules = false ∧ P.During v ∧
        ∃ left, P.own v = Function.update (P.own w) makefile (some left)
  appendFile : ∀ {w : W} {rules makefile : String}, P.During w →
    P.own w makefile = some (.copied rules) →
    match Host.appendFile makefile ("\n" ++ RulesParser.printRule ++ "\n").toUTF8 w with
    | (.ok _, v) => P.canAppend rules = true ∧ P.During v ∧
        P.own v = Function.update (P.own w) makefile (some (.ready rules))
    | (.error _, v) => P.canAppend rules = false ∧ P.During v ∧
        ∃ left, P.own v = Function.update (P.own w) makefile (some left)
  removeTree : ∀ {w : W} {directory : String} {left : Holding}, P.During w →
    P.own w (RulesParser.makefileIn directory) = some left →
    P.During (Host.removeTree directory w).2 ∧ ∃ left?, P.own (Host.removeTree directory w).2 =
      Function.update (P.own w) (RulesParser.makefileIn directory) left?

/-! ## What a fresh look finds -/

def lines (p : BuildLogParser) : Option CompilerLines :=
  match P.file p.log with
  | some (.ok bytes) => some (.classify (Text.decode bytes) p.binaryName)
  | _ => none

/-- Can a copy of these rules be had? -/
def fills (rules : String) : Bool :=
  (P.file rules).isSome && P.canMake && P.canCopy rules && P.canAppend rules

def report (d : HardeningDetector) : Option (Table String) :=
  (P.result ⟨d.tool, [.text d.binary], none⟩ d.timeout).bind fun output =>
    (d.reportOf output).toOption

end Period

/-- The instances of a run, by the names under which they remember. -/
structure Roster where
  logs : String → Option BuildLogParser
  rules : String → Option RulesParser
  audits : String → Option HardeningDetector

/-- A session during the period, whose memory holds nothing but what a fresh look would find. -/
structure Period.Sound {W : Type} (P : Period W) (roster : Roster) (s : Session W) : Prop where
  during : P.During s.world
  logs : ∀ {name lines}, s.memory.logs.get? name = some lines →
    ∀ p, roster.logs name = some p → P.lines p = some lines
  copies : ∀ {name copy}, s.memory.copies.get? name = some copy →
    ∀ p, roster.rules name = some p →
      P.fills p.rulesFile = true ∧ P.own s.world copy.makefile = some (.ready p.rulesFile)
  reports : ∀ {name report}, s.memory.reports.get? name = some report →
    ∀ d, roster.audits name = some d → P.report d = some report

/-! ## Jobs that give one answer -/

namespace Attempt

variable {ε S α β : Type} {I : S → Prop} {job : Attempt ε S α}

/-- From every state with the property, the job gives this answer, and the property stays. Errors
are not told apart. -/
def Gives (I : S → Prop) (job : Attempt ε S α) (answer : Option α) : Prop :=
  ∀ s, I s → (job.exec s).1.toOption = answer ∧ I (job.exec s).2

def Steady (I : S → Prop) (job : Attempt ε S α) : Prop := ∃ answer, job.Gives I answer

theorem exec_step_bind_ok {onRefusal : OsError → ε} {act : StateM S (Except OsError α)}
    {next : α → Attempt ε S β} {s s' : S} {a : α} (h : act s = (.ok a, s')) :
    (step onRefusal act >>= next).exec s = (next a).exec s' := by
  rw [exec_bind, exec_step, h]
  rfl

theorem exec_step_bind_error {onRefusal : OsError → ε} {act : StateM S (Except OsError α)}
    {next : α → Attempt ε S β} {s s' : S} {cause : OsError} (h : act s = (.error cause, s')) :
    (step onRefusal act >>= next).exec s = (.error (onRefusal cause), s') := by
  rw [exec_bind, exec_step, h]
  rfl

theorem Gives.bind {x : Option α} {next : α → Attempt ε S β} {y : α → Option β}
    (h : job.Gives I x) (hnext : ∀ a, x = some a → (next a).Gives I (y a)) :
    (job >>= next).Gives I (x.bind y) := by
  intro s hs
  obtain ⟨hanswer, hI⟩ := h s hs
  rcases hjob : job.exec s with ⟨e | a, s'⟩ <;> rw [hjob] at hanswer hI
  · subst hanswer
    rw [exec_bind_error hjob]
    exact ⟨rfl, hI⟩
  · subst hanswer
    rw [exec_bind_ok hjob]
    exact hnext a rfl s' hI

theorem Gives.ofExcept (r : Except ε α) :
    (Attempt.ofExcept r : Attempt ε S α).Gives I r.toOption := fun _ hs => ⟨rfl, hs⟩

theorem Gives.pure (a : α) : (Pure.pure a : Attempt ε S α).Gives I (some a) :=
  fun _ hs => ⟨rfl, hs⟩

theorem Gives.always {act : StateM S Unit} (h : ∀ s, I s → I (act s).2) :
    (Attempt.always act : Attempt ε S Unit).Gives I (some ()) := fun s hs => ⟨rfl, h s hs⟩

/-- What the state is asked may differ, as long as the answer does not. -/
theorem Gives.ask_bind {question : S → β} {next : β → Attempt ε S α} {x : Option α}
    (h : ∀ s, I s → ((next (question s)).exec s).1.toOption = x ∧
      I ((next (question s)).exec s).2) :
    (Attempt.ask question >>= next).Gives I x := by
  intro s hs
  rw [exec_bind, exec_ask]
  exact h s hs

namespace Steady

theorem pure (a : α) : (Pure.pure a : Attempt ε S α).Steady I :=
  ⟨some a, fun _ hs => ⟨rfl, hs⟩⟩

theorem fail (e : ε) : (Attempt.fail e : Attempt ε S α).Steady I :=
  ⟨none, fun _ hs => ⟨rfl, hs⟩⟩

theorem ofExcept (r : Except ε α) : (Attempt.ofExcept r : Attempt ε S α).Steady I :=
  ⟨_, .ofExcept r⟩

theorem bind {next : α → Attempt ε S β} (h : job.Steady I) (hnext : ∀ a, (next a).Steady I) :
    (job >>= next).Steady I := by
  obtain ⟨x, hx⟩ := h
  exact ⟨_, hx.bind fun a _ => (hnext a).choose_spec⟩

end Steady

end Attempt

/-! ## Sound sessions -/

namespace Period

section Sessions

variable {W : Type} {P : Period W} {roster : Roster} {s : Session W}

theorem line_text {w : W} {command : Command} (h : ∀ a ∈ command.arguments, P.own w a = none) :
    P.line w command =
      ⟨command.program, command.arguments.map .text, command.directory⟩ := by
  have hword : ∀ a ∈ command.arguments, P.word w a = .text a := by
    intro a ha
    rw [word, h a ha]
  rw [line, List.map_congr_left hword]

theorem Sound.fresh {w : W} (h : P.During w) : P.Sound roster { world := w } where
  during := h
  logs hlog := by cases hlog
  copies hcopy := by cases hcopy
  reports hreport := by cases hreport

/-- The world moves on, and what our own directories hold stays there. -/
theorem Sound.withWorld (h : P.Sound roster s) {w : W} (hw : P.During w)
    (hown : ∀ m, P.own s.world m ≠ none → P.own w m = P.own s.world m) :
    P.Sound roster { s with world := w } where
  during := hw
  logs := h.logs
  copies hcopy p hp := by
    obtain ⟨hfills, hready⟩ := h.copies hcopy p hp
    refine ⟨hfills, ?_⟩
    rw [← hready]
    refine hown _ ?_
    rw [hready]
    exact Option.some_ne_none _
  reports := h.reports

theorem Sound.withLog (h : P.Sound roster s) {p : BuildLogParser} {lines : CompilerLines}
    (hp : roster.logs p.name = some p) (hlines : P.lines p = some lines) :
    P.Sound roster { s with memory := { s.memory with
      logs := s.memory.logs.insert p.name lines } } where
  during := h.during
  logs hlog p' hp' := by
    rw [Table.get?_insert] at hlog
    split at hlog
    · rename_i hname
      rw [hname, hp] at hp'
      cases hp'
      rw [hlines, hlog]
    · exact h.logs hlog p' hp'
  copies := h.copies
  reports := h.reports

theorem Sound.withCopy (h : P.Sound roster s) {p : RulesParser} {copy : RulesCopy}
    (hp : roster.rules p.name = some p) (hfills : P.fills p.rulesFile = true)
    (hready : P.own s.world copy.makefile = some (.ready p.rulesFile)) :
    P.Sound roster { s with memory := { s.memory with
      copies := s.memory.copies.insert p.name copy } } where
  during := h.during
  logs := h.logs
  copies hcopy p' hp' := by
    rw [Table.get?_insert] at hcopy
    split at hcopy
    · rename_i hname
      rw [hname, hp] at hp'
      cases hp'
      cases hcopy
      exact ⟨hfills, hready⟩
    · exact h.copies hcopy p' hp'
  reports := h.reports

theorem Sound.withReport (h : P.Sound roster s) {d : HardeningDetector} {report : Table String}
    (hd : roster.audits d.name = some d) (hreport : P.report d = some report) :
    P.Sound roster { s with memory := { s.memory with
      reports := s.memory.reports.insert d.name report } } where
  during := h.during
  logs := h.logs
  copies := h.copies
  reports hkept d' hd' := by
    rw [Table.get?_insert] at hkept
    split at hkept
    · rename_i hname
      rw [hname, hd] at hd'
      cases hd'
      rw [hreport, hkept]
    · exact h.reports hkept d' hd'

/-- A world of the period, with these holdings in our own directories. -/
def At (P : Period W) (own : String → Option Holding) (w : W) : Prop :=
  P.During w ∧ P.own w = own

variable (roster) in
/-- A job on the world that leaves our own directories alone. -/
theorem onWorld_gives {α : Type} {own : String → Option Holding} {job : Job W α} {x : Option α}
    (h : Attempt.Gives (P.At own) job x) :
    Attempt.Gives (fun s => P.Sound roster s ∧ P.own s.world = own) (Session.onWorld job) x := by
  rintro s ⟨hs, hown⟩
  obtain ⟨hx, hduring, hown'⟩ := h s.world ⟨hs.during, hown⟩
  refine ⟨hx, hs.withWorld hduring fun m _ => ?_, hown'⟩
  rw [hown, ← hown']
  rfl

theorem onWorld_gives_sound {α : Type} {job : Job W α} {x : Option α}
    (h : ∀ own, Attempt.Gives (P.At own) job x) :
    Attempt.Gives (P.Sound roster) (Session.onWorld job) x := by
  intro s hs
  obtain ⟨hanswer, hsound, -⟩ := onWorld_gives roster (h (P.own s.world)) s ⟨hs, rfl⟩
  exact ⟨hanswer, hsound⟩

end Sessions

variable {W : Type} [Host W] {P : Period W} {roster : Roster}

/-! ## Tools -/

/-- The line of a command that has none of our own names. -/
theorem line_apart (laws : P.Laws) {own : String → Option Holding} {command : Command}
    (apart : ∀ a ∈ command.arguments, P.Apart a) (w : W) (hw : P.At own w) : P.line w command =
      ⟨command.program, command.arguments.map .text, command.directory⟩ :=
  line_text fun a ha => laws.apart hw.1 (apart a ha)

theorem run_gives (laws : P.Laws) {own : String → Option Holding} {command : Command}
    {line : CommandLine} (known : P.Knows own command)
    (hline : ∀ w, P.At own w → P.line w command = line) (timeout : Timeout) :
    Attempt.Gives (P.At own) (Tool.run command timeout : Job W ToolOutput)
      (P.result line timeout) := by
  rintro w ⟨hw, rfl⟩
  obtain ⟨hduring, hown⟩ := laws.run hw known timeout
  refine ⟨?_, hduring, hown⟩
  rw [laws.result hw known, hline w ⟨hw, rfl⟩]

/-- What a tool printed, if it ended well. -/
def shown (output : ToolOutput) : Option String :=
  if output.success then some output.stdout else none

theorem runChecked_gives (laws : P.Laws) {own : String → Option Holding} {command : Command}
    {line : CommandLine} (known : P.Knows own command)
    (hline : ∀ w, P.At own w → P.line w command = line) (timeout : Timeout) :
    Attempt.Gives (P.At own) (Tool.runChecked command timeout : Job W String)
      ((P.result line timeout).bind shown) := by
  refine (run_gives laws known hline timeout).bind fun output _ => ?_
  have hshown : (Tool.checked command output).toOption = shown output := by
    rw [Tool.checked, shown]
    split <;> rfl
  rw [← hshown]
  exact .ofExcept _

/-! ## The build log -/

theorem read_toOption (laws : P.Laws) {w : W} (hw : P.During w) {p : BuildLogParser}
    (apart : P.Apart p.log) : (p.read w).toOption = P.lines p := by
  have hfile := laws.file hw apart
  rw [lines, ← hfile, BuildLogParser.read]
  by_cases hthere : Host.isFile w p.log
  · simp only [hthere, if_true]
    cases Host.readFile w p.log <;> rfl
  · simp only [hthere, Bool.false_eq_true, if_false]
    rfl

theorem logLines_gives (laws : P.Laws) {p : BuildLogParser} (hp : roster.logs p.name = some p)
    (apart : P.Apart p.log) :
    Attempt.Gives (P.Sound roster) (p.lines : Job (Session W) CompilerLines) (P.lines p) := by
  intro s h
  have hread := read_toOption laws h.during apart
  simp only [Attempt.exec, ExceptT.run, BuildLogParser.lines]
  cases hkept : s.memory.logs.get? p.name with
  | some lines => exact ⟨(h.logs hkept p hp).symm, h⟩
  | none =>
    cases hlines : p.read s.world with
    | error e =>
      rw [hlines] at hread
      exact ⟨hread, h⟩
    | ok lines =>
      rw [hlines] at hread
      exact ⟨hread, h.withLog hp hread.symm⟩

/-! ## Copies of rules

A copy is made in three steps, and each may fail; what is left then is removed. Nothing that was
held before is touched, as the directory is new. -/

theorem fillCopy_spec (laws : P.Laws) {w : W} (hw : P.During w) {p : RulesParser}
    (copy : RulesCopy) (apart : P.Apart p.rulesFile)
    (hempty : P.own w copy.makefile = some .empty) :
    match (p.fillCopy copy).exec w with
    | (.ok _, v) => (P.canCopy p.rulesFile && P.canAppend p.rulesFile) = true ∧ P.During v ∧
        P.own v = Function.update (P.own w) copy.makefile (some (.ready p.rulesFile))
    | (.error _, v) => (P.canCopy p.rulesFile && P.canAppend p.rulesFile) = false ∧ P.During v ∧
        ∃ left, P.own v = Function.update (P.own w) copy.makefile (some left) := by
  have hcopy := laws.copyFile hw apart hempty
  unfold RulesParser.fillCopy
  rcases hcopied : Host.copyFile p.rulesFile copy.makefile w with ⟨cause | ⟨⟩, v⟩ <;>
    rw [hcopied] at hcopy
  · rw [Attempt.exec_step_bind_error hcopied]
    obtain ⟨hcan, hv, hown⟩ := hcopy
    exact ⟨by rw [hcan, Bool.false_and], hv, hown⟩
  · rw [Attempt.exec_step_bind_ok hcopied, Attempt.exec_step]
    obtain ⟨hcan, hv, hown⟩ := hcopy
    have hcopied : P.own v copy.makefile = some (.copied p.rulesFile) := by
      rw [hown, Function.update_self]
    have happend := laws.appendFile hv hcopied
    rcases happended : Host.appendFile copy.makefile
      ("\n" ++ RulesParser.printRule ++ "\n").toUTF8 v with ⟨cause | ⟨⟩, u⟩ <;>
      rw [happended] at happend
    · obtain ⟨hcan', hu, left, hown'⟩ := happend
      refine ⟨by rw [hcan', Bool.and_false], hu, left, ?_⟩
      rw [hown', hown, Function.update_idem]
    · obtain ⟨hcan', hu, hown'⟩ := happend
      refine ⟨by rw [hcan, hcan']; rfl, hu, ?_⟩
      rw [hown', hown, Function.update_idem]

theorem makeCopy_spec (laws : P.Laws) {w : W} (hw : P.During w) {p : RulesParser}
    (apart : P.Apart p.rulesFile) :
    match (p.makeCopy).exec w with
    | (.ok copy, v) => P.fills p.rulesFile = true ∧ P.During v ∧
        P.own v copy.makefile = some (.ready p.rulesFile) ∧
        ∀ m, P.own w m ≠ none → P.own v m = P.own w m
    | (.error _, v) => P.fills p.rulesFile = false ∧ P.During v ∧
        ∀ m, P.own w m ≠ none → P.own v m = P.own w m := by
  have hfile := laws.file hw apart
  have hfills : P.fills p.rulesFile = ((P.file p.rulesFile).isSome && P.canMake &&
      (P.canCopy p.rulesFile && P.canAppend p.rulesFile)) := by
    rw [fills, Bool.and_assoc _ (P.canCopy _)]
  unfold RulesParser.makeCopy
  rw [Attempt.exec_bind, Attempt.exec_ask]
  cases hthere : Host.isFile w p.rulesFile with
  | false =>
    rw [hthere] at hfile
    refine ⟨?_, hw, fun _ _ => rfl⟩
    rw [hfills, ← hfile]
    rfl
  | true =>
    rw [hthere, if_pos rfl] at hfile
    have hmake := laws.makeTemporary hw
    simp only [Bool.not_true, Bool.false_eq_true, if_false]
    rw [Attempt.exec_bind, Attempt.exec_ask]
    dsimp only
    rcases hmade : Host.makeTemporary RulesParser.directoryName w with ⟨cause | directory, v⟩ <;>
      rw [hmade] at hmake
    · rw [Attempt.exec_step_bind_error hmade]
      obtain ⟨hcan, hv, hown⟩ := hmake
      refine ⟨?_, hv, fun m _ => congrFun hown m⟩
      rw [hfills, hcan, Bool.and_false, Bool.false_and]
    · rw [Attempt.exec_step_bind_ok hmade]
      obtain ⟨hcan, hv, hnew, hown⟩ := hmake
      let copy : RulesCopy := ⟨directory, RulesParser.makefileIn directory⟩
      have hempty : P.own v copy.makefile = some .empty := by
        rw [hown, Function.update_self]
      have hfill := fillCopy_spec laws hv copy apart hempty
      -- what has been done so far is all in the new directory
      have hothers {u : W} {left? : Option Holding}
          (hu : P.own u = Function.update (P.own v) copy.makefile left?) (m : String)
          (hm : P.own w m ≠ none) : P.own u m = P.own w m := by
        have hne : m ≠ copy.makefile := fun heq => hm (heq ▸ hnew)
        rw [hu, Function.update_of_ne hne, hown, Function.update_of_ne hne]
      have hverdict : P.fills p.rulesFile =
          (P.canCopy p.rulesFile && P.canAppend p.rulesFile) := by
        rw [hfills, ← hfile, hcan]
        rfl
      simp only [Attempt.exec_bind, Attempt.exec_always, Attempt.outcome]
      rcases hfilled : (p.fillCopy ⟨directory, Path.join directory "rules"⟩).exec v with
        ⟨e | ⟨⟩, u⟩
      all_goals
        have hfilled' : (p.fillCopy copy).exec v = _ := hfilled
        rw [hfilled'] at hfill
      · obtain ⟨hcan', hu, left, hown'⟩ := hfill
        have hleft : P.own u copy.makefile = some left := by
          rw [hown', Function.update_self]
        obtain ⟨hremoved, left?, hown''⟩ := laws.removeTree hu hleft
        rw [hown', Function.update_idem] at hown''
        exact ⟨hverdict.trans hcan', hremoved, fun m hm => hothers hown'' m hm⟩
      · obtain ⟨hcan', hu, hown'⟩ := hfill
        refine ⟨hverdict.trans hcan', hu, ?_, fun m hm => hothers hown' m hm⟩
        show P.own u copy.makefile = _
        rw [hown', Function.update_self]

theorem copy_spec (laws : P.Laws) {s : Session W} (h : P.Sound roster s) {p : RulesParser}
    (hp : roster.rules p.name = some p) (apart : P.Apart p.rulesFile) :
    match (p.copy : Job (Session W) RulesCopy).exec s with
    | (.ok copy, t) => P.fills p.rulesFile = true ∧ P.Sound roster t ∧
        P.own t.world copy.makefile = some (.ready p.rulesFile)
    | (.error _, t) => P.fills p.rulesFile = false ∧ P.Sound roster t := by
  unfold RulesParser.copy
  rw [Attempt.exec_bind, Attempt.exec_ask]
  cases hkept : s.memory.copies.get? p.name with
  | some copy =>
    obtain ⟨hfills, hready⟩ := h.copies hkept p hp
    exact ⟨hfills, h, hready⟩
  | none =>
    have hmake := makeCopy_spec laws h.during apart
    have hworld := Session.exec_onWorld (p.makeCopy : Job W RulesCopy) s
    rcases hmade : (p.makeCopy : Job W RulesCopy).exec s.world with ⟨e | copy, w⟩ <;>
      rw [hmade] at hmake hworld
    · obtain ⟨hfills, hw, hown⟩ := hmake
      simp only [Attempt.exec_bind_error hworld]
      exact ⟨hfills, h.withWorld hw hown⟩
    · obtain ⟨hfills, hw, hready, hown⟩ := hmake
      simp only [Attempt.exec_bind_ok hworld]
      exact ⟨hfills, (h.withWorld hw hown).withCopy hp hfills hready, hready⟩

/-- The command line that shows a variable, up to the name of the copy. -/
def makeLine (p : RulesParser) (variableName : String) : CommandLine :=
  ⟨p.make, [.text "-s", .text "-C", .text p.sourceDir, .text "-f", .own (.ready p.rulesFile),
    .text ("print-" ++ variableName)], none⟩

theorem variableLine_steady (laws : P.Laws) {p : RulesParser} (hp : roster.rules p.name = some p)
    (apart : P.Apart p.rulesFile) {variableName : String}
    (apartWords : ∀ a ∈ ["-s", "-C", p.sourceDir, "-f", "print-" ++ variableName], P.Apart a) :
    Attempt.Steady (P.Sound roster) (p.variableLine variableName : Job (Session W) String) := by
  refine ⟨if P.fills p.rulesFile then
    ((P.result (makeLine p variableName) p.timeout).bind shown).bind fun stdout =>
      (Rules.variableLine stdout variableName).toOption
    else none, fun s h => ?_⟩
  have hcopy := copy_spec laws h hp apart
  unfold RulesParser.variableLine
  rcases hcopied : (p.copy : Job (Session W) RulesCopy).exec s with ⟨e | copy, t⟩ <;>
    rw [hcopied] at hcopy
  · rw [Attempt.exec_bind_error hcopied, hcopy.1]
    exact ⟨rfl, hcopy.2⟩
  · obtain ⟨hfills, hsound, hready⟩ := hcopy
    rw [Attempt.exec_bind_ok hcopied, hfills, if_pos rfl]
    have hline (w : W) (hw : P.At (P.own t.world) w) :
        P.line w (p.command copy variableName) = makeLine p variableName := by
      obtain ⟨hduring, hown⟩ := hw
      have htext (a : String) (ha : a ∈ ["-s", "-C", p.sourceDir, "-f", "print-" ++ variableName]) :
          P.word w a = .text a := by
        rw [word, laws.apart hduring (apartWords a ha)]
      have hmakefile : P.word w copy.makefile = .own (.ready p.rulesFile) := by
        rw [word, hown, hready]
      simp [line, makeLine, RulesParser.command, htext, hmakefile]
    have hknown : P.Knows (P.own t.world) (p.command copy variableName) := by
      intro a ha
      simp only [RulesParser.command, List.mem_cons, List.not_mem_nil, or_false] at ha
      rcases ha with rfl | rfl | rfl | rfl | rfl | rfl
      · exact .inl (apartWords _ (by simp))
      · exact .inl (apartWords _ (by simp))
      · exact .inl (apartWords _ (by simp))
      · exact .inl (apartWords _ (by simp))
      · exact .inr (by rw [hready]; exact Option.some_ne_none _)
      · exact .inl (apartWords _ (by simp))
    have hrun := onWorld_gives roster (runChecked_gives laws hknown hline p.timeout)
    have hrest := hrun.bind fun stdout _ => Attempt.Gives.ofExcept
      ((Rules.variableLine stdout variableName).mapError
        (SurveyError.toolOutput (p.command copy variableName).describe))
    obtain ⟨hanswer, hsound', -⟩ := hrest t ⟨hsound, rfl⟩
    refine ⟨hanswer.trans ?_, hsound'⟩
    congr 1
    funext stdout
    cases Rules.variableLine stdout variableName <;> rfl

end Period

/-! ## Parsers and detectors -/

theorem Parser.stageLines_steady {S : Type} {I : S → Prop} {p : Parser S} {stage : BuildStage}
    (h : Attempt.Steady I (p.parse (.stage stage))) : Attempt.Steady I (p.stageLines stage) :=
  h.bind fun _ => .ofExcept _

namespace Period

variable {W : Type} [Host W] {P : Period W} {roster : Roster}

theorem logParser_steady (laws : P.Laws) {p : BuildLogParser} (hp : roster.logs p.name = some p)
    (apart : P.Apart p.log) (selector : Selector) :
    Attempt.Steady (P.Sound roster) ((p.toParser : Parser (Session W)).parse selector) := by
  rcases selector with stage | name
  · exact Attempt.Steady.bind ⟨_, logLines_gives laws hp apart⟩ fun lines => .pure _
  · exact .fail _

theorem rulesParser_steady (laws : P.Laws) {p : RulesParser} (hp : roster.rules p.name = some p)
    (apart : P.Apart p.rulesFile) {selector : Selector}
    (apartWords : ∀ name, selector = .variable name →
      ∀ a ∈ ["-s", "-C", p.sourceDir, "-f", "print-" ++ name], P.Apart a) :
    Attempt.Steady (P.Sound roster) ((p.toParser : Parser (Session W)).parse selector) := by
  rcases selector with stage | name
  · exact .fail _
  · exact (variableLine_steady laws hp apart (apartWords name rfl)).bind fun line => .pure _

theorem report_gives (laws : P.Laws) {d : HardeningDetector} (hd : roster.audits d.name = some d)
    (apart : P.Apart d.binary) :
    Attempt.Gives (P.Sound roster) (d.report : Job (Session W) (Table String)) (P.report d) := by
  have hcommand : ∀ a ∈ d.command.arguments, P.Apart a := by
    intro a ha
    rw [List.mem_singleton.1 ha]
    exact apart
  have hrun : Attempt.Gives (P.Sound roster)
      (Session.onWorld (Tool.run d.command d.timeout) : Job (Session W) ToolOutput)
      (P.result ⟨d.tool, [.text d.binary], none⟩ d.timeout) :=
    onWorld_gives_sound fun own =>
      run_gives laws (fun a ha => .inl (hcommand a ha)) (line_apart laws hcommand) d.timeout
  -- a report that was got is the one to remember
  have hremember (output : ToolOutput)
      (houtput : P.result ⟨d.tool, [.text d.binary], none⟩ d.timeout = some output)
      (report : Table String) (hreport : (d.reportOf output).toOption = some report) :
      Attempt.Gives (P.Sound roster) (do
        Session.remember fun m => { m with reports := m.reports.insert d.name report }
        return report : Job (Session W) (Table String)) (some report) := by
    have hfresh : P.report d = some report := by
      rw [Period.report, houtput]
      exact hreport
    exact (Attempt.Gives.always fun s hs => hs.withReport hd hfresh).bind fun _ _ => .pure report
  have haudit : Attempt.Gives (P.Sound roster) (do
      let output ← Session.onWorld (Tool.run d.command d.timeout)
      let report ← Attempt.ofExcept (d.reportOf output)
      Session.remember fun m => { m with reports := m.reports.insert d.name report }
      return report : Job (Session W) (Table String)) (P.report d) := by
    refine hrun.bind fun output houtput => ?_
    have hreport := (Attempt.Gives.ofExcept (d.reportOf output)).bind fun report hreport =>
      hremember output houtput report hreport
    rwa [Option.bind_fun_some] at hreport
  refine Attempt.Gives.ask_bind fun s h => ?_
  cases hkept : s.memory.reports.get? d.name with
  | some report => exact ⟨(h.reports hkept d hd).symm, h⟩
  | none =>
    refine Attempt.Gives.ask_bind (I := P.Sound roster) (fun s h => ?_) s h
    have hcounted : Attempt.Gives (P.Sound roster)
        (Session.remember fun m =>
          { m with audits := m.audits.insert d.name (d.invocations s + 1) } :
          Job (Session W) Unit) (some ()) :=
      .always fun s hs => ⟨hs.during, hs.logs, hs.copies, hs.reports⟩
    exact hcounted.bind (y := fun _ => P.report d) (fun _ _ => haudit) s h

theorem audit_steady (laws : P.Laws) {d : HardeningDetector} (hd : roster.audits d.name = some d)
    (apart : P.Apart d.binary) (feature : String) :
    Attempt.Steady (P.Sound roster) ((d.toDetector : Detector (Session W)).detect feature) :=
  Attempt.Steady.bind ⟨_, report_gives laws hd apart⟩ fun _ => .ofExcept _

theorem search_steady (laws : P.Laws) {d : SourcePatternDetector} {feature : String}
    (apart : ∀ pattern, d.patterns.get? feature = some pattern →
      ∀ a ∈ (d.command pattern).arguments, P.Apart a) :
    Attempt.Steady (P.Sound roster)
      (Session.onWorld (d.detect feature) : Job (Session W) FeatureValue) := by
  unfold SourcePatternDetector.detect
  cases hpattern : d.patterns.get? feature with
  | none => exact ⟨none, fun s hs => ⟨rfl, hs⟩⟩
  | some pattern =>
    refine ⟨(P.result ⟨d.tool, (d.command pattern).arguments.map .text, none⟩ d.timeout).bind
      fun output => (d.countOf pattern output).toOption.bind fun count =>
        some (.ofCount (UInt64.ofNat count)), onWorld_gives_sound fun own => ?_⟩
    have hapart := apart pattern hpattern
    refine (run_gives laws (fun a ha => .inl (hapart a ha)) (line_apart laws hapart)
      d.timeout).bind fun output _ => ?_
    exact (Attempt.Gives.ofExcept _).bind fun count _ => .pure _

end Period

end FeatureSurvey
