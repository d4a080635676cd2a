import FeatureSurvey.Proofs.Rules.FileHost
import FeatureSurvey.Proofs.Run.Exchanges

/-!
# `Proofs/Rules/Copy.lean` — the rules are copied once, and `make` is run each time

The parser of rules keeps one half of its work. A copy of the rules is made for the first question
that gets one, with the rule that prints behind its end, and it is never made again, whatever
becomes of the package's own file. `make` is run on that copy for each question, and what is printed
is never kept.

As long as there is no copy, a question for a variable tries to make one. It may fail at each of
three steps, and then `make` is not run and nothing is kept (`Unprepared`). Once there is one, it
stays: that `make` fails, or prints nothing that can be used, is the answer to the question at hand
and to no other (`Makes`). A question for a stage is turned down before any of this.

**So there is one copy for a whole session, and it holds the rules as they were when it was made**
(`parse_copiesOnce`). And since nothing but our own files is written to, the package's own file is
at the end of each question what it was at its beginning, unless `make` has changed it.
-/

set_option autoImplicit false

namespace FeatureSurvey.RulesParser

open Host (SameAt Untouched Enclosed)

variable {W : Type}

/-! ## What is kept -/

/-- The directory of a copy, and the rules as they were when it was made. -/
structure Prepared where
  directory : String
  rules : ByteArray

namespace Prepared

def copy (kept : Prepared) : RulesCopy := ⟨kept.directory, makefileIn kept.directory⟩

/-- What the copy holds: the rules, a line feed, the rule that prints, and a line feed. -/
def bytes (kept : Prepared) : ByteArray := kept.rules ++ ("\n" ++ printRule ++ "\n").toUTF8

end Prepared

/-- The steps by which a copy is made. -/
def preparation (p : RulesParser) (directory : String) : List Event :=
  [.madeTemporary directoryName (.ok directory),
    .copied p.rulesFile (makefileIn directory) (.ok ()),
    .appended (makefileIn directory) (.ok ())]

/-- The ways for a preparation to fail, with the steps that are taken and the error. -/
inductive Unprepared [Host W] (p : RulesParser) (w : W) : List Event → SurveyError → Prop
  | no_file (h : Host.isFile w p.rulesFile = false) :
      Unprepared p w [] (.file p.rulesFile (.notFile "rules file"))
  | no_directory (hfile : Host.isFile w p.rulesFile = true) (cause : OsError) :
      Unprepared p w [.madeTemporary directoryName (.error cause)]
        (.file (Host.temporaryRoot w) cause)
  | not_copied (hfile : Host.isFile w p.rulesFile = true) (directory : String) (cause : OsError)
      (removal : Except OsError Unit) : Unprepared p w
        [.madeTemporary directoryName (.ok directory),
          .copied p.rulesFile (makefileIn directory) (.error cause),
          .removed directory removal]
        (.file p.rulesFile cause)
  | not_extended (hfile : Host.isFile w p.rulesFile = true) (directory : String) (cause : OsError)
      (removal : Except OsError Unit) : Unprepared p w
        [.madeTemporary directoryName (.ok directory),
          .copied p.rulesFile (makefileIn directory) (.ok ()),
          .appended (makefileIn directory) (.error cause),
          .removed directory removal]
        (.file (makefileIn directory) cause)

/-- From one world to the other a copy was made. -/
structure Ready [Host W] (p : RulesParser) (own others : String → Prop) (kept : Prepared)
    (w v : W) : Prop where
  file : Host.isFile w p.rulesFile = true
  rules : Host.readFile w p.rulesFile = .ok kept.rules
  ours : own kept.copy.makefile
  holds : Host.readFile v kept.copy.makefile = .ok kept.bytes
  untouched : Untouched others w v

/-- The command that shows a variable. -/
def shows (p : RulesParser) (kept : Prepared) (name : String) : Command :=
  ⟨p.make, ["-s", "-C", p.sourceDir, "-f", kept.copy.makefile, "print-" ++ name], none⟩

/-- The answer to a question for a variable, by what came of the command. -/
def reply (command : Command) (name : String) :
    Except SurveyError ToolOutput → Except SurveyError ParseOutput
  | .error e => .error e
  | .ok output =>
    match Tool.checked command output with
    | .error e => .error e
    | .ok stdout =>
      match Rules.variableLine stdout name with
      | .ok line => .ok (.value line)
      | .error fault => .error (.toolOutput command.describe fault)

/-! ## What an exchange may be -/

/-- The question is turned down, or a copy was wanted and could not be made. -/
inductive Waits [Host W] (p : RulesParser) (others : String → Prop) :
    Exchange W Selector ParseOutput → Prop
  | rejected (stage : BuildStage) (s : Session W) : Waits p others
      ⟨.stage stage, s, .error (.unsupportedSelector p.name (.stage stage)), [], s⟩
  | unprepared {s : Session W} {steps : List Event} {e : SurveyError} {v : W} (name : String)
      (h : p.Unprepared s.world steps e) (untouched : Untouched others s.world v) :
      Waits p others ⟨.variable name, s, .error e, steps, ⟨v, s.memory⟩⟩

/-- From this world on `make` is run once, on the copy as it was made. -/
structure Makes [Host W] (p : RulesParser) (kept : Prepared) (name : String) (v : W)
    (earlier : List Event) (x : Exchange W Selector ParseOutput) : Prop where
  question : x.question = .variable name
  holds : Host.readFile v kept.copy.makefile = .ok kept.bytes
  result : ∃ result, (Tool.run (p.shows kept name) p.timeout).exec v = (result, x.after.world) ∧
    x.steps = earlier ++ [.ran (p.shows kept name) result] ∧
    x.outcome = reply (p.shows kept name) name result
  remembered : x.after.memory.copies.get? p.name = some kept.copy
  holds_after : Host.readFile x.after.world kept.copy.makefile = .ok kept.bytes

/-- The copy is made, and `make` is run on it. -/
def Turns [Host W] (p : RulesParser) (own others : String → Prop) (kept : Prepared)
    (x : Exchange W Selector ParseOutput) : Prop :=
  ∃ name v, p.Ready own others kept x.before.world v ∧
    p.Makes kept name v (p.preparation kept.directory) x

/-- The question is turned down, or `make` is run on the copy that is there. -/
inductive Follows [Host W] (p : RulesParser) (kept : Prepared) :
    Exchange W Selector ParseOutput → Prop
  | rejected (stage : BuildStage) (s : Session W) : Follows p kept
      ⟨.stage stage, s, .error (.unsupportedSelector p.name (.stage stage)), [], s⟩
  | makes {x : Exchange W Selector ParseOutput} (name : String)
      (h : p.Makes kept name x.before.world [] x) (memory : x.after.memory = x.before.memory) :
      Follows p kept x

variable [Host W] {p : RulesParser} {own others : String → Prop} {s : Session W} {w v : W}

/-! ## Making a copy -/

/-- What comes of filling a directory of our own. -/
inductive Filling (p : RulesParser) (others : String → Prop) (directory : String) (v : W)
    (log : List Event) : Except SurveyError Unit × Recorded W → Prop
  | not_copied {cause : OsError} {u : W} (untouched : Untouched others v u) :
      Filling p others directory v log (.error (.file p.rulesFile cause),
        ⟨u, log ++ [.copied p.rulesFile (makefileIn directory) (.error cause)]⟩)
  | not_extended {cause : OsError} {u : W} (untouched : Untouched others v u) :
      Filling p others directory v log (.error (.file (makefileIn directory) cause),
        ⟨u, log ++ [.copied p.rulesFile (makefileIn directory) (.ok ())] ++
          [.appended (makefileIn directory) (.error cause)]⟩)
  | filled {rules : ByteArray} {u : W} (untouched : Untouched others v u)
      (hrules : Host.readFile v p.rulesFile = .ok rules)
      (holds : Host.readFile u (makefileIn directory) =
        .ok (rules ++ ("\n" ++ printRule ++ "\n").toUTF8)) :
      Filling p others directory v log (.ok (),
        ⟨u, log ++ [.copied p.rulesFile (makefileIn directory) (.ok ())] ++
          [.appended (makefileIn directory) (.ok ())]⟩)

theorem filling_fillCopy (laws : Enclosed W own others) (apart : others p.rulesFile)
    {directory : String} (hown : own (makefileIn directory)) (v : W) (log : List Event) :
    p.Filling others directory v log
      ((p.fillCopy ⟨directory, makefileIn directory⟩).exec (⟨v, log⟩ : Recorded W)) := by
  unfold fillCopy
  rcases hcopied : Host.copyFile p.rulesFile (makefileIn directory) v with ⟨cause | ⟨⟩, u⟩
  · have hstep : Host.copyFile p.rulesFile (makefileIn directory) (⟨v, log⟩ : Recorded W) =
        (.error cause, ⟨u, log ++ [.copied p.rulesFile (makefileIn directory) (.error cause)]⟩) :=
      Recorded.logging_eq hcopied
    rw [Attempt.exec_step_bind_error hstep]
    exact .not_copied (laws.copyFile hcopied apart hown).1
  · have hstep : Host.copyFile p.rulesFile (makefileIn directory) (⟨v, log⟩ : Recorded W) =
        (.ok (), ⟨u, log ++ [.copied p.rulesFile (makefileIn directory) (.ok ())]⟩) :=
      Recorded.logging_eq hcopied
    rw [Attempt.exec_step_bind_ok hstep]
    obtain ⟨hcopy, hbytes⟩ := laws.copyFile hcopied apart hown
    obtain ⟨rules, hrules, hheld⟩ := hbytes rfl
    rcases happended : Host.appendFile (makefileIn directory)
      ("\n" ++ printRule ++ "\n").toUTF8 u with ⟨cause | ⟨⟩, t⟩
    all_goals
      obtain ⟨hmore, hholds⟩ := laws.appendFile happended hown
      rw [Attempt.exec_step]
      show p.Filling others directory v log
        (Except.mapError _ (Host.appendFile _ _ u).1, ⟨(Host.appendFile _ _ u).2, _ ++ _⟩)
      rw [happended]
    · exact .not_extended (hcopy.trans hmore)
    · exact .filled (hcopy.trans hmore) hrules (hholds rfl rules hheld)

/-- What comes of making a copy, with the steps that are taken. -/
inductive Preparation (p : RulesParser) (own others : String → Prop) (w : W) :
    Except SurveyError RulesCopy × Recorded W → Prop
  | failed {e : SurveyError} {v : W} {steps : List Event} (h : p.Unprepared w steps e)
      (untouched : Untouched others w v) : Preparation p own others w (.error e, ⟨v, steps⟩)
  | done {kept : Prepared} {v : W} (h : p.Ready own others kept w v) :
      Preparation p own others w (.ok kept.copy, ⟨v, p.preparation kept.directory⟩)

theorem preparation_makeCopy (laws : Enclosed W own others) (apart : others p.rulesFile) (w : W) :
    p.Preparation own others w (p.makeCopy.exec (⟨w, []⟩ : Recorded W)) := by
  unfold makeCopy
  rw [Attempt.exec_bind, Attempt.exec_ask]
  have hsame : Host.isFile (⟨w, []⟩ : Recorded W) p.rulesFile = Host.isFile w p.rulesFile := rfl
  cases hfile : Host.isFile w p.rulesFile with
  | false =>
    rw [hfile] at hsame
    simp only [hsame]
    exact .failed (.no_file hfile) (.refl others w)
  | true =>
    rw [hfile] at hsame
    simp only [hsame, Bool.not_true, Bool.false_eq_true, if_false]
    rw [Attempt.exec_bind, Attempt.exec_ask]
    dsimp only
    rcases hmade : Host.makeTemporary directoryName w with ⟨cause | directory, v⟩
    · have hstep : Host.makeTemporary directoryName (⟨w, []⟩ : Recorded W) =
          (.error cause, ⟨v, [.madeTemporary directoryName (.error cause)]⟩) :=
        Recorded.logging_eq hmade
      rw [Attempt.exec_step_bind_error hstep]
      exact .failed (.no_directory hfile cause) (laws.makeTemporary hmade).1
    · have hstep : Host.makeTemporary directoryName (⟨w, []⟩ : Recorded W) =
          (.ok directory, ⟨v, [.madeTemporary directoryName (.ok directory)]⟩) :=
        Recorded.logging_eq hmade
      rw [Attempt.exec_step_bind_ok hstep]
      obtain ⟨hmake, howns⟩ := laws.makeTemporary hmade
      have hown : own (makefileIn directory) := howns directory rfl
      rcases hfilled : (p.fillCopy ⟨directory, Path.join directory "rules"⟩).exec
        (⟨v, [.madeTemporary directoryName (.ok directory)]⟩ : Recorded W) with ⟨result, r⟩
      have hfill : p.Filling others directory v _ _ := filling_fillCopy laws apart hown v
        [.madeTemporary directoryName (.ok directory)]
      simp only [makefileIn, hfilled] at hfill
      simp only [Attempt.exec_bind, Attempt.exec_always, Attempt.outcome, hfilled]
      cases hfill with
      | @not_copied cause u untouched =>
        have hgone := laws.removeTree u hown
        exact .failed (.not_copied hfile directory cause _)
          ((hmake.trans untouched).trans hgone)
      | @not_extended cause u untouched =>
        have hgone := laws.removeTree u hown
        exact .failed (.not_extended hfile directory cause _)
          ((hmake.trans untouched).trans hgone)
      | @filled rules u untouched hrules holds =>
        have hbefore := (hmake p.rulesFile apart).bytes.trans hrules
        have hready : p.Ready own others ⟨directory, rules⟩ w u :=
          ⟨hfile, hbefore, hown, holds, hmake.trans untouched⟩
        exact .done hready

theorem exec_copy_kept {copy : RulesCopy} (h : s.memory.copies.get? p.name = some copy) :
    (p.copy : Job (Session (Recorded W)) RulesCopy).exec s.recording = (.ok copy, s.recording) := by
  rw [RulesParser.copy, Attempt.exec_bind, Attempt.exec_ask]
  simp only [Session.memory_recording, h]
  rfl

/-- A session without a copy makes one, and keeps it if it could be made. -/
theorem exec_copy_open (h : s.memory.copies.get? p.name = none) :
    (p.copy : Job (Session (Recorded W)) RulesCopy).exec s.recording =
      match p.makeCopy.exec (⟨s.world, []⟩ : Recorded W) with
      | (.error e, r) => (.error e, ⟨r, s.memory⟩)
      | (.ok copy, r) =>
        (.ok copy, ⟨r, { s.memory with copies := s.memory.copies.insert p.name copy }⟩) := by
  rw [copy, Attempt.exec_bind, Attempt.exec_ask]
  simp only [Session.memory_recording, h, Attempt.exec_bind, Session.exec_onWorld,
    Session.world_recording]
  rcases p.makeCopy.exec (⟨s.world, []⟩ : Recorded W) with ⟨e | copy, r⟩
  · rfl
  · rfl

/-! ## One question -/

theorem put_stage (stage : BuildStage) : Exchange.put p.parse s (.stage stage) =
    ⟨.stage stage, s, .error (.unsupportedSelector p.name (.stage stage)), [], s⟩ := rfl

/-- Once the copy is there, `make` is run and its outcome is the answer. -/
theorem put_of_copy {kept : Prepared} {steps : List Event} {memory : Memory} {name : String}
    {result : Except SurveyError ToolOutput} {u : W}
    (hcopy : (p.copy : Job (Session (Recorded W)) RulesCopy).exec s.recording =
      (.ok kept.copy, ⟨⟨v, steps⟩, memory⟩))
    (hrun : (Tool.run (p.shows kept name) p.timeout).exec v = (result, u)) :
    Exchange.put p.parse s (.variable name) =
      ⟨.variable name, s, reply (p.shows kept name) name result,
        steps ++ [.ran (p.shows kept name) result], ⟨u, memory⟩⟩ := by
  have hcommand : p.command kept.copy name = p.shows kept name := rfl
  apply Exchange.put_eq
  rw [parse, Attempt.exec_bind, variableLine, Attempt.exec_bind_ok hcopy]
  simp only [hcommand, Attempt.exec_bind, Session.exec_onWorld, Tool.runChecked,
    Tool.exec_run_recorded, hrun]
  cases result with
  | error e => rfl
  | ok output =>
    simp only [Attempt.exec_ofExcept, reply]
    cases Tool.checked (p.shows kept name) output with
    | error e => rfl
    | ok stdout =>
      dsimp only
      cases Rules.variableLine stdout name with
      | error fault => rfl
      | ok line => rfl

/-- The session keeps this copy, and it is as it was made. -/
structure Keeps (p : RulesParser) (own : String → Prop) (kept : Prepared) (s : Session W) :
    Prop where
  remembered : s.memory.copies.get? p.name = some kept.copy
  ours : own kept.copy.makefile
  holds : Host.readFile s.world kept.copy.makefile = .ok kept.bytes

/-- Running `make` on the copy leaves the copy as it is. -/
theorem makes_of_copy (laws : Enclosed W own others) {kept : Prepared} {steps : List Event}
    {memory : Memory} (name : String)
    (hcopy : (p.copy : Job (Session (Recorded W)) RulesCopy).exec s.recording =
      (.ok kept.copy, ⟨⟨v, steps⟩, memory⟩))
    (hkeeps : p.Keeps own kept ⟨v, memory⟩) :
    p.Makes kept name v steps (Exchange.put p.parse s (.variable name)) ∧
      (Exchange.put p.parse s (.variable name)).after.memory = memory ∧
      p.Keeps own kept (Exchange.put p.parse s (.variable name)).after := by
  have hstill := laws.run v (p.shows kept name) p.timeout _ hkeeps.ours
  have hholds := hstill.bytes.symm.trans hkeeps.holds
  rw [put_of_copy hcopy rfl]
  exact ⟨⟨rfl, hkeeps.holds, ⟨_, rfl, rfl, rfl⟩, hkeeps.remembered, hholds⟩, rfl,
    ⟨hkeeps.remembered, hkeeps.ours, hholds⟩⟩

theorem put_kept (laws : Enclosed W own others) {kept : Prepared} (h : p.Keeps own kept s)
    (name : String) :
    p.Follows kept (Exchange.put p.parse s (.variable name)) ∧
      p.Keeps own kept (Exchange.put p.parse s (.variable name)).after := by
  obtain ⟨hmakes, hmemory, hkeeps⟩ := makes_of_copy laws name (exec_copy_kept h.remembered) h
  exact ⟨.makes name hmakes hmemory, hkeeps⟩

/-- Without a copy one is made first, and that may fail. -/
theorem put_open (laws : Enclosed W own others) (apart : others p.rulesFile)
    (h : s.memory.copies.get? p.name = none) (name : String) :
    (p.Waits others (Exchange.put p.parse s (.variable name)) ∧
      (Exchange.put p.parse s (.variable name)).after.memory.copies.get? p.name = none) ∨
    ∃ kept, p.Turns own others kept (Exchange.put p.parse s (.variable name)) ∧
      p.Keeps own kept (Exchange.put p.parse s (.variable name)).after := by
  have hprepares := preparation_makeCopy laws apart s.world
  have hcopy := exec_copy_open h
  rcases hmake : p.makeCopy.exec (⟨s.world, []⟩ : Recorded W) with ⟨result, r⟩
  rw [hmake] at hprepares hcopy
  cases hprepares with
  | @failed e v steps hfailed huntouched =>
    have hput : Exchange.put p.parse s (.variable name) =
        ⟨.variable name, s, .error e, steps, ⟨v, s.memory⟩⟩ := by
      apply Exchange.put_eq
      rw [parse, Attempt.exec_bind, variableLine, Attempt.exec_bind_error hcopy]
    rw [hput]
    exact .inl ⟨.unprepared name hfailed huntouched, h⟩
  | @done kept v hready =>
    have hkeeps : p.Keeps own kept
        ⟨v, { s.memory with copies := s.memory.copies.insert p.name kept.copy }⟩ :=
      ⟨by simp, hready.ours, hready.holds⟩
    obtain ⟨hmakes, -, hafter⟩ := makes_of_copy laws name hcopy hkeeps
    exact .inr ⟨kept, ⟨name, v, hready, hmakes⟩, hafter⟩

/-! ## All questions -/

/-- The package's own file is as it was, up to what `make` has done, if it was run. -/
def Spares (p : RulesParser) (x : Exchange W Selector ParseOutput) : Prop :=
  ∃ v, SameAt p.rulesFile x.before.world v ∧
    (x.after.world = v ∨ ∃ command, x.after.world = ((Tool.run command p.timeout).exec v).2)

theorem Makes.spares {kept : Prepared} {name : String} {earlier : List Event}
    {x : Exchange W Selector ParseOutput} (h : p.Makes kept name v earlier x)
    (hsame : SameAt p.rulesFile x.before.world v) : p.Spares x := by
  obtain ⟨result, hrun, -⟩ := h.result
  exact ⟨v, hsame, .inr ⟨p.shows kept name, by rw [hrun]⟩⟩

/-- **One copy serves every question, and `make` is run for each.**

What happens between two questions may be anything that leaves our own files alone: the package's
file may be written, replaced or removed, and `make` may give something else each time. -/
theorem parse_copiesOnce (laws : Enclosed W own others) (p : RulesParser)
    (apart : others p.rulesFile) (w : W) (rounds : List (Round W Selector))
    (hrounds : ∀ round ∈ rounds, ∀ v path, own path → SameAt path v (round.happening v)) :
    Settles (p.Waits others) (p.Turns own others) p.Follows
      (exchanges p.parse { world := w } rounds) ∧
    ∀ x ∈ exchanges p.parse { world := w } rounds, p.Spares x := by
  have hsettles : Settles (p.Waits others) (p.Turns own others) p.Follows
      (exchanges p.parse { world := w } rounds) := by
    apply settles_exchanges (fun s => s.memory.copies.get? p.name = none) (p.Keeps own)
    · intro round _ s h
      exact h
    · intro round hround kept s h
      have hsame := hrounds round hround s.world _ h.ours
      exact ⟨h.remembered, h.ours, hsame.bytes.symm.trans h.holds⟩
    · intro s selector h
      rcases selector with stage | name
      · rw [put_stage]
        exact .inl ⟨.rejected stage s, h⟩
      · exact put_open laws apart h name
    · intro kept s selector h
      rcases selector with stage | name
      · rw [put_stage]
        exact ⟨.rejected stage s, h⟩
      · exact put_kept laws h name
    · rfl
  refine ⟨hsettles, ?_⟩
  intro x hx
  rcases hsettles.of_mem hx with hwaits | ⟨kept, hturns | hfollows⟩
  · cases hwaits with
    | rejected stage s => exact ⟨s.world, .refl _ _, .inl rfl⟩
    | @unprepared s _ _ v name _ untouched => exact ⟨v, untouched _ apart, .inl rfl⟩
  · obtain ⟨name, v, hready, hmakes⟩ := hturns
    exact hmakes.spares (hready.untouched _ apart)
  · cases hfollows with
    | rejected stage s => exact ⟨s.world, .refl _ _, .inl rfl⟩
    | makes name hmakes memory => exact hmakes.spares (.refl _ _)

/-! ### A host on which the rules go away, come back, and change -/

def widgetRules : RulesParser where
  name := "rules"
  sourceDir := "/build/widget"
  rulesFile := "/build/widget/debian/rules"
  make := "make"
  timeout := .ofSeconds 10

/-- The package's file gets these bytes or goes away, and `make` works from now on or does not. -/
def changed (rules : Option String) (fault : Option ToolRun) (w : FileHost) : FileHost :=
  { w.put widgetRules.rulesFile (rules.map String.toUTF8) with fault }

def widgetRounds : List (Round FileHost Selector) := [
  ⟨changed none none, .stage .linker⟩,
  ⟨id, .variable "CFLAGS"⟩,
  ⟨changed (some "CFLAGS = -O2 -g\n") (some .overran), .variable "CFLAGS"⟩,
  ⟨changed (some "CFLAGS = -O0\n") none, .variable "CFLAGS"⟩]

theorem sameAt_changed {path : String} (h : FileHost.Own path) (rules : Option String)
    (fault : Option ToolRun) (w : FileHost) : SameAt path w (changed rules fault w) := by
  have hne : path ≠ widgetRules.rulesFile := by
    intro heq
    have hrules : ¬ FileHost.Own widgetRules.rulesFile := by decide
    exact hrules (heq ▸ h)
  have hput := FileHost.sameAt_put hne w (rules.map String.toUTF8)
  exact ⟨hput.kind, hput.bytes⟩

theorem parse_copiesOnce_widgetRules :
    (Settles (widgetRules.Waits FileHost.Others)
        (widgetRules.Turns FileHost.Own FileHost.Others) widgetRules.Follows
        (exchanges widgetRules.parse { world := { files := fun _ => none } } widgetRounds) ∧
      ∀ x ∈ exchanges widgetRules.parse { world := { files := fun _ => none } } widgetRounds,
        widgetRules.Spares x) ∧
    (exchanges widgetRules.parse { world := ({ files := fun _ => none } : FileHost) }
      widgetRounds).map (fun x => x.outcome) = [
        .error (.unsupportedSelector "rules" (.stage .linker)),
        .error (.file "/build/widget/debian/rules" (.notFile "rules file")),
        .error (.toolTimeout
          "make -s -C /build/widget -f /tmp/rules-parser/rules print-CFLAGS" 10),
        .ok (.value "CFLAGS = -O2 -g")] := by
  constructor
  · apply parse_copiesOnce FileHost.enclosed widgetRules (by decide)
    intro round hround w path hpath
    simp only [widgetRounds, List.mem_cons, List.not_mem_nil, or_false] at hround
    obtain rfl | rfl | rfl | rfl := hround
    · exact sameAt_changed hpath _ _ w
    · exact .refl path w
    · exact sameAt_changed hpath _ _ w
    · exact sameAt_changed hpath _ _ w
  · rfl

end FeatureSurvey.RulesParser
