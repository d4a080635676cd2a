import FeatureSurvey.Proofs.Batch.View
import FeatureSurvey.Proofs.Data.Table
import FeatureSurvey.Proofs.Run.Composition
import FeatureSurvey.Proofs.Run.Phases

/-!
# `Proofs/Batch/Sessions.lean` — runs in worlds that are alike

In two worlds that are alike a run does the same. What has to be kept on the way is more than that:
the sessions must remember the same, and a copy of rules, which goes by another name in each world,
must be a copy of the same rules in both (`HostView.Beside`). At the end the copies are removed, and
since the memory knows of all of them, nothing of our own is left (`HostView.Kept`).

`HostView.Confines` says of kinds that all they build keeps to this. **The built-in kinds do**
(`BuiltIn.registry_confined`), **and so a run over them can be compared from one world to another**
(`HostView.Confines.run`).
-/

set_option autoImplicit false

namespace FeatureSurvey

namespace HostView

variable {W : Type} {l : Layout} {V : HostView W l}

/-! ## Sessions side by side -/

/-- Both are copies of the same rules. -/
def SameCopy (own own' : String → Option Holding) (copy copy' : RulesCopy) : Prop :=
  ∃ rules, own copy.makefile = some (.ready rules) ∧ own' copy'.makefile = some (.ready rules)

/-- The copy in a directory of our own. -/
def copyIn (directory : String) : RulesCopy := ⟨directory, RulesParser.makefileIn directory⟩

variable (V) in
/-- The memory knows all that our own directories hold. -/
structure Kept (own : String → Option Holding) (memory : Memory) : Prop where
  ours : ∀ {name : String} {copy : RulesCopy}, memory.copies.get? name = some copy →
    V.Ours copy.directory ∧ copy.makefile = RulesParser.makefileIn copy.directory
  known : ∀ {makefile : String}, own makefile ≠ none →
    ∃ name copy, memory.copies.get? name = some copy ∧ copy.makefile = makefile

variable (V) in
/-- The same is remembered, in worlds that are alike. -/
structure Beside (s t : Session W) : Prop where
  alike : V.Alike (V.own s.world) (V.own t.world) s.world t.world
  logs : s.memory.logs = t.memory.logs
  reports : s.memory.reports = t.memory.reports
  audits : s.memory.audits = t.memory.audits
  copies : ∀ name, Option.Rel (SameCopy (V.own s.world) (V.own t.world))
    (s.memory.copies.get? name) (t.memory.copies.get? name)
  kept : V.Kept (V.own s.world) s.memory
  kept' : V.Kept (V.own t.world) t.memory

theorem Beside.start {w v : W} (h : V.Same w v) :
    V.Beside { world := w } { world := v } where
  alike := by
    rw [h.own, h.own']
    exact h
  logs := rfl
  reports := rfl
  audits := rfl
  copies _ := .none
  kept := ⟨fun hcopy => absurd hcopy nofun, fun hheld => absurd (congrFun h.own _) hheld⟩
  kept' := ⟨fun hcopy => absurd hcopy nofun, fun hheld => absurd (congrFun h.own' _) hheld⟩

variable {s t : Session W}

/-- The worlds move on, and our own directories hold what they held. -/
theorem Beside.withWorlds (h : V.Beside s t) {w v : W}
    (alike : V.Alike (V.own s.world) (V.own t.world) w v) :
    V.Beside { s with world := w } { t with world := v } := by
  have hown := alike.own
  have hown' := alike.own'
  constructor
  · rw [hown, hown']
    exact alike
  · exact h.logs
  · exact h.reports
  · exact h.audits
  · rw [hown, hown']
    exact h.copies
  · rw [hown]
    exact h.kept
  · rw [hown']
    exact h.kept'

/-- Something else than a copy is remembered. -/
theorem Beside.withMemory (h : V.Beside s t) {memory memory' : Memory}
    (logs : memory.logs = memory'.logs) (reports : memory.reports = memory'.reports)
    (audits : memory.audits = memory'.audits) (copies : memory.copies = s.memory.copies)
    (copies' : memory'.copies = t.memory.copies) :
    V.Beside { s with memory } { t with memory := memory' } where
  alike := h.alike
  logs := logs
  reports := reports
  audits := audits
  copies := by
    rw [copies, copies']
    exact h.copies
  kept := ⟨copies ▸ h.kept.ours, copies ▸ h.kept.known⟩
  kept' := ⟨copies' ▸ h.kept'.ours, copies' ▸ h.kept'.known⟩

/-- One more copy is made, and remembered. -/
theorem Kept.insert {own : String → Option Holding} {memory : Memory} (h : V.Kept own memory)
    {name directory : String} {holding : Holding} (unknown : memory.copies.get? name = none)
    (new : V.New own directory) :
    V.Kept (Function.update own (RulesParser.makefileIn directory) (some holding))
      { memory with copies := memory.copies.insert name (copyIn directory) } where
  ours hcopy := by
    rw [Table.get?_insert] at hcopy
    split at hcopy
    · cases hcopy
      exact ⟨new.ours, rfl⟩
    · exact h.ours hcopy
  known {makefile} hheld := by
    by_cases heq : makefile = RulesParser.makefileIn directory
    · exact ⟨name, _, by rw [Table.get?_insert, if_pos rfl], heq.symm⟩
    · rw [Function.update_of_ne heq] at hheld
      obtain ⟨other, copy, hcopy, hmakefile⟩ := h.known hheld
      have hne : other ≠ name := by
        rintro rfl
        rw [unknown] at hcopy
        cases hcopy
      exact ⟨other, copy, by rw [Table.get?_insert, if_neg hne, hcopy], hmakefile⟩

/-- Old copies stay what they are when a new directory is filled. -/
theorem SameCopy.update {own own' : String → Option Holding} {copy copy' : RulesCopy}
    (h : SameCopy own own' copy copy') {directory directory' : String} {holding : Holding}
    (new : V.New own directory) (new' : V.New own' directory') :
    SameCopy (Function.update own (RulesParser.makefileIn directory) (some holding))
      (Function.update own' (RulesParser.makefileIn directory') (some holding)) copy copy' := by
  obtain ⟨rules, hready, hready'⟩ := h
  have hne {own : String → Option Holding} {copy : RulesCopy} {directory : String}
      (hready : own copy.makefile = some (.ready rules)) (new : V.New own directory) :
      copy.makefile ≠ RulesParser.makefileIn directory := by
    intro heq
    rw [heq, new.unused] at hready
    cases hready
  exact ⟨rules, by rw [Function.update_of_ne (hne hready new), hready],
    by rw [Function.update_of_ne (hne hready' new'), hready']⟩

theorem Beside.withCopies (h : V.Beside s t) {name directory directory' rules : String} {w v : W}
    (unknown : s.memory.copies.get? name = none) (unknown' : t.memory.copies.get? name = none)
    (new : V.New (V.own s.world) directory) (new' : V.New (V.own t.world) directory')
    (alike : V.Alike
      (Function.update (V.own s.world) (RulesParser.makefileIn directory) (some (.ready rules)))
      (Function.update (V.own t.world) (RulesParser.makefileIn directory') (some (.ready rules)))
      w v) :
    V.Beside
      ⟨w, { s.memory with copies := s.memory.copies.insert name (copyIn directory) }⟩
      ⟨v, { t.memory with copies := t.memory.copies.insert name (copyIn directory') }⟩ := by
  have hown := alike.own
  have hown' := alike.own'
  constructor
  · rw [hown, hown']
    exact alike
  · exact h.logs
  · exact h.reports
  · exact h.audits
  · intro asked
    simp only [hown, hown', Table.get?_insert]
    split
    · exact .some ⟨rules, Function.update_self .., Function.update_self ..⟩
    · have hasked := h.copies asked
      generalize s.memory.copies.get? asked = copy? at hasked
      generalize t.memory.copies.get? asked = copy?' at hasked
      cases hasked with
      | none => exact .none
      | some hsame => exact .some (hsame.update new new')
  · rw [hown]
    exact h.kept.insert unknown new
  · rw [hown']
    exact h.kept'.insert unknown' new'

/-! ## Jobs on the world -/

theorem Beside.onWorld (h : V.Beside s t) {α β : Type} {R : α → β → Prop} {job : Job W α}
    {job' : Job W β}
    (matches' : Attempt.Matches (V.Alike (V.own s.world) (V.own t.world)) NeitherFatal R job job') :
    OutcomesMatch NeitherFatal R ((Session.onWorld job).exec s).1
        ((Session.onWorld job').exec t).1 ∧
      V.Beside ((Session.onWorld job).exec s).2 ((Session.onWorld job').exec t).2 := by
  obtain ⟨houtcome, halike⟩ := matches' s.world t.world h.alike
  exact ⟨houtcome, h.withWorlds halike⟩

theorem onWorld_matches {α : Type} {job : Job W α}
    (h : ∀ s t : Session W, V.Beside s t →
      Attempt.Matches (V.Alike (V.own s.world) (V.own t.world)) NeitherFatal Eq job job) :
    Attempt.Matches V.Beside NeitherFatal Eq (Session.onWorld job) (Session.onWorld job) :=
  fun s t hst => hst.onWorld (h s t hst)

theorem seen_text {own : String → Option Holding} {command : Command}
    (h : ∀ a ∈ command.arguments, own a = none) : CommandLine.seen own command =
      ⟨command.program, command.arguments.map .text, command.directory⟩ := by
  have hword : ∀ a ∈ command.arguments, Word.seen own a = .text a := by
    intro a ha
    rw [Word.seen, h a ha]
  rw [CommandLine.seen, List.map_congr_left hword]

theorem Knows.of_apart {own : String → Option Holding} {command : Command}
    (h : ∀ a ∈ command.arguments, V.Apart a) : V.Knows own command := .inr fun a ha => .inl (h a ha)

variable [Host W]

/-- A command all of whose words are in use is seen alike. -/
theorem Alike.seen (laws : V.Laws) {own own' : String → Option Holding} {w v : W}
    (h : V.Alike own own' w v) {command : Command} (apart : ∀ a ∈ command.arguments, V.Apart a) :
    CommandLine.seen own command = CommandLine.seen own' command := by
  rw [seen_text fun a ha => (h.unused laws (apart a ha)).1,
    seen_text fun a ha => (h.unused laws (apart a ha)).2]

section Commands

variable {own own' : String → Option Holding} {command command' : Command} {timeout : Timeout}

theorem run_matches (laws : V.Laws) (limit : V.Limit timeout) (known : V.Knows own command)
    (known' : V.Knows own' command')
    (h : CommandLine.seen own command = CommandLine.seen own' command') :
    Attempt.Matches (V.Alike own own') NeitherFatal Eq
      (Tool.run command timeout : Job W ToolOutput) (Tool.run command' timeout) := by
  intro w v halike
  obtain ⟨hanswer, hafter⟩ := laws.run halike known known' h limit
  refine ⟨.of_toOption hanswer (fun e he => ?_) (fun e he => ?_), hafter⟩
  · exact Tool.isFatal_of_judge (laws.inTime halike.settled limit) he
  · exact Tool.isFatal_of_judge (laws.inTime halike.settled' limit) he

theorem runChecked_matches (laws : V.Laws) (limit : V.Limit timeout) (known : V.Knows own command)
    (known' : V.Knows own' command')
    (h : CommandLine.seen own command = CommandLine.seen own' command') :
    Attempt.Matches (V.Alike own own') NeitherFatal Eq
      (Tool.runChecked command timeout : Job W String) (Tool.runChecked command' timeout) := by
  refine (run_matches laws limit known known' h).bind_eq fun output => ?_
  refine .ofExcept (.of_toOption ?_ (fun _ he => Tool.isFatal_of_checked he) fun _ he =>
    Tool.isFatal_of_checked he)
  rw [Tool.checked, Tool.checked]
  split <;> rfl

end Commands

/-! ## Copies of rules -/

section Copies

variable {own own' : String → Option Holding} {w v : W} {p : RulesParser}

theorem fillCopy_filled (laws : V.Laws) (h : V.Alike own own' w v) (apart : V.Apart p.rulesFile)
    (copy copy' : RulesCopy) (hempty : own copy.makefile = some .empty)
    (hempty' : own' copy'.makefile = some .empty) :
    V.Filled own own' copy.makefile copy'.makefile (.ready p.rulesFile) ((p.fillCopy copy).exec w)
      ((p.fillCopy copy').exec v) := by
  have hcopied := laws.copyFile h apart hempty hempty'
  unfold RulesParser.fillCopy
  rcases hcopy : Host.copyFile p.rulesFile copy.makefile w with ⟨r, w₁⟩
  rcases hcopy' : Host.copyFile p.rulesFile copy'.makefile v with ⟨r', v₁⟩
  rw [hcopy, hcopy'] at hcopied
  cases hcopied with
  | failed halike =>
    rw [Attempt.exec_step_bind_error hcopy, Attempt.exec_step_bind_error hcopy']
    exact .failed halike
  | done halike =>
    rw [Attempt.exec_step_bind_ok hcopy, Attempt.exec_step_bind_ok hcopy', Attempt.exec_step,
      Attempt.exec_step]
    have happended := laws.appendFile halike (Function.update_self ..) (Function.update_self ..)
    exact happended.over.mapError _ _

/-- A directory that was new and is removed again leaves nothing. -/
theorem Alike.removeNew (laws : V.Laws) {directory directory' : String}
    {left left' : Option Holding} (new : V.New own directory) (new' : V.New own' directory')
    (h : V.Alike (Function.update own (RulesParser.makefileIn directory) left)
      (Function.update own' (RulesParser.makefileIn directory') left') w v) :
    V.Alike own own' (Host.removeTree directory w).2 (Host.removeTree directory' v).2 := by
  obtain ⟨hsettled, hinside, hown⟩ := laws.removeOwn h.settled new.ours
  obtain ⟨hsettled', hinside', hown'⟩ := laws.removeOwn h.settled' new'.ours
  refine ⟨hsettled, hsettled', fun x hx => ?_, ?_, ?_⟩
  · rw [hinside x hx, hinside' x hx, h.inside x hx]
  · rw [hown, h.own, Function.update_idem, ← new.unused, Function.update_eq_self]
  · rw [hown', h.own', Function.update_idem, ← new'.unused, Function.update_eq_self]

theorem makeCopy_made (laws : V.Laws) (h : V.Alike own own' w v) (apart : V.Apart p.rulesFile) :
    V.Made own own' (.ready p.rulesFile) copyIn (p.makeCopy.exec w) (p.makeCopy.exec v) := by
  have hthere := (laws.look h apart).1
  unfold RulesParser.makeCopy
  rw [Attempt.exec_bind, Attempt.exec_bind, Attempt.exec_ask, Attempt.exec_ask, ← hthere]
  cases Host.isFile w p.rulesFile with
  | false => exact .failed h
  | true =>
    simp only [Bool.not_true, Bool.false_eq_true, if_false, Attempt.exec_bind, Attempt.exec_ask,
      Attempt.exec_step, Attempt.exec_always, Attempt.outcome]
    have hmade := laws.makeTemporary h
    generalize Host.makeTemporary RulesParser.directoryName w = result at hmade
    generalize Host.makeTemporary RulesParser.directoryName v = result' at hmade
    cases hmade with
    | failed halike => exact .failed halike
    | @done directory directory' w₁ v₁ new new' halike =>
      simp only [id, Except.mapError]
      have hfilled := (fillCopy_filled laws halike apart (copyIn directory) (copyIn directory')
        (Function.update_self ..) (Function.update_self ..)).over
      simp only [copyIn, RulesParser.makefileIn] at hfilled
      generalize (p.fillCopy ⟨directory, Path.join directory "rules"⟩).exec w₁ = result at hfilled
      generalize (p.fillCopy ⟨directory', Path.join directory' "rules"⟩).exec v₁ = result'
        at hfilled
      cases hfilled with
      | done halike => exact .done new new' halike
      | failed halike => exact .failed (halike.removeNew laws new new')

/-- The copies of two sessions, made now or before. -/
theorem copy_beside (laws : V.Laws) (apart : V.Apart p.rulesFile) {s t : Session W}
    (h : V.Beside s t) :
    OutcomesMatch NeitherFatal
        (SameCopy (V.own (p.copy.exec s).2.world) (V.own (p.copy.exec t).2.world))
        (p.copy.exec s).1 (p.copy.exec t).1 ∧
      V.Beside (p.copy.exec s).2 (p.copy.exec t).2 := by
  have hcopies := h.copies p.name
  have hordinary := p.makeCopy_fails (I := fun _ : W => True) (P := fun e => isFatal e = false)
    Host.lasts_true fun _ he => he.2
  unfold RulesParser.copy
  simp only [Attempt.exec_bind, Attempt.exec_ask]
  -- either both remember a copy of the same rules, or both make one now
  rcases hcopy : s.memory.copies.get? p.name with _ | copy <;>
    rcases hcopy' : t.memory.copies.get? p.name with _ | copy' <;> rw [hcopy, hcopy'] at hcopies
  · have hmade := makeCopy_made laws h.alike apart
    obtain ⟨-, hs⟩ := hordinary s.world trivial
    obtain ⟨-, ht⟩ := hordinary t.world trivial
    simp only [Attempt.exec_bind, Session.exec_onWorld]
    generalize p.makeCopy.exec s.world = result at hmade hs
    generalize p.makeCopy.exec t.world = result' at hmade ht
    cases hmade with
    | failed halike => exact ⟨.error ⟨hs _ rfl, ht _ rfl⟩, h.withWorlds halike⟩
    | done new new' halike =>
      refine ⟨.ok ⟨p.rulesFile, ?_, ?_⟩, h.withCopies hcopy hcopy' new new' halike⟩
      · exact (congrFun halike.own _).trans (Function.update_self ..)
      · exact (congrFun halike.own' _).trans (Function.update_self ..)
  · cases hcopies
  · cases hcopies
  · cases hcopies with
    | some hsame => exact ⟨.ok hsame, h⟩

omit [Host W] in
/-- Of a command on a copy, every word is in use but the name of the copy. -/
theorem knows_command {variableName : String}
    (apartWords : ∀ a ∈ ["-s", "-C", p.sourceDir, "-f", "print-" ++ variableName], V.Apart a)
    {copy : RulesCopy} {holding : Holding} (held : own copy.makefile = some holding) :
    V.Knows own (p.command copy variableName) := by
  refine .inr fun a ha => ?_
  have hwords : a ∈ ["-s", "-C", p.sourceDir, "-f", "print-" ++ variableName] ∨
      a = copy.makefile := by
    simp only [RulesParser.command, List.mem_cons, List.not_mem_nil, or_false] at ha ⊢
    tauto
  rcases hwords with hword | rfl
  · exact .inl (apartWords a hword)
  · exact .inr (by rw [held]; exact Option.some_ne_none _)

theorem variableLine_matches (laws : V.Laws) (limit : V.Limit p.timeout)
    (apart : V.Apart p.rulesFile) {variableName : String}
    (apartWords : ∀ a ∈ ["-s", "-C", p.sourceDir, "-f", "print-" ++ variableName], V.Apart a) :
    Attempt.Matches V.Beside NeitherFatal Eq
      (p.variableLine variableName : Job (Session W) String) (p.variableLine variableName) := by
  intro s t h
  obtain ⟨hcopied, h'⟩ := copy_beside laws apart h
  refine Attempt.exec_bind_matches hcopied h' fun copy copy' hsame => ?_
  obtain ⟨rules, hready, hready'⟩ := hsame
  -- the makefile goes by two names, but it is seen as the same copy
  have hseen : CommandLine.seen (V.own (p.copy.exec s).2.world) (p.command copy variableName) =
      CommandLine.seen (V.own (p.copy.exec t).2.world) (p.command copy' variableName) := by
    have htext (a : String) (ha : a ∈ ["-s", "-C", p.sourceDir, "-f", "print-" ++ variableName]) :
        Word.seen (V.own (p.copy.exec s).2.world) a = .text a ∧
          Word.seen (V.own (p.copy.exec t).2.world) a = .text a := by
      obtain ⟨hunused, hunused'⟩ := h'.alike.unused laws (apartWords a ha)
      rw [Word.seen, Word.seen, hunused, hunused']
      exact ⟨rfl, rfl⟩
    have hmakefile : Word.seen (V.own (p.copy.exec s).2.world) copy.makefile =
        Word.seen (V.own (p.copy.exec t).2.world) copy'.makefile := by
      rw [Word.seen, Word.seen, hready, hready']
    simp [CommandLine.seen, RulesParser.command, htext, hmakefile]
  have hknown := knows_command apartWords hready
  have hknown' := knows_command apartWords hready'
  obtain ⟨hshown, h''⟩ := h'.onWorld (runChecked_matches laws limit hknown hknown' hseen)
  refine Attempt.exec_bind_matches hshown h'' fun stdout stdout' hstdout => ?_
  subst hstdout
  rw [Attempt.exec_ofExcept, Attempt.exec_ofExcept]
  refine ⟨?_, h''⟩
  cases Rules.variableLine stdout variableName with
  | error fault => exact .error ⟨rfl, rfl⟩
  | ok line => exact .ok rfl

end Copies

/-! ## Logs, reports and searches -/

theorem read_toOption (laws : V.Laws) {own own' : String → Option Holding} {w v : W}
    (h : V.Alike own own' w v) {p : BuildLogParser} (apart : V.Apart p.log) :
    (p.read w).toOption = (p.read v).toOption := by
  obtain ⟨hthere, hsame⟩ := laws.look h apart
  rw [BuildLogParser.read, BuildLogParser.read, ← hthere]
  by_cases hfile : Host.isFile w p.log
  · simp only [hfile, if_true, hsame hfile]
  · simp only [hfile, Bool.false_eq_true, if_false]

theorem logLines_matches (laws : V.Laws) {p : BuildLogParser} (apart : V.Apart p.log) :
    Attempt.Matches V.Beside NeitherFatal Eq (p.lines : Job (Session W) CompilerLines) p.lines := by
  intro s t h
  have hread := read_toOption laws h.alike apart
  simp only [Attempt.exec, ExceptT.run, BuildLogParser.lines, ← h.logs]
  cases s.memory.logs.get? p.name with
  | some lines => exact ⟨.ok rfl, h⟩
  | none =>
    rcases hlines : p.read s.world with e | lines <;>
      rcases hlines' : p.read t.world with e' | lines' <;> rw [hlines, hlines'] at hread
    · have hordinary := (BuildLogParser.read_eq_error hlines).2
      exact ⟨.error ⟨hordinary, (BuildLogParser.read_eq_error hlines').2⟩, h⟩
    · cases hread
    · cases hread
    · cases hread
      exact ⟨.ok rfl, h.withMemory rfl h.reports h.audits rfl rfl⟩

theorem report_matches (laws : V.Laws) {d : HardeningDetector} (limit : V.Limit d.timeout)
    (apart : V.Apart d.binary) :
    Attempt.Matches V.Beside NeitherFatal Eq (d.report : Job (Session W) (Table String))
      d.report := by
  have hcommand : ∀ a ∈ d.command.arguments, V.Apart a := by
    intro a ha
    rw [List.mem_singleton.1 ha]
    exact apart
  refine Attempt.Matches.bind_eq (.ask fun s t h => by rw [h.reports]) fun kept => ?_
  cases kept with
  | some report => exact .pure rfl
  | none =>
    refine Attempt.Matches.bind_eq (.ask fun s t h => ?_) fun count => ?_
    · rw [HardeningDetector.invocations, HardeningDetector.invocations, h.audits]
    refine Attempt.Matches.bind_eq (.always fun s t h => ⟨rfl, ?_⟩) fun _ => ?_
    · exact h.withMemory h.logs h.reports (congrArg (·.insert d.name (count + 1)) h.audits) rfl rfl
    have hrun : Attempt.Matches V.Beside NeitherFatal Eq
        (Session.onWorld (Tool.run d.command d.timeout) : Job (Session W) ToolOutput)
        (Session.onWorld (Tool.run d.command d.timeout)) :=
      onWorld_matches fun s t h => run_matches laws limit (.of_apart hcommand) (.of_apart hcommand)
        (h.alike.seen laws hcommand)
    refine hrun.bind_eq fun output => Attempt.Matches.bind_eq (.ofExcept_self fun e he =>
      (HardeningDetector.reportOf_eq_error he).2) fun report => ?_
    refine Attempt.Matches.bind_eq (.always fun s t h => ⟨rfl, ?_⟩) fun _ => .pure rfl
    exact h.withMemory h.logs (congrArg (·.insert d.name report) h.reports) h.audits rfl rfl

theorem search_matches (laws : V.Laws) {d : SourcePatternDetector} (limit : V.Limit d.timeout)
    {feature : String}
    (apart : ∀ pattern, d.patterns.get? feature = some pattern →
      ∀ a ∈ (d.command pattern).arguments, V.Apart a) :
    Attempt.Matches V.Beside NeitherFatal Eq
      (Session.onWorld (d.detect feature) : Job (Session W) FeatureValue)
      (Session.onWorld (d.detect feature)) := by
  refine onWorld_matches fun s t h => ?_
  unfold SourcePatternDetector.detect
  cases hpattern : d.patterns.get? feature with
  | none => exact .fail ⟨rfl, rfl⟩
  | some pattern =>
    have happart := apart pattern hpattern
    refine (run_matches laws limit (.of_apart happart) (.of_apart happart)
      (h.alike.seen laws happart)).bind_eq fun output => ?_
    refine Attempt.Matches.bind_eq (.ofExcept_self fun e he => ?_) fun count => ?_
    · exact (SourcePatternDetector.countOf_eq_error he).2
    exact .pure rfl

/-! ## Runs -/

section Copies

variable {w : W}

/-- At the end of a run nothing of our own is left. -/
theorem removeCopies_clear (laws : V.Laws) (hw : V.Settled w) {memory : Memory}
    (kept : V.Kept (V.own w) memory) : V.Clear (Session.removeCopies memory w) ∧
      ∀ x, l.Inside V.here x →
        (V.tree (Session.removeCopies memory w)).entryAt? x = (V.tree w).entryAt? x := by
  have hours : ∀ copy ∈ memory.copies.values,
      V.Ours copy.directory ∧ copy.makefile = RulesParser.makefileIn copy.directory := by
    intro copy hcopy
    obtain ⟨e, he, rfl⟩ := List.mem_map.1 hcopy
    exact kept.ours (Table.mem_entries_iff.1 he)
  have hknown : ∀ makefile, V.own w makefile ≠ none →
      ∃ copy ∈ memory.copies.values, copy.makefile = makefile := by
    intro makefile hheld
    obtain ⟨name, copy, hcopy, hmakefile⟩ := kept.known hheld
    have he : (name, copy) ∈ memory.copies.entries := Table.mem_entries_iff.2 hcopy
    exact ⟨copy, List.mem_map_of_mem he, hmakefile⟩
  unfold Session.removeCopies
  generalize memory.copies.values = copies at hours hknown
  clear kept
  -- each step unmakes one directory, so what is still held is known from the copies that remain
  induction copies generalizing w with
  | nil =>
    refine ⟨⟨hw, funext fun makefile => ?_⟩, fun _ _ => rfl⟩
    refine Decidable.byContradiction fun hheld => ?_
    obtain ⟨copy, hcopy, -⟩ := hknown makefile hheld
    exact List.not_mem_nil hcopy
  | cons copy rest ih =>
    obtain ⟨⟨hdirectory, hmakefile⟩, hrest⟩ := List.forall_mem_cons.1 hours
    obtain ⟨hsettled, hinside, hown⟩ := laws.removeOwn hw hdirectory
    obtain ⟨hclear, hinside'⟩ := ih hsettled hrest fun makefile hheld => by
      have hne : makefile ≠ RulesParser.makefileIn copy.directory := by
        rintro rfl
        rw [hown, Function.update_self] at hheld
        exact hheld rfl
      rw [hown, Function.update_of_ne hne] at hheld
      obtain ⟨other, hother, hsame⟩ := hknown makefile hheld
      rcases List.mem_cons.1 hother with rfl | hother
      · exact absurd (hsame.symm.trans hmakefile) hne
      · exact ⟨other, hother, hsame⟩
    exact ⟨hclear, fun x hx => (hinside' x hx).trans (hinside x hx)⟩

end Copies

variable (V) in
/-- Whatever is built of these kinds for a configuration does the same in sessions side by side. -/
def Confines (kinds : KindRegistry (Session W)) (c : Config) (inputs : Inputs) : Prop :=
  ∃ (P : Parser (Session W) → Parser (Session W) → Prop)
    (D : DetectorSpec → Detector (Session W) → Detector (Session W) → Prop),
    (⟨kinds, c, inputs⟩ : InstanceBuilder (Session W)).Parallel V.Beside NeitherFatal P D
        ⟨kinds, c, inputs⟩ ∧
      ∀ spec ∈ c.detectors, ∀ d d', D spec d d' → ∀ feature,
        Attempt.Matches V.Beside NeitherFatal Eq (d.detect feature) (d'.detect feature)

/-- **A run gives the same record in worlds that are alike, and leaves them alike.** -/
theorem Confines.run (laws : V.Laws) {kinds : KindRegistry (Session W)} {c : Config}
    {inputs : Inputs} (h : V.Confines kinds c inputs) (requested : List String) :
    Attempt.Matches V.Same NeitherFatal Eq
      (Session.run (Runner.run ⟨kinds, c, inputs⟩ requested))
      (Session.run (Runner.run ⟨kinds, c, inputs⟩ requested)) := by
  obtain ⟨P, D, hparallel, halike⟩ := h
  intro w v hwv
  obtain ⟨houtcome, hbeside⟩ := Runner.run_parallel hparallel halike requested _ _ (.start hwv)
  rw [Session.exec_run, Session.exec_run]
  obtain ⟨hclear, hinside⟩ := removeCopies_clear laws hbeside.alike.settled hbeside.kept
  obtain ⟨hclear', hinside'⟩ := removeCopies_clear laws hbeside.alike.settled' hbeside.kept'
  refine ⟨houtcome, hclear.settled, hclear'.settled, fun x hx => ?_, hclear.own, hclear'.own⟩
  rw [hinside x hx, hinside' x hx, hbeside.alike.inside x hx]

variable (V) in
/-- The parser answers alike in sessions side by side. -/
structure ParsesAlike (p : Parser (Session W)) : Prop where
  stage : ∀ stage, Attempt.Matches V.Beside NeitherFatal Eq (p.parse (.stage stage))
    (p.parse (.stage stage))
  shown : ∀ name, V.Apart ("print-" ++ name) → Attempt.Matches V.Beside NeitherFatal Eq
    (p.parse (.variable name)) (p.parse (.variable name))

omit [Host W] in
theorem ParsesAlike.stageLines {p : Parser (Session W)} (h : V.ParsesAlike p) (stage : BuildStage) :
    Attempt.Matches V.Beside NeitherFatal Eq (p.stageLines stage) (p.stageLines stage) := by
  refine (h.stage stage).bind_eq fun output => .ofExcept_self fun e he => ?_
  exact (ParseOutput.expectLines_eq_error he).2

end HostView

/-! ## The built-in kinds -/

namespace BuiltIn

variable {W : Type} [Host W] {l : Layout} {V : HostView W l} {c : Config} {inputs : Inputs} {w : W}

theorem BuildsParser.parsesAlike (laws : V.Laws) (apart : ∀ a, Mentions c inputs a → V.Apart a)
    {spec : ParserSpec} (hspec : spec ∈ c.parsers) {timeout : Timeout} (limit : V.Limit timeout)
    {p : Parser (Session W)} (h : BuildsParser w ⟨spec, inputs, timeout⟩ p) : V.ParsesAlike p := by
  cases h with
  | @buildLog log given =>
    have hlog : V.Apart log := apart log (.artifact (by simp [← given]))
    refine ⟨fun stage => ?_, fun name _ => .fail ⟨rfl, rfl⟩⟩
    refine Attempt.Matches.bind_eq (HostView.logLines_matches laws hlog) fun lines => ?_
    exact .pure rfl
  | @rulesVariable source given =>
    refine ⟨fun stage => .fail ⟨rfl, rfl⟩, fun name hname => ?_⟩
    have hwords : ∀ a ∈ ["-s", "-C", source, "-f", "print-" ++ name], V.Apart a := by
      intro a ha
      simp only [List.mem_cons, List.not_mem_nil, or_false] at ha
      rcases ha with rfl | rfl | rfl | rfl | rfl
      · exact apart _ (.flag (by simp))
      · exact apart _ (.flag (by simp))
      · exact apart _ (.artifact (by simp [← given]))
      · exact apart _ (.flag (by simp))
      · exact hname
    have hrules := apart _ (.rulesFile hspec given)
    refine (HostView.variableLine_matches laws limit hrules hwords).bind_eq fun line => ?_
    exact .pure rfl

theorem BuildsDetector.detectsAlike (laws : V.Laws)
    (apart : ∀ a, Mentions c inputs a → V.Apart a) {spec : DetectorSpec}
    (hspec : spec ∈ c.detectors) {parser : Option (Parser (Session W))}
    (hparser : ∀ p, parser = some p → V.ParsesAlike p) {timeout : Timeout}
    (limit : V.Limit timeout) {d : Detector (Session W)}
    (h : BuildsDetector w ⟨spec, inputs, parser, timeout⟩ d) (feature : String) :
    Attempt.Matches V.Beside NeitherFatal Eq (d.detect feature) (d.detect feature) := by
  cases h with
  | aslr given =>
    refine ((hparser _ given).stageLines .linker).bind_eq fun lines => ?_
    exact .pure rfl
  | languageVersion given =>
    refine ((hparser _ given).stageLines .all).bind_eq fun lines => ?_
    exact .pure rfl
  | rulesFlag given hvariable flag =>
    refine ((hparser _ given).shown _ (apart _ (.shown hspec hvariable))).bind_eq fun output => ?_
    refine Attempt.Matches.bind_eq (.ofExcept_self fun e he =>
      (ParseOutput.expectValue_eq_error he).2) fun line => ?_
    exact .pure rfl
  | @hardening binary given =>
    have hbinary : V.Apart binary := apart binary (.artifact (by simp [← given]))
    refine Attempt.Matches.bind_eq (HostView.report_matches laws limit hbinary) fun report => ?_
    exact .ofExcept_self fun e he => (HardeningDetector.answer_eq_error he).2
  | sourcePattern hdefaults given =>
    exact HostView.search_matches laws limit fun pattern hpattern a ha =>
      apart a (mentions_search hspec hdefaults given hpattern a ha)

/-- What is built with a look at nothing but the environment is built alike. -/
theorem built_matches (laws : V.Laws) {α : Type} {job : Job (Session W) α} {Good : α → Prop}
    (inert : ∀ s, (job.exec s).2 = s)
    (congr : ∀ {s t : Session W}, Host.SameEnvironment s.world t.world →
      (job.exec s).1 = (job.exec t).1)
    (error : ∀ {s e}, (job.exec s).1 = .error e → e.isConfiguration = true)
    (good : ∀ s a, (job.exec s).1 = .ok a → Good a) :
    Attempt.Matches V.Beside NeitherFatal (fun a a' => a = a' ∧ Good a) job job := by
  intro s t h
  rw [inert, inert, ← congr (laws.environment h.alike.settled h.alike.settled')]
  refine ⟨?_, h⟩
  cases hbuilt : (job.exec s).1 with
  | error e =>
    have hordinary := SurveyError.isFatal_of_isConfiguration (error hbuilt)
    exact .error ⟨hordinary, hordinary⟩
  | ok a => exact .ok ⟨rfl, good s a hbuilt⟩

/-- **The built-in kinds do the same in sessions side by side.** -/
theorem registry_confined (laws : V.Laws) (limit : V.Limit (.ofSeconds c.toolTimeout))
    (apart : ∀ a, Mentions c inputs a → V.Apart a) : V.Confines registry c inputs := by
  refine ⟨fun p p' => p = p' ∧ V.ParsesAlike p, fun spec d d' => d = d' ∧ (spec ∈ c.detectors →
    ∀ feature, Attempt.Matches V.Beside NeitherFatal Eq (d.detect feature) (d.detect feature)),
    ⟨fun e he => ?_, rfl, ?_, ?_, ?_⟩, ?_⟩
  · exact ⟨SurveyError.isFatal_of_isConfiguration he, SurveyError.isFatal_of_isConfiguration he⟩
  · intro detector name
    show OutcomesMatch _ _ ((builder c inputs).parserFactory detector name)
      ((builder c inputs).parserFactory detector name)
    cases hfound : (builder c inputs : InstanceBuilder (Session W)).parserFactory detector name with
    | error e =>
      have hordinary := SurveyError.isFatal_of_isConfiguration
        (InstanceBuilder.parserFactory_eq_error hfound)
      exact .error ⟨hordinary, hordinary⟩
    | ok found =>
      obtain ⟨hspec, hfactory⟩ := InstanceBuilder.parserFactory_eq_ok_iff.1 hfound
      have hkind := registry_parser_iff.1 hfactory
      exact .ok (built_matches laws (hkind.inert _) (hkind.congr _) hkind.error fun s p hp =>
        (hkind.builds hp).parsesAlike laws apart (Config.parser?_eq_some hspec).1 limit)
  · intro spec
    show Option.Rel _ (registry.detectors.get? spec.kind) (registry.detectors.get? spec.kind)
    cases hfactory : (registry : KindRegistry (Session W)).detectors.get? spec.kind with
    | none => exact .none
    | some factory =>
      have hkind := registry_detector_iff.1 hfactory
      refine .some fun parser parser' hparser => ?_
      have hboth : parser = parser' ∧ ∀ p, parser = some p → V.ParsesAlike p := by
        cases hparser with
        | none => exact ⟨rfl, nofun⟩
        | some hp =>
          obtain ⟨rfl, hp⟩ := hp
          exact ⟨rfl, fun p heq => Option.some.inj heq ▸ hp⟩
      obtain ⟨rfl, hp⟩ := hboth
      exact built_matches laws (hkind.inert _) (hkind.congr _) hkind.error fun s d hd hspec =>
        (hkind.builds hd).detectsAlike laws apart hspec hp limit
  · rintro spec d _ ⟨rfl, -⟩
    rfl
  · rintro spec hspec d _ ⟨rfl, hd⟩ feature
    exact hd hspec feature

end BuiltIn

end FeatureSurvey
