import FeatureSurvey.Proofs.Log.Recorded
import FeatureSurvey.Proofs.Registry.BuiltIn
import FeatureSurvey.Proofs.Run.Failing

/-!
# `Proofs/Run/Phases.lean` — two phases, two classes of errors

Some errors are the configuration's, and another attempt must fail in the same way; the others come
up at work. The two phases of a run keep them apart. **Preparing a run fails with errors of the
configuration only, and executing it with none of them** (`BuiltIn.phases`).

The first half is read off what building does (`Proofs/Registry/BuiltIn.lean`). The second half goes
through what detectors and parsers do when they are asked (`Attempt.Fails`).

Both the sort of errors and the invariant are left open. A sort has to take in what detectors and
parsers say of their own accord, and what becomes of their tools in worlds that have the invariant
(`TakesIn`); an invariant has to outlast the steps of the host (`Host.Lasts`). For the two phases
the sort is `AtWork`, and every world will do.
-/

set_option autoImplicit false

namespace FeatureSurvey

/-! ## Errors at work -/

/-- No step of the host ends it. -/
structure Host.Lasts {W : Type} [Host W] (I : W → Prop) : Prop where
  run : ∀ command timeout w, I w → I (Host.run command timeout w).2
  writeFile : ∀ path bytes w, I w → I (Host.writeFile path bytes w).2
  appendFile : ∀ path bytes w, I w → I (Host.appendFile path bytes w).2
  copyFile : ∀ source dest w, I w → I (Host.copyFile source dest w).2
  makeDirectories : ∀ path w, I w → I (Host.makeDirectories path w).2
  removeTree : ∀ path w, I w → I (Host.removeTree path w).2
  makeTemporary : ∀ front w, I w → I (Host.makeTemporary front w).2

theorem Host.lasts_true {W : Type} [Host W] : Host.Lasts fun _ : W => True := by
  constructor <;> intros <;> trivial

/-- The error is not the configuration's. -/
def AtWork (e : SurveyError) : Prop := e.isConfiguration = false

/-- An error at work that does not end the program. -/
def Ordinary (e : SurveyError) : Prop := AtWork e ∧ isFatal e = false

/-- In worlds with the invariant, the sort takes in whatever may go wrong at work while tools are
given this limit. -/
structure TakesIn {W : Type} [Host W] (I : W → Prop) (timeout : Timeout)
    (P : SurveyError → Prop) : Prop where
  lasts : Host.Lasts I
  ordinary : ∀ e, Ordinary e → P e
  late : ∀ command w, I w →
    ((Tool.run command timeout).exec w).1 = .error (.deadlineOutOfRange command.describe) →
      P (.deadlineOutOfRange command.describe)

def Parser.Fails {S : Type} (I : S → Prop) (P : SurveyError → Prop) (p : Parser S) : Prop :=
  ∀ selector, Attempt.Fails I P (p.parse selector)

def Detector.Fails {S : Type} (I : S → Prop) (P : SurveyError → Prop) (d : Detector S) : Prop :=
  ∀ feature, Attempt.Fails I P (d.detect feature)

section Tools

variable {W : Type} [Host W] {timeout : Timeout} {I : W → Prop} {P : SurveyError → Prop}

theorem Tool.judge_eq_error {command : Command} {start : Nat} {run : ToolRun} {e : SurveyError}
    (h : Tool.judge command timeout start run = .error e) :
    Ordinary e ∨ e = .deadlineOutOfRange command.describe := by
  unfold Tool.judge at h
  split at h
  · cases h
    exact .inl ⟨rfl, rfl⟩
  · split at h <;> cases h
    exact .inr rfl
  · split at h <;> cases h
    · exact .inl ⟨rfl, rfl⟩
    · exact .inr rfl
  · split at h <;> cases h
    · exact .inl ⟨rfl, rfl⟩
    · exact .inr rfl

theorem Tool.run_fails (h : TakesIn I timeout P) (command : Command) :
    Attempt.Fails I P (Tool.run command timeout : Job W ToolOutput) := by
  intro w hw
  refine ⟨h.lasts.run command timeout w hw, fun e he => ?_⟩
  rcases Tool.judge_eq_error he with hordinary | rfl
  · exact h.ordinary e hordinary
  · exact h.late command w hw he

theorem Tool.runChecked_fails (h : TakesIn I timeout P) (command : Command) :
    Attempt.Fails I P (Tool.runChecked command timeout : Job W String) := by
  refine (Tool.run_fails h command).bind fun output => .ofExcept fun e he => ?_
  unfold Tool.checked at he
  split at he <;> cases he
  exact h.ordinary _ ⟨rfl, rfl⟩

/-! ## Parsers -/

theorem BuildLogParser.read_eq_error {p : BuildLogParser} {w : W} {e : SurveyError}
    (h : p.read w = .error e) : Ordinary e := by
  unfold BuildLogParser.read at h
  split at h
  · split at h <;> cases h
    exact ⟨rfl, rfl⟩
  · cases h
    exact ⟨rfl, rfl⟩

theorem BuildLogParser.toParser_fails (own : ∀ e, Ordinary e → P e) (p : BuildLogParser) :
    (p.toParser : Parser (Session W)).Fails (fun s => I s.world) P := by
  rintro (stage | name)
  · refine Attempt.Fails.bind (fun s hs => ?_) fun lines => .pure _
    simp only [BuildLogParser.lines, Attempt.exec, ExceptT.run]
    split
    · exact ⟨hs, fun _ he => by cases he⟩
    · split
      · exact ⟨hs, fun _ he => by cases he⟩
      · rename_i hread
        refine ⟨hs, fun e he => ?_⟩
        cases he
        exact own _ (BuildLogParser.read_eq_error hread)
  · exact .fail (own _ ⟨rfl, rfl⟩)

namespace RulesParser

variable (p : RulesParser)

section Copying

variable (lasts : Host.Lasts I) (own : ∀ e, Ordinary e → P e)

include lasts own

theorem fillCopy_fails (copy : RulesCopy) :
    Attempt.Fails I P (p.fillCopy copy : Job W Unit) :=
  Attempt.Fails.bind (.step (lasts.copyFile _ _) fun _ => own _ ⟨rfl, rfl⟩) fun _ =>
    .step (lasts.appendFile _ _) fun _ => own _ ⟨rfl, rfl⟩

theorem makeCopy_fails : Attempt.Fails I P (p.makeCopy : Job W RulesCopy) := by
  refine Attempt.Fails.bind (.ask _) fun there => ?_
  split
  · refine Attempt.Fails.fail_bind ?_ _
    exact own _ ⟨rfl, rfl⟩
  · refine Attempt.Fails.bind (.ask _) fun root => ?_
    refine Attempt.Fails.bind (.step (lasts.makeTemporary _) fun _ => own _ ⟨rfl, rfl⟩)
      fun directory => ?_
    refine (p.fillCopy_fails lasts own _).outcome_bind (fun _ => .pure _) fun e he => ?_
    exact Attempt.Fails.bind (.always (lasts.removeTree _)) fun _ => .fail he

theorem copy_fails :
    Attempt.Fails (fun s => I s.world) P (p.copy : Job (Session W) RulesCopy) := by
  refine Attempt.Fails.bind (.ask _) ?_
  rintro (_ | copy)
  · refine Attempt.Fails.bind (.onWorld (p.makeCopy_fails lasts own)) fun copy => ?_
    exact Attempt.Fails.bind (.always fun _ hs => hs) fun _ => .pure _
  · exact .pure _

end Copying

theorem toParser_fails (h : TakesIn I p.timeout P) :
    (p.toParser : Parser (Session W)).Fails (fun s => I s.world) P := by
  rintro (stage | name)
  · exact .fail (h.ordinary _ ⟨rfl, rfl⟩)
  · refine Attempt.Fails.bind ?_ fun line => .pure _
    refine (p.copy_fails h.lasts h.ordinary).bind fun copy => ?_
    refine Attempt.Fails.bind (.onWorld (Tool.runChecked_fails h _)) fun stdout => .ofExcept ?_
    intro e he
    cases hline : Rules.variableLine stdout name with
    | error fault =>
      rw [hline] at he
      cases he
      exact h.ordinary _ ⟨rfl, rfl⟩
    | ok line =>
      rw [hline] at he
      cases he

end RulesParser

/-! ## Detectors -/

namespace HardeningDetector

theorem reportOf_eq_error {d : HardeningDetector} {output : ToolOutput} {e : SurveyError}
    (h : d.reportOf output = .error e) : Ordinary e := by
  unfold reportOf at h
  split at h <;> cases h
  exact ⟨rfl, rfl⟩

theorem answer_eq_error {d : HardeningDetector} {report : Table String} {feature : String}
    {e : SurveyError} (h : d.answer report feature = .error e) : Ordinary e := by
  unfold answer at h
  split at h
  · cases h
  · split at h
    · cases h
      exact ⟨rfl, rfl⟩
    · split at h <;> cases h
      exact ⟨rfl, rfl⟩

theorem toDetector_fails (d : HardeningDetector) (h : TakesIn I d.timeout P) :
    (d.toDetector : Detector (Session W)).Fails (fun s => I s.world) P := by
  intro feature
  refine Attempt.Fails.bind ?_ fun report =>
    .ofExcept fun e he => h.ordinary e (answer_eq_error he)
  refine Attempt.Fails.bind (.ask _) ?_
  rintro (_ | report)
  · refine Attempt.Fails.bind (.ask _) fun count => ?_
    refine Attempt.Fails.bind (.always fun _ hs => hs) fun _ => ?_
    refine Attempt.Fails.bind (.onWorld (Tool.run_fails h _)) fun output => ?_
    refine Attempt.Fails.bind (.ofExcept fun e he => h.ordinary e (reportOf_eq_error he))
      fun report => ?_
    exact Attempt.Fails.bind (.always fun _ hs => hs) fun _ => .pure _
  · exact .pure _

end HardeningDetector

namespace SourcePatternDetector

theorem countOf_eq_error {d : SourcePatternDetector} {pattern : String} {output : ToolOutput}
    {e : SurveyError} (h : d.countOf pattern output = .error e) : Ordinary e := by
  unfold countOf at h
  split at h
  · cases h
  · split at h <;> cases h
    exact ⟨rfl, rfl⟩

theorem detect_fails (d : SourcePatternDetector) (h : TakesIn I d.timeout P)
    (feature : String) : Attempt.Fails I P (d.detect feature : Job W FeatureValue) := by
  unfold detect
  cases d.patterns.get? feature with
  | none => exact .fail (h.ordinary _ ⟨rfl, rfl⟩)
  | some pattern =>
    refine (Tool.run_fails h _).bind fun output => ?_
    exact Attempt.Fails.bind (.ofExcept fun e he => h.ordinary e (countOf_eq_error he))
      fun count => .pure _

end SourcePatternDetector

end Tools

theorem ParseOutput.expectLines_eq_error {parser : String} {output : ParseOutput} {e : SurveyError}
    (h : output.expectLines parser = .error e) : Ordinary e := by
  cases output <;> cases h
  exact ⟨rfl, rfl⟩

theorem ParseOutput.expectValue_eq_error {parser name : String} {output : ParseOutput}
    {e : SurveyError} (h : output.expectValue parser name = .error e) : Ordinary e := by
  cases output <;> cases h
  exact ⟨rfl, rfl⟩

section OverParsers

variable {S : Type} {I : S → Prop} {P : SurveyError → Prop} {p : Parser S}

section Own

variable (own : ∀ e, Ordinary e → P e)

include own

theorem Parser.stageLines_fails (h : p.Fails I P) (stage : BuildStage) :
    Attempt.Fails I P (p.stageLines stage) :=
  (h (.stage stage)).bind fun _ => .ofExcept fun e he =>
    own e (ParseOutput.expectLines_eq_error he)

theorem Detector.aslr_fails (h : p.Fails I P) (name : String) :
    (Detector.aslr name p).Fails I P :=
  fun _ => (Parser.stageLines_fails own h .linker).bind fun _ => .pure _

theorem Detector.languageVersion_fails (h : p.Fails I P) (name : String) :
    (Detector.languageVersion name p).Fails I P :=
  fun _ => (Parser.stageLines_fails own h .all).bind fun _ => .pure _

theorem Detector.rulesFlag_fails (h : p.Fails I P) (name variableName flag : String) :
    (Detector.rulesFlag name p variableName flag).Fails I P := by
  intro feature
  refine (h (.variable variableName)).bind fun output => ?_
  exact Attempt.Fails.bind (.ofExcept fun e he => own e (ParseOutput.expectValue_eq_error he))
    fun line => .pure _

end Own

/-- What a run asks, it asks of its detectors. -/
theorem PreparedRun.askAll_fails {asked : List (String × Detector S)}
    (h : ∀ e ∈ asked, Attempt.Fails I P (e.2.detect e.1)) (record : ResultRecord) :
    Attempt.Fails I P (PreparedRun.askAll record asked) := by
  induction asked generalizing record with
  | nil => exact .pure record
  | cons entry rest ih =>
    obtain ⟨hhead, hrest⟩ := List.forall_mem_cons.1 h
    exact hhead.bind fun value => ih hrest _

end OverParsers

/-! ## The two phases -/

namespace BuiltIn

variable {W : Type} [Host W] {c : Config} {inputs : Inputs} {s : Session W}

theorem prepared (c : Config) (inputs : Inputs) (requested : List String) (s : Session W) :
    Runner.Prepared (builder c inputs) s requested
      ((Runner.prepare (builder c inputs) requested).exec s).1 :=
  (Runner.prepared registry_inert registry_named requested s).1

section Asked

variable {I : W → Prop} {P : SurveyError → Prop}

theorem BuildsParser.fails {w : W} {build : ParserBuild} {p : Parser (Session W)}
    (h : BuildsParser w build p) (hP : TakesIn I build.timeout P) :
    p.Fails (fun s => I s.world) P := by
  cases h with
  | buildLog => exact BuildLogParser.toParser_fails hP.ordinary _
  | rulesVariable => exact RulesParser.toParser_fails _ hP

theorem BuildsDetector.fails {w : W} {build : DetectorBuild (Session W)}
    {d : Detector (Session W)} (h : BuildsDetector w build d) (hP : TakesIn I build.timeout P)
    (hparser : ∀ p, build.parser = some p → p.Fails (fun s => I s.world) P) :
    d.Fails (fun s => I s.world) P := by
  cases h with
  | aslr given => exact Detector.aslr_fails hP.ordinary (hparser _ given) _
  | languageVersion given => exact Detector.languageVersion_fails hP.ordinary (hparser _ given) _
  | rulesFlag given => exact Detector.rulesFlag_fails hP.ordinary (hparser _ given) _ _ _
  | hardening => exact HardeningDetector.toDetector_fails _ hP
  | sourcePattern =>
    exact fun feature => .onWorld (SourcePatternDetector.detect_fails _ hP feature)

/-- Every tool of a run is given the limit of the configuration. -/
theorem detectorAlone_fails (hP : TakesIn I (.ofSeconds c.toolTimeout) P) {spec : DetectorSpec}
    {d : Detector (Session W)} (h : (builder c inputs).detectorAlone s spec = .ok d) :
    d.Fails (fun s => I s.world) P := by
  obtain ⟨parser, hparser, hbuilds⟩ := detectorAlone_builds h
  refine hbuilds.fails hP fun p hp => ?_
  rcases InstanceBuilder.namedParserAlone_eq_ok.1 hparser with ⟨-, rfl⟩ | ⟨name, p', -, hp', rfl⟩
  · cases hp
  · cases hp
    obtain ⟨spec', -, hbuilds'⟩ := parserAlone_builds hp'
    exact hbuilds'.fails hP

theorem execute_fails (hP : TakesIn I (.ofSeconds c.toolTimeout) P) {requested : List String}
    {run : PreparedRun (Session W)} {parsers : List String}
    (hrun : ((Runner.prepare (builder c inputs) requested).exec s).1 = .ok (run, parsers)) :
    Attempt.Fails (fun s => I s.world) P run.execute := by
  have hprepared := prepared c inputs requested s
  rw [hrun] at hprepared
  cases hprepared with
  | ready _ hanswered =>
    have hasked : ∀ entry ∈ run.answerers,
        Attempt.Fails (fun s => I s.world) P (entry.2.detect entry.1) := by
      intro entry hentry
      obtain ⟨a, -, -, halone⟩ := hanswered.exists_assignment hentry
      exact detectorAlone_fails hP halone entry.1
    rw [PreparedRun.execute_eq]
    exact PreparedRun.askAll_fails hasked .empty

end Asked

section Prepared

variable {requested : List String}

theorem prepare_unchanged (c : Config) (inputs : Inputs) (requested : List String)
    (s : Session W) : ((Runner.prepare (builder c inputs) requested).exec s).2 = s :=
  (Runner.prepared registry_inert registry_named requested s).2

theorem prepare_environment {t : Session W} (hst : Host.SameEnvironment s.world t.world) :
    OutcomesMatch Eq (fun r r' => r.1.answerers = r'.1.answerers ∧ r.2 = r'.2)
      ((Runner.prepare (builder c inputs) requested).exec s).1
      ((Runner.prepare (builder c inputs) requested).exec t).1 := by
  have hparallel := Runner.prepare_parallel (builder_parallel c inputs hst) requested
  obtain ⟨houtcome, -⟩ := hparallel s t ⟨rfl, rfl⟩
  refine houtcome.mono fun r r' hr => ⟨?_, hr.2⟩
  have heq : List.Forall₂ Eq r.1.answerers r'.1.answerers := by
    refine hr.1.answerers.imp fun e e' he => ?_
    obtain ⟨hfeature, -, -, hdetector⟩ := he
    exact Prod.ext hfeature hdetector
  rwa [List.forall₂_eq_eq_eq] at heq

theorem prepare_error {e : SurveyError}
    (he : ((Runner.prepare (builder c inputs) requested).exec s).1 = .error e) :
    e.isConfiguration = true := by
  have hprepared := prepared c inputs requested s
  rw [he] at hprepared
  cases hprepared with
  | unassigned h => exact Resolver.isConfiguration_of_assign h
  | unbuilt _ _ hfailed => exact detectorAlone_error hfailed

/-- A run fails while it is prepared or while it is executed. -/
theorem run_fails {I : W → Prop} {P : SurveyError → Prop}
    (hP : TakesIn I (.ofSeconds c.toolTimeout) P)
    (configuration : ∀ e, e.isConfiguration = true → P e) :
    Attempt.Fails (fun s => I s.world) P (Runner.run (builder c inputs) requested) := by
  intro s hs
  have hunchanged := prepare_unchanged c inputs requested s
  rcases hprepare : (Runner.prepare (builder c inputs) requested).exec s with ⟨e | r, s'⟩ <;>
    rw [hprepare] at hunchanged <;> subst hunchanged
  · rw [Runner.run, Attempt.exec_bind_error hprepare]
    refine ⟨hs, fun e' he => ?_⟩
    cases he
    exact configuration e (prepare_error (congrArg Prod.fst hprepare))
  · rw [Runner.run, Attempt.exec_bind_ok hprepare]
    exact execute_fails hP (congrArg Prod.fst hprepare) _ hs

/-- Every world will do, since the sort does not ask about the clock. -/
theorem execute_error {run : PreparedRun (Session W)} {parsers : List String}
    (hrun : ((Runner.prepare (builder c inputs) requested).exec s).1 = .ok (run, parsers))
    (t : Session W) (e : SurveyError) (he : (run.execute.exec t).1 = .error e) : AtWork e := by
  have hatWork : TakesIn (fun _ : W => True) (.ofSeconds c.toolTimeout) AtWork :=
    ⟨Host.lasts_true, fun _ h => h.1, fun _ _ _ _ => rfl⟩
  exact (execute_fails hatWork hrun t trivial).2 e he

/-- A run can be prepared when its request resolves to detectors that are ready. -/
theorem prepare_ok_iff :
    (∃ r, ((Runner.prepare (builder c inputs) requested).exec s).1 = .ok r) ↔
      ∃ selected, Resolver.resolve c (c.featuresOrDefault requested) = .ok selected ∧
        ∀ d ∈ selected, DetectorReady c inputs d := by
  have hprepared := prepared c inputs requested s
  generalize ((Runner.prepare (builder c inputs) requested).exec s).1 = outcome at hprepared ⊢
  cases hprepared with
  | unassigned h =>
    have herror := Resolver.resolve_eq_error_iff.2 h
    constructor
    · rintro ⟨r, hr⟩
      cases hr
    · rintro ⟨selected, hselected, -⟩
      cases hselected.symm.trans herror
  | @unbuilt assignments a e h ha hfailed =>
    have hd : a.detector ∈ (assignments.map (·.detector)).eraseDups :=
      List.mem_eraseDups.2 (List.mem_map_of_mem ha)
    constructor
    · rintro ⟨r, hr⟩
      cases hr
    · rintro ⟨selected, hselected, hready⟩
      cases hselected.symm.trans (Resolver.resolve_eq_ok h)
      obtain ⟨d, hd⟩ := (detectorAlone_ok_iff (s := s)).2 (hready a.detector hd)
      cases hfailed.symm.trans hd
  | ready h hanswered =>
    refine ⟨fun _ => ⟨_, Resolver.resolve_eq_ok h, fun d hd => ?_⟩, fun _ => ⟨_, rfl⟩⟩
    obtain ⟨a, ha, rfl⟩ := List.mem_map.1 (List.mem_eraseDups.1 hd)
    exact detectorAlone_ok_iff.1 (hanswered.exists_detector ha)

end Prepared

/-- What the two phases of a run may and may not do. -/
structure Phases (W : Type) [Host W] (c : Config) (inputs : Inputs) (requested : List String) :
    Prop where
  /-- Preparing leaves the world and what is remembered as they are. -/
  unchanged : ∀ s : Session W, ((Runner.prepare (builder c inputs) requested).exec s).2 = s
  /-- A world that keeps a log of what is done in it has nothing to put down. -/
  unlogged : ∀ s : Session (Recorded W),
    Logged.log ((Runner.prepare (builder c inputs) requested).exec s).2 = Logged.log s
  /-- Preparing reads the environment and nothing else. -/
  environment : ∀ s t : Session W, Host.SameEnvironment s.world t.world →
    OutcomesMatch Eq (fun r r' => r.1.answerers = r'.1.answerers ∧ r.2 = r'.2)
      ((Runner.prepare (builder c inputs) requested).exec s).1
      ((Runner.prepare (builder c inputs) requested).exec t).1
  prepare_error : ∀ (s : Session W) e,
    ((Runner.prepare (builder c inputs) requested).exec s).1 = .error e →
      e.isConfiguration = true
  execute_error : ∀ (s : Session W) run parsers,
    ((Runner.prepare (builder c inputs) requested).exec s).1 = .ok (run, parsers) →
      ∀ (t : Session W) e, (run.execute.exec t).1 = .error e → e.isConfiguration = false
  /-- Preparing succeeds when the request resolves to detectors that are ready. -/
  ready_iff : ∀ s : Session W,
    (∃ r, ((Runner.prepare (builder c inputs) requested).exec s).1 = .ok r) ↔
      ∃ selected, Resolver.resolve c (c.featuresOrDefault requested) = .ok selected ∧
        ∀ d ∈ selected, DetectorReady c inputs d

/-- **Preparing fails with errors of the configuration only, and executing with none of them.** -/
theorem phases (c : Config) (inputs : Inputs) (requested : List String) :
    Phases W c inputs requested where
  unchanged s := prepare_unchanged c inputs requested s
  unlogged s := by rw [prepare_unchanged c inputs requested s]
  environment _ _ hst := prepare_environment hst
  prepare_error _ _ he := prepare_error he
  execute_error _ _ _ hrun t e he := execute_error hrun t e he
  ready_iff _ := prepare_ok_iff

end BuiltIn

end FeatureSurvey
