import FeatureSurvey.Proofs.Log.Considerate
import FeatureSurvey.Registry.BuiltIn

/-!
# `Proofs/Log/BuiltIn.lean` — the built-in kinds are considerate

The tools of the built-in kinds are `make`, the search tool and the audit. The audit needs a binary,
so on a bare source tree it is never built. The other two are given the source tree, and neither is
started with `-C`, a directory and something to do there in front: `make` gets its `-C` behind
another option. Which program stands for a tool does not matter, so a configuration may name any.
The parser of rules makes a directory of its own and keeps to it, however far it comes.

**So every query over the built-in kinds is considerate** (`Bisect.Query.considerate_of_builtIn`),
on every host.
-/

set_option autoImplicit false

namespace FeatureSurvey

/-! ## The copy of the rules -/

namespace RulesParser

variable {W : Type} [Host W]

/-- All steps change what is in this directory. -/
def InDirectory (directory : String) (es : List Event) : Prop :=
  ∀ e ∈ es, ∃ path, e.changes? = some path ∧ Path.IsIn directory path

/-- Making a directory, and then keeping to it. -/
theorem considerate_of_inDirectory {directory : String} {es : List Event}
    (h : InDirectory directory es) (dir : String) :
    Considerate dir ([.madeTemporary directoryName (.ok directory)] ++ es) := by
  refine .of_own (fun command outcome he => ?_) (ChangesOwn.append_iff.2 ⟨?_, ?_⟩)
  · rcases List.mem_append.1 he with he | he
    · cases List.mem_singleton.1 he
    · obtain ⟨path, hpath, -⟩ := h _ he
      cases hpath
  · refine .of_forall fun e he path hpath => ?_
    obtain rfl := List.mem_singleton.1 he
    cases hpath
  · refine .of_forall fun e he path hpath => ?_
    obtain ⟨path', hpath', hin⟩ := h e he
    obtain rfl : path' = path := Option.some.inj (hpath'.symm.trans hpath)
    exact ⟨directory, by simp [madeIn, Event.made?], hin⟩

/-- The copy in a directory is a file right in it. -/
theorem isIn_rules (directory : String) : Path.IsIn directory (Path.join directory "rules") :=
  .inr ⟨"rules", ⟨by decide, List.all_eq_true.1 rfl⟩, rfl⟩

theorem fillCopy_emits (p : RulesParser) (directory : String) :
    (p.fillCopy ⟨directory, Path.join directory "rules"⟩ : Job (Recorded W) Unit).Emits
      fun _ es => InDirectory directory es := by
  have single {e : Event} {path : String} (he : e.changes? = some path)
      (hin : Path.IsIn directory path) : InDirectory directory [e] := by
    intro e' he'
    obtain rfl := List.mem_singleton.1 he'
    exact ⟨path, he, hin⟩
  have copied : (Attempt.step (.file p.rulesFile)
      (Host.copyFile p.rulesFile (Path.join directory "rules")) : Job (Recorded W) Unit).Emits
        fun _ es => InDirectory directory es :=
    .step (emits_logging fun _ _ => single rfl (isIn_rules directory))
  refine copied.bind (fun _ _ h => h) fun _ es h => .step ?_
  refine emits_logging fun _ _ e he => ?_
  rcases List.mem_append.1 he with he | he
  · exact h e he
  · exact single rfl (isIn_rules directory) e he

/-- However far a copy gets, it is made considerately, and what is handed back is in a directory
made for it. -/
theorem makeCopy_emits (p : RulesParser) (dir : String) :
    (p.makeCopy : Job (Recorded W) RulesCopy).Emits fun r es =>
      Considerate dir es ∧ ∀ copy, r = .ok copy → copy.directory ∈ madeIn es := by
  refine Attempt.Emits.bind (P := fun r es => es = [] ∧ ∀ e, r ≠ .error e)
    (.ask fun there => ⟨rfl, nofun⟩) (fun e _ h => absurd rfl (h.2 e)) ?_
  rintro there es ⟨rfl, -⟩
  cases there with
  | false =>
    refine Attempt.Emits.bind (P := fun r es => es = [] ∧ ∀ a, r ≠ .ok a) (.fail ⟨rfl, nofun⟩) ?_
      fun a _ h => absurd rfl (h.2 a)
    rintro e es ⟨rfl, -⟩
    exact ⟨.nil, nofun⟩
  | true =>
    refine Attempt.Emits.bind (P := fun r es => es = [] ∧ ∀ e, r ≠ .error e)
      (.ask fun root => ⟨rfl, nofun⟩) (fun e _ h => absurd rfl (h.2 e)) ?_
    rintro root es ⟨rfl, -⟩
    refine Attempt.Emits.bind (P := fun r es => ∃ made,
        es = [.madeTemporary directoryName made] ∧ r = made.mapError (SurveyError.file root))
      (.step ((makeTemporary_emits directoryName).mono fun made es h => ⟨made, h, rfl⟩)) ?_ ?_
    · rintro e es ⟨made, rfl, -⟩
      refine ⟨.of_own (by simp) (.of_forall fun e he path hpath => ?_), nofun⟩
      obtain rfl := List.mem_singleton.1 he
      cases hpath
    · rintro directory es ⟨made, rfl, h⟩
      obtain rfl : made = .ok directory := by
        cases made with
        | error cause => cases h
        | ok directory => exact congrArg _ (Except.ok.inj h).symm
      refine Attempt.Emits.bind (P := fun r es => InDirectory directory es ∧ ∀ e, r ≠ .error e)
        (.always ((p.fillCopy_emits directory).mono fun _ _ h => ⟨h, nofun⟩))
        (fun e _ h => absurd rfl (h.2 e)) ?_
      rintro (e | ⟨⟩) es ⟨hfilled, -⟩
      · -- what could not be filled is removed again
        refine Attempt.Emits.bind (P := fun _ es => InDirectory directory es)
          (.always ((removeTree_emits directory).mono ?_)) ?_ ?_
        · rintro removal es rfl e he
          obtain rfl := List.mem_singleton.1 he
          exact ⟨directory, rfl, .inl rfl⟩
        · exact fun e es' h => ⟨considerate_of_inDirectory
            (fun e he => (List.mem_append.1 he).elim (hfilled e) (h e)) dir, nofun⟩
        · exact fun _ es' h => .fail ⟨considerate_of_inDirectory (fun e he => by
            simp only [List.append_nil] at he
            exact (List.mem_append.1 he).elim (hfilled e) (h e)) dir, nofun⟩
      · refine .pure ⟨by simpa using considerate_of_inDirectory hfilled dir, ?_⟩
        intro copy hcopy
        cases hcopy
        simp [madeIn, Event.made?]

end RulesParser

/-! ## Kinds that look at a source tree -/

section Looking

variable {W : Type} [Host W] {dir : String} {log : List Event}

/-- A command that is about the directory, and on no working tree, may be run in a session. -/
theorem Tool.run_looks {command : Command} (about : command.IsAbout dir)
    (off : ∀ directory args, command.arguments ≠ "-C" :: directory :: args) (timeout : Timeout) :
    (Tool.run command timeout : Job (Recorded W) ToolOutput).Emits
      fun _ es => Considerate dir es := by
  refine (Tool.run_emits command timeout).mono ?_
  rintro r es rfl
  exact .ran about off

theorem Tool.runChecked_looks {command : Command} (about : command.IsAbout dir)
    (off : ∀ directory args, command.arguments ≠ "-C" :: directory :: args) (timeout : Timeout) :
    (Tool.runChecked command timeout : Job (Recorded W) String).Emits
      fun _ es => Considerate dir es := by
  refine (Tool.run_looks about off timeout).bind (fun _ _ h => h) fun output es h => .ofExcept ?_
  rw [List.append_nil]
  exact h

/-- A copy is remembered when its directory has been made. -/
theorem RulesParser.copy_looks (p : RulesParser) :
    (p.copy : Job (Session (Recorded W)) RulesCopy).Keeps (Session.LooksAt dir log)
      fun _ => True := by
  intro s hs
  refine ⟨?_, fun _ _ => trivial⟩
  obtain ⟨before, hbefore, hconsiderate, hcopies⟩ := hs
  obtain ⟨es, hlog, hes, hmade⟩ := (p.makeCopy_emits dir).log s.world
  unfold RulesParser.copy
  rw [Attempt.exec_bind, Attempt.exec_ask]
  cases hknown : s.memory.copies.get? p.name with
  | some copy => exact ⟨before, hbefore, hconsiderate, hcopies⟩
  | none =>
    have hworld : ((p.makeCopy).exec s.world).2.log = log ++ (before ++ es) := by
      rw [← List.append_assoc, ← hbefore]
      exact hlog
    have hall := hconsiderate.append hes
    have still {directory : String} (h : directory ∈ madeIn before) :
        directory ∈ madeIn (before ++ es) := by
      rw [madeIn_append]
      exact List.mem_append_left _ h
    simp only [Attempt.exec_bind, Session.exec_onWorld]
    rcases hmake : (p.makeCopy).exec s.world with ⟨e | copy, r⟩ <;> rw [hmake] at hworld hmade
    · exact ⟨_, hworld, hall, fun name copy h => still (hcopies name copy h)⟩
    · refine ⟨_, hworld, hall, fun name other h => ?_⟩
      change (s.memory.copies.insert p.name copy).get? name = some other at h
      rw [Table.get?_insert] at h
      split at h
      · cases h
        rw [madeIn_append]
        exact List.mem_append_right _ (hmade copy rfl)
      · exact still (hcopies name other h)

theorem RulesParser.toParser_looks {p : RulesParser} (h : p.sourceDir = dir) :
    (p.toParser : Parser (Session (Recorded W))).Keeps (Session.LooksAt dir log) := by
  rintro (stage | name)
  · exact .fail
  · refine Attempt.Keeps.bind (G := fun _ => True) ?_ fun _ _ => .pure trivial
    refine p.copy_looks.bind fun copy _ => ?_
    refine (Session.onWorld_keeps (Tool.runChecked_looks ⟨rfl, ?_⟩ ?_ _)).bind fun stdout _ =>
      .ofExcept fun _ _ => trivial
    · simp [RulesParser.command, h]
    · simp [RulesParser.command]

theorem SourcePatternDetector.detect_looks {d : SourcePatternDetector} (h : d.sourceDir = dir)
    (feature : String) :
    (d.detect feature : Job (Recorded W) FeatureValue).Emits fun _ es => Considerate dir es := by
  unfold SourcePatternDetector.detect
  cases d.patterns.get? feature with
  | none => exact .fail .nil
  | some pattern =>
    refine (Tool.run_looks ⟨rfl, ?_⟩ ?_ _).bind (fun _ _ h => h) fun output es hes => ?_
    · simp [SourcePatternDetector.command, h]
    · simp [SourcePatternDetector.command]
    · refine Attempt.Emits.bind (P := fun _ es' => es' = []) (.ofExcept rfl) ?_ ?_
      · rintro e es' rfl
        simpa using hes
      · rintro count es' rfl
        exact .pure (by simpa using hes)

end Looking

/-! ## Detectors over a parser

They do what their parser does, and nothing else. -/

section OverParsers

variable {S : Type} {I : S → Prop} {p : Parser S}

theorem Parser.stageLines_keeps (h : p.Keeps I) (stage : BuildStage) :
    (p.stageLines stage).Keeps I fun _ => True :=
  (h (.stage stage)).bind fun _ _ => .ofExcept fun _ _ => trivial

theorem Detector.aslr_keeps (h : p.Keeps I) (name : String) : (Detector.aslr name p).Keeps I :=
  fun _ => (Parser.stageLines_keeps h .linker).bind fun _ _ => .pure trivial

theorem Detector.languageVersion_keeps (h : p.Keeps I) (name : String) :
    (Detector.languageVersion name p).Keeps I :=
  fun _ => (Parser.stageLines_keeps h .all).bind fun _ _ => .pure trivial

theorem Detector.rulesFlag_keeps (h : p.Keeps I) (name variableName flag : String) :
    (Detector.rulesFlag name p variableName flag).Keeps I := by
  intro feature
  refine (h (.variable variableName)).bind fun output _ => ?_
  exact Attempt.Keeps.bind (G := fun _ => True) (.ofExcept fun _ _ => trivial) fun _ _ =>
    .pure trivial

/-- A parser that is required is the one there is. -/
theorem DetectorBuild.requireParser_keeps {b : DetectorBuild S}
    (h : ∀ p, b.parser = some p → p.Keeps I) (hp : b.requireParser = .ok p) : p.Keeps I := by
  unfold DetectorBuild.requireParser at hp
  cases hb : b.parser with
  | none => simp [hb] at hp
  | some p' =>
    simp only [hb, Except.ok.injEq] at hp
    exact hp ▸ h p' hb

end OverParsers

/-! ## Factories -/

namespace BuiltIn

variable {W : Type}

section OverParsers

variable {I : Session W → Prop} {b : DetectorBuild (Session W)}
  (h : ∀ p, b.parser = some p → p.Keeps I)

include h

theorem aslrDetector_keeps : (aslrDetector b).Keeps I (Detector.Keeps I) := by
  refine Attempt.Keeps.bind (.ofExcept fun p hp => b.requireParser_keeps h hp) fun p hp => ?_
  exact .pure (Detector.aslr_keeps hp _)

theorem languageVersionDetector_keeps :
    (languageVersionDetector b).Keeps I (Detector.Keeps I) := by
  refine Attempt.Keeps.bind (.ofExcept fun p hp => b.requireParser_keeps h hp) fun p hp => ?_
  exact .pure (Detector.languageVersion_keeps hp _)

theorem rulesFlagDetector_keeps : (rulesFlagDetector b).Keeps I (Detector.Keeps I) := by
  refine Attempt.Keeps.bind (.ofExcept fun p hp => b.requireParser_keeps h hp) fun p hp => ?_
  refine Attempt.Keeps.bind (G := fun _ => True) (.ofExcept fun _ _ => trivial) fun name _ => ?_
  refine Attempt.Keeps.bind (G := fun _ => True) (.ofExcept fun _ _ => trivial) fun flag _ => ?_
  exact .pure (Detector.rulesFlag_keeps hp _ _ _)

end OverParsers

variable [Host W] {dir : String} {log : List Event}

/-- On a bare source tree there is no log to read. -/
theorem buildLogParser_looks {b : ParserBuild} (h : b.inputs = .sourceOnly dir) :
    (buildLogParser b : Job (Session (Recorded W)) _).Keeps (Session.LooksAt dir log)
      (Parser.Keeps (Session.LooksAt dir log)) := by
  refine Attempt.Keeps.bind (G := fun _ => False) (.ofExcept fun path hpath => ?_) fun _ h => h.elim
  rw [h] at hpath
  cases hpath

theorem rulesParser_looks {b : ParserBuild} (h : b.inputs = .sourceOnly dir) :
    (rulesParser b : Job (Session (Recorded W)) _).Keeps (Session.LooksAt dir log)
      (Parser.Keeps (Session.LooksAt dir log)) := by
  refine Attempt.Keeps.bind (G := fun source => source = dir) (.ofExcept fun source hs => ?_) ?_
  · rw [h] at hs
    exact (Except.ok.inj hs).symm
  rintro source rfl
  refine Attempt.Keeps.bind (G := fun _ => True) (.ask fun _ _ => trivial) fun make _ => ?_
  exact .pure (RulesParser.toParser_looks rfl)

/-- On a bare source tree there is no binary to look at. -/
theorem hardeningDetector_looks {b : DetectorBuild (Session (Recorded W))}
    (h : b.inputs = .sourceOnly dir) : (hardeningDetector b).Keeps (Session.LooksAt dir log)
      (Detector.Keeps (Session.LooksAt dir log)) := by
  refine Attempt.Keeps.bind (G := fun _ => False) (.ofExcept fun path hpath => ?_) fun _ h => h.elim
  rw [h] at hpath
  cases hpath

theorem sourcePatternDetector_looks (kind : String) (defaults : List (String × String))
    {b : DetectorBuild (Session (Recorded W))} (h : b.inputs = .sourceOnly dir) :
    (sourcePatternDetector kind defaults b).Keeps (Session.LooksAt dir log)
      (Detector.Keeps (Session.LooksAt dir log)) := by
  refine Attempt.Keeps.bind (G := fun source => source = dir) (.ofExcept fun source hs => ?_) ?_
  · rw [h] at hs
    exact (Except.ok.inj hs).symm
  rintro source rfl
  refine Attempt.Keeps.bind (G := fun _ => True) (.ask fun _ _ => trivial) fun tool _ => ?_
  exact .pure fun feature => Session.onWorld_keeps (SourcePatternDetector.detect_looks rfl feature)

theorem registry_looks : (registry : KindRegistry (Session (Recorded W))).Keeps
    (Session.LooksAt dir log) (.sourceOnly dir) :=
  .withDetector (.withDetector (.withDetector (.withDetector (.withDetector (.withDetector
    (.withParser (.withParser .empty fun _ => buildLogParser_looks) fun _ => rulesParser_looks)
      fun _ _ => aslrDetector_keeps)
      fun _ _ => languageVersionDetector_keeps)
      fun _ h _ => hardeningDetector_looks h)
      fun _ h _ => sourcePatternDetector_looks _ _ h)
      fun _ h _ => sourcePatternDetector_looks _ _ h)
      fun _ _ => rulesFlagDetector_keeps

end BuiltIn

/-- What a query over the built-in kinds does in a source tree is considerate. -/
theorem Bisect.Query.considerate_of_builtIn {W : Type} [Host W] {q : Query (Recorded W)}
    (h : q.kinds = BuiltIn.registry) : q.Considerate := by
  refine considerate_of_keeps fun dir log => ?_
  rw [h]
  exact BuiltIn.registry_looks

end FeatureSurvey
