import FeatureSurvey.Proofs.Run.Alone
import FeatureSurvey.Proofs.Run.Parallel
import FeatureSurvey.Registry.BuiltIn

/-!
# `Proofs/Registry/BuiltIn.lean` — what the built-in kinds build

Building an instance of a built-in kind looks at its declaration, at the artifacts of the run and at
the environment, which may name the program for a tool. It looks at nothing else and changes
nothing: each factory has its outcome in one equation (`exec_…`), in which the world is left as it
is.

From the equations follows what the rest of this theory needs of the kinds. They are inert and named
(`registry_inert`, `registry_named`); in two worlds with one environment they build the same
(`registry_parallel`); what they build is one of few things (`BuildsParser`, `BuildsDetector`); and
**whether a detector can be built is a matter of its declaration and of the artifacts that were
supplied** (`detectorAlone_ok_iff`).
-/

set_option autoImplicit false

namespace FeatureSurvey

/-- The worlds have the same environment. -/
def Host.SameEnvironment {W : Type} [Host W] (w w' : W) : Prop :=
  ∀ name, Host.environment? w name = Host.environment? w' name

theorem Tool.resolve_congr {W : Type} [Host W] {w w' : W} (h : Host.SameEnvironment w w')
    (explicit : Option String) (name fallback : String) :
    Tool.resolve w explicit name fallback = Tool.resolve w' explicit name fallback := by
  rw [resolve, resolve, h name]

namespace BuiltIn

variable {W : Type} [Host W]

/-! ## The kinds -/

inductive ParserKind : String → ParserFactory (Session W) → Prop
  | buildLog : ParserKind Kind.buildLog buildLogParser
  | rulesVariable : ParserKind Kind.rulesVariable rulesParser

inductive DetectorKind : String → DetectorFactory (Session W) → Prop
  | aslr : DetectorKind Kind.aslr aslrDetector
  | languageVersion : DetectorKind Kind.languageVersion languageVersionDetector
  | hardening : DetectorKind Kind.hardening hardeningDetector
  | namedCast : DetectorKind Kind.namedCast
      (sourcePatternDetector Kind.namedCast Patterns.namedCasts)
  | smartPointer : DetectorKind Kind.smartPointer
      (sourcePatternDetector Kind.smartPointer Patterns.smartPointers)
  | rulesFlag : DetectorKind Kind.rulesFlag rulesFlagDetector

theorem registry_parser_iff {kind : String} {factory : ParserFactory (Session W)} :
    registry.parsers.get? kind = some factory ↔ ParserKind kind factory := by
  constructor
  · intro h
    simp only [registry, KindRegistry.withDetector, KindRegistry.withParser, KindRegistry.empty,
      Table.get?_insert, Table.get?_empty] at h
    split at h
    · cases h
      subst kind
      exact .rulesVariable
    · split at h
      · cases h
        subst kind
        exact .buildLog
      · cases h
  · rintro (_ | _) <;> rfl

theorem registry_detector_iff {kind : String} {factory : DetectorFactory (Session W)} :
    registry.detectors.get? kind = some factory ↔ DetectorKind kind factory := by
  constructor
  · intro h
    simp only [registry, KindRegistry.withDetector, KindRegistry.withParser, KindRegistry.empty,
      Table.get?_insert, Table.get?_empty] at h
    split_ifs at h <;> cases h <;> subst kind
    · exact .rulesFlag
    · exact .smartPointer
    · exact .namedCast
    · exact .hardening
    · exact .languageVersion
    · exact .aslr
  · rintro (_ | _ | _ | _ | _ | _) <;> rfl

/-! ## What is built -/

def logParser (build : ParserBuild) (log : String) : BuildLogParser :=
  { name := build.spec.name, log, binaryName := build.inputs.binaryName }

def rulesParserIn (w : W) (build : ParserBuild) (source : String) : RulesParser where
  name := build.spec.name
  sourceDir := source
  rulesFile := Path.join source
    ((build.spec.option? "rules_file").getD RulesParser.defaultRulesFile)
  make := Tool.resolve w (build.spec.option? "tool") "MAKE_BIN" "make"
  timeout := build.timeout

section Detectors

variable {S : Type} (w : W) (build : DetectorBuild S)

def auditIn (binary : String) : HardeningDetector where
  name := build.spec.name
  binary
  tool := Tool.resolve w (build.spec.option? "tool") "HARDENING_CHECK_BIN" "hardening-check"
  timeout := build.timeout

def searchIn (defaults : List (String × String)) (source : String) : SourcePatternDetector where
  name := build.spec.name
  sourceDir := source
  patterns := Patterns.withOptions defaults build.spec.options
  includes := Patterns.includesOrDefault
    (((build.spec.option? "include").map Patterns.listedIncludes).getD [])
  tool := Tool.resolve w (build.spec.option? "tool") "GREP_BIN" "grep"
  timeout := build.timeout

end Detectors

/-- A search, as a detector of a session. -/
def searchDetector (search : SourcePatternDetector) : Detector (Session W) :=
  ⟨search.name, fun feature => Session.onWorld (search.detect feature)⟩

/-! ## Factories -/

section ParserFactories

variable (s : Session W) (build : ParserBuild)

theorem exec_buildLogParser : (buildLogParser build).exec s =
    ((build.inputs.requireBuildLog Kind.buildLog).map fun log => (logParser build log).toParser,
      s) := by
  unfold buildLogParser
  rw [Attempt.exec_bind, Attempt.exec_ofExcept]
  cases build.inputs.requireBuildLog Kind.buildLog <;> rfl

theorem exec_rulesParser : (rulesParser build).exec s =
    ((build.inputs.requireSourceDir Kind.rulesVariable).map fun source =>
      (rulesParserIn s.world build source).toParser, s) := by
  unfold rulesParser
  rw [Attempt.exec_bind, Attempt.exec_ofExcept]
  cases build.inputs.requireSourceDir Kind.rulesVariable <;> rfl

end ParserFactories

section OverParsers

/-- What a flag of the rules takes: the parser, the variable and the flag. -/
def requireFlag {S : Type} (build : DetectorBuild S) :
    Except SurveyError (Parser S × String × String) := do
  let parser ← build.requireParser
  let variableName ← build.requireOption "variable"
  let flag ← build.requireOption "flag"
  return (parser, variableName, flag)

variable {W : Type} (s : Session W) (build : DetectorBuild (Session W))

theorem exec_aslrDetector : (aslrDetector build).exec s =
    (build.requireParser.map (Detector.aslr build.spec.name), s) := by
  unfold aslrDetector
  rw [Attempt.exec_bind, Attempt.exec_ofExcept]
  cases build.requireParser <;> rfl

theorem exec_languageVersionDetector : (languageVersionDetector build).exec s =
    (build.requireParser.map (Detector.languageVersion build.spec.name), s) := by
  unfold languageVersionDetector
  rw [Attempt.exec_bind, Attempt.exec_ofExcept]
  cases build.requireParser <;> rfl

theorem exec_rulesFlagDetector : (rulesFlagDetector build).exec s =
    ((requireFlag build).map fun required =>
      Detector.rulesFlag build.spec.name required.1 required.2.1 required.2.2, s) := by
  unfold rulesFlagDetector requireFlag
  rw [Attempt.exec_bind, Attempt.exec_ofExcept]
  cases build.requireParser with
  | error e => rfl
  | ok parser =>
    simp only [Attempt.exec_bind, Attempt.exec_ofExcept]
    cases build.requireOption "variable" with
    | error e => rfl
    | ok variableName => cases build.requireOption "flag" <;> rfl

end OverParsers

section Tools

variable (s : Session W) (build : DetectorBuild (Session W))

theorem exec_hardeningDetector : (hardeningDetector build).exec s =
    ((build.inputs.requireBinaryPath Kind.hardening).map fun binary =>
      (auditIn s.world build binary).toDetector, s) := by
  unfold hardeningDetector
  rw [Attempt.exec_bind, Attempt.exec_ofExcept]
  cases build.inputs.requireBinaryPath Kind.hardening <;> rfl

theorem exec_sourcePatternDetector (kind : String) (defaults : List (String × String)) :
    (sourcePatternDetector kind defaults build).exec s =
      ((build.inputs.requireSourceDir kind).map fun source =>
        searchDetector (searchIn s.world build defaults source), s) := by
  unfold sourcePatternDetector
  rw [Attempt.exec_bind, Attempt.exec_ofExcept]
  cases build.inputs.requireSourceDir kind <;> rfl

end Tools

/-! ## What is required

Whatever is missing, the configuration or the choice of artifacts is at fault. -/

section Required

variable {S : Type} {build : DetectorBuild S} {e : SurveyError}

theorem required_eq_ok {kind : String} {artifact : Artifact} {path? : Option String}
    {path : String} : Inputs.required kind artifact path? = .ok path ↔ path? = some path := by
  cases path? <;> simp [Inputs.required]

theorem required_eq_error {kind : String} {artifact : Artifact} {path? : Option String}
    (h : Inputs.required kind artifact path? = .error e) : e.isConfiguration := by
  cases path? with
  | none =>
    cases h
    rfl
  | some path => cases h

theorem requireParser_eq_ok {p : Parser S} :
    build.requireParser = .ok p ↔ build.parser = some p := by
  unfold DetectorBuild.requireParser
  cases build.parser <;> simp

theorem requireParser_eq_error (h : build.requireParser = .error e) : e.isConfiguration := by
  unfold DetectorBuild.requireParser at h
  split at h
  · cases h
  · cases h
    rfl

theorem requireOption_eq_ok {key value : String} :
    build.requireOption key = .ok value ↔ build.spec.option? key = some value := by
  unfold DetectorBuild.requireOption
  cases build.spec.option? key <;> simp

theorem requireOption_eq_error {key : String} (h : build.requireOption key = .error e) :
    e.isConfiguration := by
  unfold DetectorBuild.requireOption at h
  split at h
  · cases h
  · cases h
    rfl

theorem requireFlag_eq_ok {p : Parser S} {variableName flag : String} :
    requireFlag build = .ok (p, variableName, flag) ↔ build.parser = some p ∧
      build.spec.option? "variable" = some variableName ∧
      build.spec.option? "flag" = some flag := by
  rw [← requireParser_eq_ok, ← requireOption_eq_ok, ← requireOption_eq_ok]
  unfold requireFlag
  cases build.requireParser with
  | error e => simp [bind, Except.bind]
  | ok parser =>
    cases build.requireOption "variable" with
    | error e => simp [bind, Except.bind]
    | ok value =>
      cases build.requireOption "flag" <;> simp [bind, Except.bind, pure, Except.pure]

theorem requireFlag_eq_error (h : requireFlag build = .error e) : e.isConfiguration := by
  unfold requireFlag at h
  cases hparser : build.requireParser with
  | error e' =>
    rw [hparser] at h
    cases h
    exact requireParser_eq_error hparser
  | ok parser =>
    cases hvariable : build.requireOption "variable" with
    | error e' =>
      rw [hparser, hvariable] at h
      cases h
      exact requireOption_eq_error hvariable
    | ok value =>
      cases hflag : build.requireOption "flag" with
      | error e' =>
        rw [hparser, hvariable, hflag] at h
        cases h
        exact requireOption_eq_error hflag
      | ok flag =>
        rw [hparser, hvariable, hflag] at h
        cases h

end Required

/-! ## The outcome of building -/

section Outcomes

variable {kind : String}

theorem ParserKind.inert {factory : ParserFactory (Session W)} (h : ParserKind kind factory)
    (build : ParserBuild) (s : Session W) : ((factory build).exec s).2 = s := by
  cases h with
  | buildLog => rw [exec_buildLogParser]
  | rulesVariable => rw [exec_rulesParser]

theorem DetectorKind.inert {factory : DetectorFactory (Session W)} (h : DetectorKind kind factory)
    (build : DetectorBuild (Session W)) (s : Session W) : ((factory build).exec s).2 = s := by
  cases h with
  | aslr => rw [exec_aslrDetector]
  | languageVersion => rw [exec_languageVersionDetector]
  | hardening => rw [exec_hardeningDetector]
  | namedCast => rw [exec_sourcePatternDetector]
  | smartPointer => rw [exec_sourcePatternDetector]
  | rulesFlag => rw [exec_rulesFlagDetector]

theorem ParserKind.congr {factory : ParserFactory (Session W)} (h : ParserKind kind factory)
    (build : ParserBuild) {s t : Session W} (hst : Host.SameEnvironment s.world t.world) :
    ((factory build).exec s).1 = ((factory build).exec t).1 := by
  cases h with
  | buildLog => rw [exec_buildLogParser, exec_buildLogParser]
  | rulesVariable =>
    simp only [exec_rulesParser, rulesParserIn, Tool.resolve_congr hst]

theorem DetectorKind.congr {factory : DetectorFactory (Session W)} (h : DetectorKind kind factory)
    (build : DetectorBuild (Session W)) {s t : Session W}
    (hst : Host.SameEnvironment s.world t.world) :
    ((factory build).exec s).1 = ((factory build).exec t).1 := by
  cases h with
  | aslr => rw [exec_aslrDetector, exec_aslrDetector]
  | languageVersion => rw [exec_languageVersionDetector, exec_languageVersionDetector]
  | hardening => simp only [exec_hardeningDetector, auditIn, Tool.resolve_congr hst]
  | namedCast => simp only [exec_sourcePatternDetector, searchIn, Tool.resolve_congr hst]
  | smartPointer => simp only [exec_sourcePatternDetector, searchIn, Tool.resolve_congr hst]
  | rulesFlag => rw [exec_rulesFlagDetector, exec_rulesFlagDetector]

/-- What a declaration of a parser can stand for. -/
inductive BuildsParser (w : W) (build : ParserBuild) : Parser (Session W) → Prop
  | buildLog {log : String} (given : build.inputs.buildLog = some log) :
      BuildsParser w build (logParser build log).toParser
  | rulesVariable {source : String} (given : build.inputs.sourceDir = some source) :
      BuildsParser w build (rulesParserIn w build source).toParser

/-- What a declaration of a detector can stand for. -/
inductive BuildsDetector (w : W) (build : DetectorBuild (Session W)) : Detector (Session W) → Prop
  | aslr {p : Parser (Session W)} (given : build.parser = some p) :
      BuildsDetector w build (Detector.aslr build.spec.name p)
  | languageVersion {p : Parser (Session W)} (given : build.parser = some p) :
      BuildsDetector w build (Detector.languageVersion build.spec.name p)
  | rulesFlag {p : Parser (Session W)} {variableName : String} (given : build.parser = some p)
      (hvariable : build.spec.option? "variable" = some variableName) (flag : String) :
      BuildsDetector w build (Detector.rulesFlag build.spec.name p variableName flag)
  | hardening {binary : String} (given : build.inputs.binaryPath = some binary) :
      BuildsDetector w build (auditIn w build binary).toDetector
  | sourcePattern {defaults : List (String × String)} {source : String}
      (hdefaults : defaults ∈ [Patterns.namedCasts, Patterns.smartPointers])
      (given : build.inputs.sourceDir = some source) :
      BuildsDetector w build (searchDetector (searchIn w build defaults source))

theorem ParserKind.builds {factory : ParserFactory (Session W)} (h : ParserKind kind factory)
    {build : ParserBuild} {s : Session W} {p : Parser (Session W)}
    (hp : ((factory build).exec s).1 = .ok p) : BuildsParser s.world build p := by
  cases h with
  | buildLog =>
    rw [exec_buildLogParser] at hp
    obtain ⟨log, hlog, rfl⟩ := map_eq_ok.1 hp
    exact .buildLog (required_eq_ok.1 hlog)
  | rulesVariable =>
    rw [exec_rulesParser] at hp
    obtain ⟨source, hsource, rfl⟩ := map_eq_ok.1 hp
    exact .rulesVariable (required_eq_ok.1 hsource)

theorem DetectorKind.builds {factory : DetectorFactory (Session W)}
    (h : DetectorKind kind factory) {build : DetectorBuild (Session W)} {s : Session W}
    {d : Detector (Session W)} (hd : ((factory build).exec s).1 = .ok d) :
    BuildsDetector s.world build d := by
  cases h with
  | aslr =>
    rw [exec_aslrDetector] at hd
    obtain ⟨p, hp, rfl⟩ := map_eq_ok.1 hd
    exact .aslr (requireParser_eq_ok.1 hp)
  | languageVersion =>
    rw [exec_languageVersionDetector] at hd
    obtain ⟨p, hp, rfl⟩ := map_eq_ok.1 hd
    exact .languageVersion (requireParser_eq_ok.1 hp)
  | hardening =>
    rw [exec_hardeningDetector] at hd
    obtain ⟨binary, hbinary, rfl⟩ := map_eq_ok.1 hd
    exact .hardening (required_eq_ok.1 hbinary)
  | namedCast =>
    rw [exec_sourcePatternDetector] at hd
    obtain ⟨source, hsource, rfl⟩ := map_eq_ok.1 hd
    exact .sourcePattern (by simp) (required_eq_ok.1 hsource)
  | smartPointer =>
    rw [exec_sourcePatternDetector] at hd
    obtain ⟨source, hsource, rfl⟩ := map_eq_ok.1 hd
    exact .sourcePattern (by simp) (required_eq_ok.1 hsource)
  | rulesFlag =>
    rw [exec_rulesFlagDetector] at hd
    obtain ⟨⟨p, variableName, flag⟩, hrequired, rfl⟩ := map_eq_ok.1 hd
    obtain ⟨hp, hvariable, -⟩ := requireFlag_eq_ok.1 hrequired
    exact .rulesFlag hp hvariable flag

theorem ParserKind.error {factory : ParserFactory (Session W)} (h : ParserKind kind factory)
    {build : ParserBuild} {s : Session W} {e : SurveyError}
    (he : ((factory build).exec s).1 = .error e) : e.isConfiguration := by
  cases h with
  | buildLog =>
    rw [exec_buildLogParser] at he
    exact required_eq_error (map_eq_error.1 he)
  | rulesVariable =>
    rw [exec_rulesParser] at he
    exact required_eq_error (map_eq_error.1 he)

theorem DetectorKind.error {factory : DetectorFactory (Session W)} (h : DetectorKind kind factory)
    {build : DetectorBuild (Session W)} {s : Session W} {e : SurveyError}
    (he : ((factory build).exec s).1 = .error e) : e.isConfiguration := by
  cases h with
  | aslr =>
    rw [exec_aslrDetector] at he
    exact requireParser_eq_error (map_eq_error.1 he)
  | languageVersion =>
    rw [exec_languageVersionDetector] at he
    exact requireParser_eq_error (map_eq_error.1 he)
  | hardening =>
    rw [exec_hardeningDetector] at he
    exact required_eq_error (map_eq_error.1 he)
  | namedCast =>
    rw [exec_sourcePatternDetector] at he
    exact required_eq_error (map_eq_error.1 he)
  | smartPointer =>
    rw [exec_sourcePatternDetector] at he
    exact required_eq_error (map_eq_error.1 he)
  | rulesFlag =>
    rw [exec_rulesFlagDetector] at he
    exact requireFlag_eq_error (map_eq_error.1 he)

end Outcomes

/-! ## The registry -/

theorem registry_inert : (registry : KindRegistry (Session W)).Inert where
  parsers _ _ h build s := (registry_parser_iff.1 h).inert build s
  detectors _ _ h build s := (registry_detector_iff.1 h).inert build s

theorem registry_named : (registry : KindRegistry (Session W)).Named := by
  intro kind factory h build s d s' hd
  have hbuilds := (registry_detector_iff.1 h).builds (congrArg Prod.fst hd)
  cases hbuilds <;> rfl

/-- A builder over the built-in kinds. -/
def builder (c : Config) (inputs : Inputs) : InstanceBuilder (Session W) := ⟨registry, c, inputs⟩

variable {c : Config} {inputs : Inputs}

variable (c inputs) in
/-- In two worlds with one environment the same is built. -/
theorem builder_parallel {s t : Session W} (hst : Host.SameEnvironment s.world t.world) :
    (builder c inputs).Parallel (fun s' t' => s' = s ∧ t' = t) Eq Eq (fun _ => Eq)
      (builder c inputs) where
  errors _ _ := rfl
  config := rfl
  parsers := by
    intro detector name
    cases hfound : (builder c inputs : InstanceBuilder (Session W)).parserFactory detector name with
    | error e => exact .error rfl
    | ok found =>
      have hkind := registry_parser_iff.1 (InstanceBuilder.parserFactory_eq_ok_iff.1 hfound).2
      refine .ok ?_
      rintro s' t' ⟨rfl, rfl⟩
      exact ⟨.of_eq (hkind.congr _ hst), hkind.inert _ _, hkind.inert _ _⟩
  detectors := by
    intro spec
    cases hfactory : (builder c inputs : InstanceBuilder (Session W)).kinds.detectors.get?
      spec.kind with
    | none => exact .none
    | some factory =>
      have hkind := registry_detector_iff.1 hfactory
      refine .some fun parser parser' hparser => ?_
      have hsame : parser = parser' := by
        cases hparser with
        | none => rfl
        | some hp => rw [hp]
      subst hsame
      rintro s' t' ⟨rfl, rfl⟩
      exact ⟨.of_eq (hkind.congr _ hst), hkind.inert _ _, hkind.inert _ _⟩
  names := by
    rintro spec d _ rfl
    rfl

/-! ## What can be built -/

/-- The parser of this name is declared, under a kind that has what it reads. -/
def ParserReady (c : Config) (inputs : Inputs) (name : String) : Prop :=
  ∃ p, c.parser? name = some p ∧
    (p.kind = Kind.buildLog ∧ inputs.buildLog.isSome ∨
      p.kind = Kind.rulesVariable ∧ inputs.sourceDir.isSome)

/-- A declaration is of a kind, and has what the kind requires. -/
def KindReady (inputs : Inputs) (d : DetectorSpec) : Prop :=
  (d.kind ∈ [Kind.aslr, Kind.languageVersion] ∧ d.parser.isSome) ∨
    (d.kind = Kind.rulesFlag ∧ d.parser.isSome ∧ (d.option? "variable").isSome ∧
      (d.option? "flag").isSome) ∨
    (d.kind = Kind.hardening ∧ inputs.binaryPath.isSome) ∨
    (d.kind ∈ [Kind.namedCast, Kind.smartPointer] ∧ inputs.sourceDir.isSome)

structure DetectorReady (c : Config) (inputs : Inputs) (d : DetectorSpec) : Prop where
  kind : KindReady inputs d
  parser : ∀ name, d.parser = some name → ParserReady c inputs name

theorem ParserKind.ok_iff {kind : String} {factory : ParserFactory (Session W)}
    (h : ParserKind kind factory) (build : ParserBuild) (s : Session W) :
    (∃ p, ((factory build).exec s).1 = .ok p) ↔
      kind = Kind.buildLog ∧ build.inputs.buildLog.isSome ∨
        kind = Kind.rulesVariable ∧ build.inputs.sourceDir.isSome := by
  cases h with
  | buildLog =>
    simp only [exec_buildLogParser, map_eq_ok, Inputs.requireBuildLog, required_eq_ok]
    simp [Option.isSome_iff_exists, Kind.buildLog, Kind.rulesVariable]
  | rulesVariable =>
    simp only [exec_rulesParser, map_eq_ok, Inputs.requireSourceDir, required_eq_ok]
    simp [Option.isSome_iff_exists, Kind.buildLog, Kind.rulesVariable]

theorem DetectorKind.ok_iff {kind : String} {factory : DetectorFactory (Session W)}
    (h : DetectorKind kind factory) (build : DetectorBuild (Session W))
    (hkind : build.spec.kind = kind)
    (hparser : build.parser.isSome = build.spec.parser.isSome) (s : Session W) :
    (∃ d, ((factory build).exec s).1 = .ok d) ↔ KindReady build.inputs build.spec := by
  rw [KindReady, hkind, ← hparser]
  cases h with
  | aslr =>
    simp only [exec_aslrDetector, map_eq_ok, requireParser_eq_ok]
    simp [Option.isSome_iff_exists, Kind.aslr, Kind.languageVersion, Kind.rulesFlag, Kind.hardening,
      Kind.namedCast, Kind.smartPointer]
  | languageVersion =>
    simp only [exec_languageVersionDetector, map_eq_ok, requireParser_eq_ok]
    simp [Option.isSome_iff_exists, Kind.aslr, Kind.languageVersion, Kind.rulesFlag, Kind.hardening,
      Kind.namedCast, Kind.smartPointer]
  | hardening =>
    simp only [exec_hardeningDetector, map_eq_ok, Inputs.requireBinaryPath, required_eq_ok]
    simp [Option.isSome_iff_exists, Kind.aslr, Kind.languageVersion, Kind.rulesFlag, Kind.hardening,
      Kind.namedCast, Kind.smartPointer]
  | namedCast =>
    simp only [exec_sourcePatternDetector, map_eq_ok, Inputs.requireSourceDir, required_eq_ok]
    simp [Option.isSome_iff_exists, Kind.aslr, Kind.languageVersion, Kind.rulesFlag, Kind.hardening,
      Kind.namedCast, Kind.smartPointer]
  | smartPointer =>
    simp only [exec_sourcePatternDetector, map_eq_ok, Inputs.requireSourceDir, required_eq_ok]
    simp [Option.isSome_iff_exists, Kind.aslr, Kind.languageVersion, Kind.rulesFlag, Kind.hardening,
      Kind.namedCast, Kind.smartPointer]
  | rulesFlag =>
    simp only [exec_rulesFlagDetector, map_eq_ok, Prod.exists, requireFlag_eq_ok]
    simp [Option.isSome_iff_exists, Kind.aslr, Kind.languageVersion, Kind.rulesFlag, Kind.hardening,
      Kind.namedCast, Kind.smartPointer]

section Alone

variable {s : Session W}

theorem parserAlone_ok_iff {detector name : String} :
    (∃ p, (builder c inputs).parserAlone s detector name = .ok p) ↔ ParserReady c inputs name := by
  simp only [InstanceBuilder.parserAlone_eq_ok, InstanceBuilder.parserFactory_eq_ok_iff]
  constructor
  · rintro ⟨p, ⟨spec, factory⟩, ⟨hspec, hfactory⟩, hp⟩
    exact ⟨spec, hspec, ((registry_parser_iff.1 hfactory).ok_iff _ s).1 ⟨p, hp⟩⟩
  · rintro ⟨spec, hspec, hready⟩
    obtain ⟨factory, hkind⟩ : ∃ factory, ParserKind (W := W) spec.kind factory := by
      rcases hready with ⟨hkind, -⟩ | ⟨hkind, -⟩ <;> rw [hkind]
      · exact ⟨_, .buildLog⟩
      · exact ⟨_, .rulesVariable⟩
    obtain ⟨p, hp⟩ := (hkind.ok_iff ⟨spec, inputs, _⟩ s).2 hready
    exact ⟨p, ⟨spec, factory⟩, ⟨hspec, registry_parser_iff.2 hkind⟩, hp⟩

theorem namedParserAlone_ok_iff {spec : DetectorSpec} :
    (∃ parser, (builder c inputs).namedParserAlone s spec = .ok parser) ↔
      ∀ name, spec.parser = some name → ParserReady c inputs name := by
  simp only [InstanceBuilder.namedParserAlone_eq_ok]
  constructor
  · rintro ⟨_, ⟨hnone, -⟩ | ⟨name, p, hname, hp, -⟩⟩ name' hname'
    · rw [hnone] at hname'
      cases hname'
    · rw [hname] at hname'
      cases hname'
      exact parserAlone_ok_iff.1 ⟨p, hp⟩
  · intro hready
    cases hname : spec.parser with
    | none => exact ⟨none, .inl ⟨rfl, rfl⟩⟩
    | some name =>
      obtain ⟨p, hp⟩ := (parserAlone_ok_iff (s := s)).2 (hready name hname)
      exact ⟨some p, .inr ⟨name, p, rfl, hp, rfl⟩⟩

theorem isSome_namedParserAlone {spec : DetectorSpec} {parser : Option (Parser (Session W))}
    (h : (builder c inputs).namedParserAlone s spec = .ok parser) :
    parser.isSome = spec.parser.isSome := by
  rcases InstanceBuilder.namedParserAlone_eq_ok.1 h with ⟨hnone, rfl⟩ | ⟨name, p, hname, -, rfl⟩
  · rw [hnone]
    rfl
  · rw [hname]
    rfl

/-- A detector can be built if it is ready, and only then. -/
theorem detectorAlone_ok_iff {spec : DetectorSpec} :
    (∃ d, (builder c inputs).detectorAlone s spec = .ok d) ↔ DetectorReady c inputs spec := by
  simp only [InstanceBuilder.detectorAlone_eq_ok]
  constructor
  · rintro ⟨d, factory, parser, hfactory, hparser, hd⟩
    have hkind := registry_detector_iff.1 hfactory
    exact ⟨(hkind.ok_iff _ rfl (isSome_namedParserAlone hparser) s).1 ⟨d, hd⟩,
      namedParserAlone_ok_iff.1 ⟨parser, hparser⟩⟩
  · rintro ⟨hready, hparsers⟩
    obtain ⟨parser, hparser⟩ := (namedParserAlone_ok_iff (s := s)).2 hparsers
    obtain ⟨factory, hkind⟩ : ∃ factory, DetectorKind (W := W) spec.kind factory := by
      rcases hready with ⟨hkind, -⟩ | ⟨hkind, -⟩ | ⟨hkind, -⟩ | ⟨hkind, -⟩
      · rcases List.mem_pair.1 hkind with hkind | hkind <;> rw [hkind]
        · exact ⟨_, .aslr⟩
        · exact ⟨_, .languageVersion⟩
      · rw [hkind]
        exact ⟨_, .rulesFlag⟩
      · rw [hkind]
        exact ⟨_, .hardening⟩
      · rcases List.mem_pair.1 hkind with hkind | hkind <;> rw [hkind]
        · exact ⟨_, .namedCast⟩
        · exact ⟨_, .smartPointer⟩
    obtain ⟨d, hd⟩ := (hkind.ok_iff ⟨spec, inputs, parser, _⟩ rfl
      (isSome_namedParserAlone hparser) s).2 hready
    exact ⟨d, factory, parser, registry_detector_iff.2 hkind, hparser, hd⟩

/-! ## Instances built alone -/

theorem parserAlone_builds {detector name : String} {p : Parser (Session W)}
    (h : (builder c inputs).parserAlone s detector name = .ok p) :
    ∃ spec, c.parser? name = some spec ∧
      BuildsParser s.world ⟨spec, inputs, .ofSeconds c.toolTimeout⟩ p := by
  obtain ⟨⟨spec, factory⟩, hfound, hp⟩ := InstanceBuilder.parserAlone_eq_ok.1 h
  obtain ⟨hspec, hfactory⟩ := InstanceBuilder.parserFactory_eq_ok_iff.1 hfound
  exact ⟨spec, hspec, (registry_parser_iff.1 hfactory).builds hp⟩

theorem detectorAlone_builds {spec : DetectorSpec} {d : Detector (Session W)}
    (h : (builder c inputs).detectorAlone s spec = .ok d) :
    ∃ parser, (builder c inputs).namedParserAlone s spec = .ok parser ∧
      BuildsDetector s.world ⟨spec, inputs, parser, .ofSeconds c.toolTimeout⟩ d := by
  obtain ⟨factory, parser, hfactory, hparser, hd⟩ := InstanceBuilder.detectorAlone_eq_ok.1 h
  exact ⟨parser, hparser, (registry_detector_iff.1 hfactory).builds hd⟩

/-- In two worlds with one environment the same detector is built. -/
theorem detectorAlone_congr {t : Session W} (hst : Host.SameEnvironment s.world t.world)
    (spec : DetectorSpec) :
    (builder c inputs).detectorAlone s spec = (builder c inputs).detectorAlone t spec := by
  have hs := (InstanceBuilder.Reusing.start (b := builder c inputs) (s := s)).detector
    registry_inert spec
  have ht := (InstanceBuilder.Reusing.start (b := builder c inputs) (s := t)).detector
    registry_inert spec
  have hboth := (builder_parallel c inputs hst).detector spec { state := s }
    { state := t } (.start ⟨rfl, rfl⟩)
  rw [← hs.1, ← ht.1]
  exact hboth.1.eq

theorem parserAlone_error {detector name : String} {e : SurveyError}
    (h : (builder c inputs).parserAlone s detector name = .error e) : e.isConfiguration := by
  rcases InstanceBuilder.parserAlone_eq_error.1 h with hunknown | ⟨⟨spec, factory⟩, hfound, he⟩
  · exact InstanceBuilder.parserFactory_eq_error hunknown
  · have hfactory := (InstanceBuilder.parserFactory_eq_ok_iff.1 hfound).2
    exact (registry_parser_iff.1 hfactory).error he

theorem detectorAlone_error {spec : DetectorSpec} {e : SurveyError}
    (h : (builder c inputs).detectorAlone s spec = .error e) : e.isConfiguration := by
  rcases InstanceBuilder.detectorAlone_eq_error.1 h with
    ⟨-, rfl⟩ | ⟨factory, hfactory, hparser | ⟨parser, -, he⟩⟩
  · rfl
  · obtain ⟨name, -, he⟩ := InstanceBuilder.namedParserAlone_eq_error.1 hparser
    exact parserAlone_error he
  · exact (registry_detector_iff.1 hfactory).error he

end Alone

end BuiltIn

end FeatureSurvey
