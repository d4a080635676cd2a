import FeatureSurvey.Proofs.Feature.History
import FeatureSurvey.Proofs.Registry.BuiltIn
import FeatureSurvey.Proofs.Run.Standstill

/-!
# `Proofs/Run/Composition.lean` — a run is its features, one by one

In a period in which nothing changes, requesting several features together is requesting each of
them alone: **a run over the built-in kinds succeeds if every one of its features does, and then it
puts the answers together** (`BuiltIn.survey_composes`).

A run shares parsers between detectors, finds detectors again by their names, and remembers a log, a
copy or a report from one question to the next. None of this can be told from the record, and for
each there is a reason: what is shared would be built again as it is (`Proofs/Run/Alone.lean`), and
what is remembered would be found again as it is (`Proofs/Run/Period.lean`).

It is assumed that the names of our own directories are not known to anybody else. `Mentions` lists
the texts that get into command lines and paths from the configuration and the artifacts.
-/

set_option autoImplicit false

namespace FeatureSurvey

/-! ## Putting answers together -/

namespace ResultRecord

/-- Put the answers to features behind a record, if all of them have one. -/
def answering (answer : String → Option FeatureValue) (r : ResultRecord) :
    List String → Option ResultRecord
  | [] => some r
  | feature :: rest => do
    let value ← answer feature
    answering answer (r.insert feature value) rest

variable {answer : String → Option FeatureValue} {r r' : ResultRecord} {features : List String}

theorem answering_isSome_iff :
    (∃ r', answering answer r features = some r') ↔
      ∀ f ∈ features, ∃ value, answer f = some value := by
  induction features generalizing r with
  | nil => simp [answering]
  | cons f rest ih =>
    cases hf : answer f with
    | none => simp [answering, hf]
    | some value => simpa [answering, hf] using ih

theorem answering_spec (distinct : features.Nodup) (fresh : ∀ f ∈ features, f ∉ r.features)
    (h : answering answer r features = some r') :
    r'.features = r.features ++ features ∧ (∀ f ∈ features, r'.get? f = answer f) ∧
      ∀ f, f ∉ features → r'.get? f = r.get? f := by
  induction features generalizing r with
  | nil =>
    cases h
    exact ⟨(List.append_nil _).symm, fun f hf => absurd hf List.not_mem_nil, fun _ _ => rfl⟩
  | cons f rest ih =>
    obtain ⟨hf, hrest⟩ := List.nodup_cons.1 distinct
    obtain ⟨value, hvalue, h⟩ := Option.bind_eq_some_iff.1 h
    have hfeatures : (r.insert f value).features = r.features ++ [f] := by
      rw [features_insert, if_neg (fresh f List.mem_cons_self)]
    have hfresh : ∀ g ∈ rest, g ∉ (r.insert f value).features := by
      intro g hg hin
      rw [hfeatures] at hin
      rcases List.mem_append.1 hin with hin | hin
      · exact fresh g (List.mem_cons_of_mem _ hg) hin
      · exact hf (List.mem_singleton.1 hin ▸ hg)
    obtain ⟨hall, hanswers, hothers⟩ := ih hrest hfresh h
    refine ⟨?_, fun g hg => ?_, fun g hg => ?_⟩
    · rw [hall, hfeatures, List.append_assoc]
      rfl
    · rcases List.mem_cons.1 hg with rfl | hg
      · rw [hothers g hf, get?_insert, if_pos rfl, hvalue]
      · exact hanswers g hg
    · have hne : g ≠ f := by
        rintro rfl
        exact hg List.mem_cons_self
      rw [hothers g fun hin => hg (List.mem_cons_of_mem _ hin), get?_insert, if_neg hne]

end ResultRecord

/-- Detectors that each give the answer of their feature, asked one after the other. -/
theorem PreparedRun.askAll_gives {S : Type} {I : S → Prop} {answer : String → Option FeatureValue}
    {asked : List (String × Detector S)}
    (h : ∀ e ∈ asked, Attempt.Gives I (e.2.detect e.1) (answer e.1)) (record : ResultRecord) :
    Attempt.Gives I (askAll record asked) (record.answering answer (asked.map (·.1))) := by
  induction asked generalizing record with
  | nil => exact .pure record
  | cons e rest ih =>
    obtain ⟨hhead, hrest⟩ := List.forall_mem_cons.1 h
    exact hhead.bind fun value _ => ih hrest _

namespace BuiltIn

variable {W : Type} [Host W] {P : Period W} {c : Config} {inputs : Inputs}

/-! ## The instances of a configuration -/

/-- The texts that get into command lines and paths. -/
inductive Mentions (c : Config) (inputs : Inputs) : String → Prop
  | flag {word : String} (h : word ∈ ["-i", "-r", "--include", "-E", "-s", "-C", "-f"]) :
      Mentions c inputs word
  | artifact {path : String}
      (h : some path ∈ [inputs.binaryPath, inputs.sourceDir, inputs.buildLog]) :
      Mentions c inputs path
  | rulesFile {p : ParserSpec} {source : String} (hp : p ∈ c.parsers)
      (hsource : inputs.sourceDir = some source) : Mentions c inputs
        (Path.join source ((p.option? "rules_file").getD RulesParser.defaultRulesFile))
  | shown {d : DetectorSpec} {variableName : String} (hd : d ∈ c.detectors)
      (h : d.option? "variable" = some variableName) : Mentions c inputs ("print-" ++ variableName)
  | glob {d : DetectorSpec} {glob : String} (hd : d ∈ c.detectors)
      (h : glob ∈ Patterns.includesOrDefault
        (((d.option? "include").map Patterns.listedIncludes).getD [])) : Mentions c inputs glob
  | pattern {d : DetectorSpec} {defaults : List (String × String)} {feature pattern : String}
      (hd : d ∈ c.detectors) (hdefaults : defaults ∈ [Patterns.namedCasts, Patterns.smartPointers])
      (h : (Patterns.withOptions defaults d.options).get? feature = some pattern) :
      Mentions c inputs pattern

/-- Whatever can be remembered in a run that is built in this world. -/
def rosterIn (w : W) (c : Config) (inputs : Inputs) : Roster where
  logs name := do
    let spec ← c.parser? name
    let log ← inputs.buildLog
    return logParser ⟨spec, inputs, .ofSeconds c.toolTimeout⟩ log
  rules name := do
    let spec ← c.parser? name
    let source ← inputs.sourceDir
    return rulesParserIn w ⟨spec, inputs, .ofSeconds c.toolTimeout⟩ source
  audits name := do
    let spec ← c.detector? name
    let binary ← inputs.binaryPath
    let build : DetectorBuild (Session W) := ⟨spec, inputs, none, .ofSeconds c.toolTimeout⟩
    return auditIn w build binary

section Steady

variable {w : W} {name : String}

theorem rosterIn_logs {spec : ParserSpec} {log : String} (declared : c.parser? name = some spec)
    (given : inputs.buildLog = some log) : (rosterIn w c inputs).logs name =
      some (logParser ⟨spec, inputs, .ofSeconds c.toolTimeout⟩ log) := by
  simp only [rosterIn, declared, given]
  rfl

theorem rosterIn_rules {spec : ParserSpec} {source : String} (declared : c.parser? name = some spec)
    (given : inputs.sourceDir = some source) : (rosterIn w c inputs).rules name =
      some (rulesParserIn w ⟨spec, inputs, .ofSeconds c.toolTimeout⟩ source) := by
  simp only [rosterIn, declared, given]
  rfl

theorem rosterIn_audits {spec : DetectorSpec} {binary : String}
    (declared : c.detector? name = some spec) (given : inputs.binaryPath = some binary)
    (parser : Option (Parser (Session W))) : (rosterIn w c inputs).audits name =
      some (auditIn w ⟨spec, inputs, parser, .ofSeconds c.toolTimeout⟩ binary) := by
  simp only [rosterIn, declared, given]
  rfl

theorem parser_steady (laws : P.Laws) (apart : ∀ a, Mentions c inputs a → P.Apart a)
    {spec : ParserSpec} (declared : c.parser? spec.name = some spec) {p : Parser (Session W)}
    (h : BuildsParser w ⟨spec, inputs, .ofSeconds c.toolTimeout⟩ p) {selector : Selector}
    (hselector : ∀ name, selector = .variable name → Mentions c inputs ("print-" ++ name)) :
    Attempt.Steady (P.Sound (rosterIn w c inputs)) (p.parse selector) := by
  cases h with
  | @buildLog log given =>
    have hlog : Mentions c inputs log := .artifact (by simp [← given])
    exact Period.logParser_steady laws (rosterIn_logs declared given) (apart log hlog) selector
  | @rulesVariable source given =>
    have hrules := Mentions.rulesFile (Config.parser?_eq_some declared).1 given
    have hsource : Mentions c inputs source := .artifact (by simp [← given])
    refine Period.rulesParser_steady laws (rosterIn_rules declared given) (apart _ hrules) ?_
    intro name hname a ha
    simp only [List.mem_cons, List.not_mem_nil, or_false] at ha
    refine apart a ?_
    rcases ha with rfl | rfl | rfl | rfl | rfl
    · exact .flag (by simp)
    · exact .flag (by simp)
    · exact hsource
    · exact .flag (by simp)
    · exact hselector name hname

theorem mentions_search {spec : DetectorSpec} (hspec : spec ∈ c.detectors)
    {defaults : List (String × String)}
    (hdefaults : defaults ∈ [Patterns.namedCasts, Patterns.smartPointers]) {source : String}
    (given : inputs.sourceDir = some source) {parser : Option (Parser (Session W))}
    {timeout : Timeout} {feature pattern : String}
    (hpattern : (searchIn w ⟨spec, inputs, parser, timeout⟩ defaults source).patterns.get? feature =
      some pattern) :
    ∀ a ∈ ((searchIn w ⟨spec, inputs, parser, timeout⟩ defaults source).command pattern).arguments,
      Mentions c inputs a := by
  intro a ha
  simp only [SourcePatternDetector.command, List.mem_append, List.mem_flatMap, List.mem_cons,
    List.not_mem_nil, or_false] at ha
  rcases ha with ((rfl | rfl) | ⟨glob, hglob, rfl | rfl⟩) | rfl | rfl | rfl
  · exact .flag (by simp)
  · exact .flag (by simp)
  · exact .flag (by simp)
  · exact .glob hspec hglob
  · exact .flag (by simp)
  · exact .pattern hspec hdefaults hpattern
  · exact .artifact (by simp [← given])

/-- A detector of the configuration answers a feature in one way. -/
theorem detector_steady (laws : P.Laws) (apart : ∀ a, Mentions c inputs a → P.Apart a)
    {spec : DetectorSpec} (declared : c.detector? spec.name = some spec) {d : Detector (Session W)}
    (h : (builder c inputs).detectorAlone { world := w } spec = .ok d) (feature : String) :
    Attempt.Steady (P.Sound (rosterIn w c inputs)) (d.detect feature) := by
  obtain ⟨parser, hparser, hbuilds⟩ := detectorAlone_builds h
  have hspec : spec ∈ c.detectors := (Config.detector?_eq_some declared).1
  -- the parser of the detector, if it has one, answers in one way
  have hparse {p : Parser (Session W)} (hp : parser = some p) {selector : Selector}
      (hselector : ∀ name, selector = .variable name → Mentions c inputs ("print-" ++ name)) :
      Attempt.Steady (P.Sound (rosterIn w c inputs)) (p.parse selector) := by
    rcases InstanceBuilder.namedParserAlone_eq_ok.1 hparser with ⟨-, rfl⟩ | ⟨name, p', -, hp', rfl⟩
    · cases hp
    · cases hp
      obtain ⟨spec', hspec', hbuilds'⟩ := parserAlone_builds hp'
      rw [← (Config.parser?_eq_some hspec').2] at hspec'
      exact parser_steady laws apart hspec' hbuilds' hselector
  cases hbuilds with
  | aslr given =>
    exact (Parser.stageLines_steady (hparse given nofun)).bind fun lines => .pure _
  | languageVersion given =>
    exact (Parser.stageLines_steady (hparse given nofun)).bind fun lines => .pure _
  | rulesFlag given hvariable flag =>
    refine (hparse given ?_).bind fun output => (Attempt.Steady.ofExcept _).bind fun line => .pure _
    rintro name ⟨⟩
    exact .shown hspec hvariable
  | @hardening binary given =>
    have hbinary : Mentions c inputs binary := .artifact (by simp [← given])
    exact Period.audit_steady laws (rosterIn_audits declared given parser) (apart binary hbinary)
      feature
  | sourcePattern hdefaults given =>
    exact Period.search_steady laws fun pattern hpattern a ha =>
      apart a (mentions_search hspec hdefaults given hpattern a ha)

end Steady

/-! ## Runs -/

/-- What comes of a run. -/
def survey (c : Config) (inputs : Inputs) (requested : List String) (w : W) :
    Except SurveyError ResultRecord :=
  ((Session.run (Runner.run (builder c inputs) requested)).exec w).1

/-- What comes of asking for one feature, at any time of the period. -/
inductive Answer (P : Period W) (roster : Roster) (c : Config) (inputs : Inputs) (f : String) :
    Option FeatureValue → Prop
  | unassigned {e : SurveyError} (h : Resolver.assign c [f] = .error e) :
      Answer P roster c inputs f none
  | unbuilt {a : Assignment} {e : SurveyError} (h : Resolver.assign c [f] = .ok [a])
      (hfailed : ∀ w, P.During w →
        (builder c inputs).detectorAlone { world := w } a.detector = .error e) :
      Answer P roster c inputs f none
  | given {a : Assignment} {d : Detector (Session W)} {x : Option FeatureValue}
      (h : Resolver.assign c [f] = .ok [a])
      (hbuilt : ∀ w, P.During w →
        (builder c inputs).detectorAlone { world := w } a.detector = .ok d)
      (hgives : Attempt.Gives (P.Sound roster) (d.detect f) x) :
      Answer P roster c inputs f x

theorem exists_answer (laws : P.Laws) (apart : ∀ a, Mentions c inputs a → P.Apart a) {w : W}
    (hw : P.During w) (f : String) : ∃ x, Answer P (rosterIn w c inputs) c inputs f x := by
  have hsame {v : W} (hv : P.During v) (spec : DetectorSpec) :
      (builder c inputs).detectorAlone { world := v } spec =
        (builder c inputs).detectorAlone { world := w } spec :=
    detectorAlone_congr (fun name => (laws.environment hv name).trans
      (laws.environment hw name).symm) spec
  cases hassign : Resolver.assign c [f] with
  | error e => exact ⟨none, .unassigned hassign⟩
  | ok assignments =>
    obtain ⟨-, -, hfeatures, -⟩ := Resolver.assign_eq_ok_iff.1 hassign
    obtain ⟨a, rfl, -⟩ := List.map_eq_singleton_iff.1 hfeatures
    have hdeclared := Resolver.detector?_of_assign hassign List.mem_cons_self
    cases hbuilt : (builder c inputs).detectorAlone { world := w } a.detector with
    | error e => exact ⟨none, .unbuilt hassign fun v hv => (hsame hv a.detector).trans hbuilt⟩
    | ok d =>
      obtain ⟨x, hx⟩ := detector_steady laws apart hdeclared hbuilt f
      exact ⟨x, .given hassign (fun v hv => (hsame hv a.detector).trans hbuilt) hx⟩

namespace Answer

variable {roster : Roster} {f : String} {x : Option FeatureValue}

theorem of_unassigned (h : Answer P roster c inputs f x) {e : SurveyError}
    (hassign : Resolver.assign c [f] = .error e) : x = none := by
  cases h with
  | unassigned => rfl
  | unbuilt => rfl
  | given h => cases h.symm.trans hassign

theorem of_unbuilt (h : Answer P roster c inputs f x) {a : Assignment}
    (hassign : Resolver.assign c [f] = .ok [a]) {w : W} (hw : P.During w) {e : SurveyError}
    (hfailed : (builder c inputs).detectorAlone { world := w } a.detector = .error e) :
    x = none := by
  cases h with
  | unassigned => rfl
  | unbuilt => rfl
  | given h hbuilt =>
    cases h.symm.trans hassign
    cases (hbuilt w hw).symm.trans hfailed

theorem of_built (h : Answer P roster c inputs f x) {a : Assignment}
    (hassign : Resolver.assign c [f] = .ok [a]) {w : W} (hw : P.During w) {d : Detector (Session W)}
    (hbuilt : (builder c inputs).detectorAlone { world := w } a.detector = .ok d) :
    Attempt.Gives (P.Sound roster) (d.detect f) x := by
  cases h with
  | unassigned h => cases h.symm.trans hassign
  | unbuilt h hfailed =>
    cases h.symm.trans hassign
    cases (hfailed w hw).symm.trans hbuilt
  | given h hbuilt' hgives =>
    cases h.symm.trans hassign
    cases (hbuilt' w hw).symm.trans hbuilt
    exact hgives

end Answer

section Answers

variable {roster : Roster} {answer : String → Option FeatureValue} {requested : List String} {w : W}

/-- A run puts the answers together that its features have alone. -/
theorem survey_toOption (answers : ∀ f, Answer P roster c inputs f (answer f))
    (nonempty : requested ≠ []) (hw : P.During w) : (survey c inputs requested w).toOption =
      ResultRecord.empty.answering answer requested.eraseDups := by
  -- what goes wrong before a question is asked goes wrong for one feature alone
  have hmissing {f : String} (hf : f ∈ requested) (hnone : answer f = none) :
      ResultRecord.empty.answering answer requested.eraseDups = none := by
    refine Option.eq_none_iff_forall_ne_some.2 fun r hr => ?_
    obtain ⟨value, hvalue⟩ :=
      ResultRecord.answering_isSome_iff.1 ⟨r, hr⟩ f (List.mem_eraseDups.2 hf)
    cases hnone.symm.trans hvalue
  have hdefault : (builder c inputs : InstanceBuilder (Session W)).config.featuresOrDefault
      requested = requested := by
    rw [Config.featuresOrDefault, if_neg fun hempty => nonempty (List.isEmpty_iff.1 hempty)]
  have hran := Runner.ranAlone (b := builder c inputs) registry_inert registry_named requested
    { world := w }
  rw [survey, Session.exec_run]
  generalize hout : (Runner.run (builder c inputs) requested).exec { world := w } = out at hran ⊢
  cases hran with
  | unassigned h =>
    rw [hdefault] at h
    obtain ⟨f, hf, e, he⟩ := Resolver.exists_unassigned h nonempty
    exact (hmissing hf ((answers f).of_unassigned he)).symm
  | unbuilt h ha hfailed =>
    rw [hdefault] at h
    exact (hmissing (Resolver.feature_mem_of_assign h ha)
      ((answers _).of_unbuilt (Resolver.assign_single h ha) hw hfailed)).symm
  | @asked assignments asked h hasked =>
    rw [hdefault] at h
    have hfeatures : asked.map (·.1) = requested.eraseDups := by
      obtain ⟨-, -, hfeatures, -⟩ := Resolver.assign_eq_ok_iff.1 h
      exact hasked.features.trans hfeatures
    have hgives : ∀ e ∈ asked, Attempt.Gives (P.Sound roster) (e.2.detect e.1) (answer e.1) := by
      intro e he
      obtain ⟨a, ha, hfeature, hbuilt⟩ := hasked.exists_assignment he
      rw [hfeature]
      exact (answers a.feature).of_built (Resolver.assign_single h ha) hw hbuilt
    rw [← hfeatures]
    exact (PreparedRun.askAll_gives hgives .empty _ (.fresh hw)).1

theorem survey_ok_iff (answers : ∀ f, Answer P roster c inputs f (answer f))
    (nonempty : requested ≠ []) (hw : P.During w) :
    (∃ r, survey c inputs requested w = .ok r) ↔
      ∀ f ∈ requested, ∃ value, answer f = some value := by
  have hanswers := survey_toOption answers nonempty hw
  have hmem : (∀ f ∈ requested, ∃ value, answer f = some value) ↔
      ∀ f ∈ requested.eraseDups, ∃ value, answer f = some value := by
    simp only [List.mem_eraseDups]
  rw [hmem, ← ResultRecord.answering_isSome_iff (r := .empty), ← hanswers]
  cases survey c inputs requested w <;> simp [Except.toOption]

theorem survey_eq_ok (answers : ∀ f, Answer P roster c inputs f (answer f))
    (nonempty : requested ≠ []) (hw : P.During w) {r : ResultRecord}
    (h : survey c inputs requested w = .ok r) :
    r.features = requested.eraseDups ∧ ∀ f ∈ requested, r.get? f = answer f := by
  have hanswers := survey_toOption answers nonempty hw
  rw [h] at hanswers
  obtain ⟨hfeatures, hvalues, -⟩ := ResultRecord.answering_spec
    (nodup_eraseDups requested) (fun _ _ => List.not_mem_nil) hanswers.symm
  exact ⟨hfeatures, fun f hf => hvalues f (List.mem_eraseDups.2 hf)⟩

end Answers

/-- A run, and runs that ask for its features one at a time, each at some other moment. -/
structure Composes (P : Period W) (c : Config) (inputs : Inputs) (requested : List String) (w : W)
    (alone : String → W) : Prop where
  ok_iff : (∃ r, survey c inputs requested w = .ok r) ↔
    ∀ f ∈ requested, ∃ r, survey c inputs [f] (alone f) = .ok r
  features : ∀ {r}, survey c inputs requested w = .ok r → r.features = requested.eraseDups
  value : ∀ {r}, survey c inputs requested w = .ok r → ∀ f ∈ requested,
    ∃ r' value, survey c inputs [f] (alone f) = .ok r' ∧ r'.get? f = some value ∧
      r.get? f = some value
  /-- The order of a request does not matter, nor what else is requested, if it can be had. -/
  other : ∀ {r}, survey c inputs requested w = .ok r → ∀ (other : List String) (v : W),
    other ≠ [] → P.During v →
      (∀ f ∈ other, f ∈ requested ∨ ∃ r', survey c inputs [f] (alone f) = .ok r') →
        ∃ r', survey c inputs other v = .ok r' ∧
          ∀ f ∈ other, f ∈ requested → r'.get? f = r.get? f

/-- **A run succeeds if each of its features can be had alone, and has the same values.** -/
theorem survey_composes (laws : P.Laws) (apart : ∀ a, Mentions c inputs a → P.Apart a)
    {requested : List String} (nonempty : requested ≠ []) {w : W} (hw : P.During w)
    {alone : String → W} (halone : ∀ f, P.During (alone f)) :
    Composes P c inputs requested w alone := by
  -- the same answers hold of this run and of every other in the period
  choose answer answers using exists_answer laws apart hw
  have hsingle (f : String) : (∃ r, survey c inputs [f] (alone f) = .ok r) ↔
      ∃ value, answer f = some value := by
    rw [survey_ok_iff answers (List.cons_ne_nil f []) (halone f)]
    simp
  have hok := survey_ok_iff answers nonempty hw
  refine ⟨?_, fun h => (survey_eq_ok answers nonempty hw h).1, fun h f hf => ?_,
    fun h other v hother hv hhad => ?_⟩
  · simp only [hok, hsingle]
  · obtain ⟨value, hvalue⟩ := hok.1 ⟨_, h⟩ f hf
    obtain ⟨r', hr'⟩ := (hsingle f).2 ⟨value, hvalue⟩
    have hget := (survey_eq_ok answers (List.cons_ne_nil f []) (halone f) hr').2 f
      List.mem_cons_self
    have hget' := (survey_eq_ok answers nonempty hw h).2 f hf
    exact ⟨r', value, hr', hget.trans hvalue, hget'.trans hvalue⟩
  · have hanswered : ∀ f ∈ other, ∃ value, answer f = some value := by
      intro f hf
      rcases hhad f hf with hf' | hf'
      · exact hok.1 ⟨_, h⟩ f hf'
      · exact (hsingle f).1 hf'
    obtain ⟨r', hr'⟩ := (survey_ok_iff answers hother hv).2 hanswered
    refine ⟨r', hr', fun f hf hf' => ?_⟩
    rw [(survey_eq_ok answers hother hv hr').2 f hf, (survey_eq_ok answers nonempty hw h).2 f hf']

/-! ## A package -/

/-- Texts that do not begin with a hash are mentioned where no others are given. -/
theorem Mentions.plain {a : String} (h : Mentions c inputs a)
    (artifacts : ∀ given ∈ [inputs.binaryPath, inputs.sourceDir, inputs.buildLog],
      ∀ path ∈ given, Standstill.Plain path)
    (rules : ∀ p ∈ c.parsers, ∀ source ∈ inputs.sourceDir, Standstill.Plain
      (Path.join source ((p.option? "rules_file").getD RulesParser.defaultRulesFile)))
    (globs : ∀ d ∈ c.detectors, ∀ glob ∈ Patterns.includesOrDefault
      (((d.option? "include").map Patterns.listedIncludes).getD []), Standstill.Plain glob)
    (patterns : ∀ d ∈ c.detectors, ∀ defaults ∈ [Patterns.namedCasts, Patterns.smartPointers],
      ∀ e ∈ (Patterns.withOptions defaults d.options).entries, Standstill.Plain e.2) :
    Standstill.Plain a := by
  cases h with
  | flag h =>
    have hplain : ∀ word ∈ ["-i", "-r", "--include", "-E", "-s", "-C", "-f"],
        Standstill.Plain word := by
      decide
    exact hplain a h
  | artifact h => exact artifacts _ h a rfl
  | rulesFile hp hsource => exact rules _ hp _ hsource
  | @shown _ name =>
    have hfront : ("print-" ++ name).toList.head? = some 'p' := by
      rw [String.toList_append]
      rfl
    rw [Standstill.Plain, hfront]
    decide
  | glob hd h => exact globs _ hd a h
  | pattern hd hdefaults h =>
    obtain ⟨e, he, rfl⟩ := Option.map_eq_some_iff.1 h
    exact patterns _ hd _ hdefaults e (List.mem_of_find?_eq_some he)

/-- The tools know one variable and one binary. -/
def packageTools (line : CommandLine) : ToolRun :=
  match line.program, line.words with
  | "make", [.text "-s", .text "-C", .text "app", .text "-f", .own (.ready "app/debian/rules"),
      .text "print-CFLAGS"] => .exited ⟨some 0, "CFLAGS = -O2 -fstack-protector\n", ""⟩
  | "hardening-check", [.text "app/out"] =>
    .exited ⟨some 1, "app/out:\n Position Independent Executable: yes\n", ""⟩
  | _, _ => .notStarted .notFound

def package : Fixtures where
  file path := if path = "app/debian/rules" then some (.ok "CFLAGS = -O2".toUTF8) else none
  tool := packageTools

/-- Two detectors share the rules, and one audits the binary. -/
def packageConfig : Config where
  detectors := [
    { name := "protector", kind := "rules-flag", parser := some "rules", features := ["protector"]
      options := .ofList [("variable", "CFLAGS"), ("flag", "-fstack-protector")] },
    { name := "audit", kind := "hardening-check", features := ["PIE", "stack-protector"] },
    { name := "debug", kind := "rules-flag", parser := some "rules", features := ["debug"]
      options := .ofList [("variable", "CFLAGS"), ("flag", "-g")] }]
  parsers := [{ name := "rules", kind := "rules-variable" }]

def packageInputs : Inputs := { binaryPath := some "app/out", sourceDir := some "app" }

theorem packageConfig_plain (a : String) (h : Mentions packageConfig packageInputs a) :
    Standstill.Plain a :=
  h.plain (by decide) (by decide) (by decide +kernel) (by decide +kernel)

theorem survey_composes_package :
    (Standstill.period package).Laws ∧
    (∀ a, Mentions packageConfig packageInputs a → (Standstill.period package).Apart a) ∧
    (Standstill.period package).During {} ∧
    Composes (Standstill.period package) packageConfig packageInputs
      ["protector", "PIE", "debug", "protector"] {} (fun _ => {}) ∧
    (survey packageConfig packageInputs ["protector", "PIE", "debug", "protector"]
      ({} : Standstill package)).toOption.map (·.entries) =
        some [("protector", .bool true), ("PIE", .text "yes"), ("debug", .bool false)] := by
  have hlaws := Standstill.laws package
  have hstart : (Standstill.period package).During {} := Standstill.during_start
  have hapart (a : String) (h : Mentions packageConfig packageInputs a) :
      (Standstill.period package).Apart a := packageConfig_plain a h
  refine ⟨hlaws, hapart, hstart, ?_, by decide +kernel⟩
  exact survey_composes hlaws hapart (List.cons_ne_nil _ _) hstart fun _ => hstart

end BuiltIn

end FeatureSurvey
