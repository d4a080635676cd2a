import FeatureSurvey.Proofs.Resolver.Assignment
import FeatureSurvey.Proofs.Run.Building
import FeatureSurvey.Proofs.Run.Kinds

/-!
# `Proofs/Run/Alone.lean` — detectors of a run, built alone

While a run is built, parsers are kept and detectors are found again by their names. If building
changes nothing in the world, that saves work and does nothing else: **each feature of a prepared
run has the detector that would be built for it alone**, from its own declaration and with a parser
of its own, and a run cannot be prepared just when one of them cannot be built (`Runner.prepared`).
-/

set_option autoImplicit false

namespace FeatureSurvey

section Inert

variable {S : Type}

namespace InstanceBuilder

variable (b : InstanceBuilder S) (s : S)

/-- The parser of a name, built for itself. -/
def parserAlone (detector name : String) : Except SurveyError (Parser S) := do
  let (spec, factory) ← b.parserFactory detector name
  ((factory ⟨spec, b.inputs, b.timeout⟩).exec s).1

def namedParserAlone (spec : DetectorSpec) : Except SurveyError (Option (Parser S)) :=
  match spec.parser with
  | some name => (b.parserAlone s spec.name name).map some
  | none => .ok none

/-- The detector of a declaration, built for itself. -/
def detectorAlone (spec : DetectorSpec) : Except SurveyError (Detector S) :=
  match b.kinds.detectors.get? spec.kind with
  | none => .error (.unknownDetectorKind spec.kind)
  | some factory => do
    let parser ← b.namedParserAlone s spec
    ((factory ⟨spec, b.inputs, parser, b.timeout⟩).exec s).1

variable {b s}

theorem parserAlone_eq_ok {detector name : String} {p : Parser S} :
    b.parserAlone s detector name = .ok p ↔ ∃ found, b.parserFactory detector name = .ok found ∧
      ((found.2 ⟨found.1, b.inputs, b.timeout⟩).exec s).1 = .ok p := bind_eq_ok

theorem parserAlone_eq_error {detector name : String} {e : SurveyError} :
    b.parserAlone s detector name = .error e ↔ b.parserFactory detector name = .error e ∨
      ∃ found, b.parserFactory detector name = .ok found ∧
        ((found.2 ⟨found.1, b.inputs, b.timeout⟩).exec s).1 = .error e := bind_eq_error

theorem namedParserAlone_eq_ok {spec : DetectorSpec} {parser : Option (Parser S)} :
    b.namedParserAlone s spec = .ok parser ↔ (spec.parser = none ∧ parser = none) ∨
      ∃ name p, spec.parser = some name ∧ b.parserAlone s spec.name name = .ok p ∧
        parser = some p := by
  unfold namedParserAlone
  cases spec.parser with
  | none => simp [eq_comm]
  | some name =>
    constructor
    · intro h
      obtain ⟨p, hp, rfl⟩ := map_eq_ok.1 h
      exact .inr ⟨name, p, rfl, hp, rfl⟩
    · rintro (⟨hnone, -⟩ | ⟨_, p, hname, hp, rfl⟩)
      · cases hnone
      · cases hname
        exact map_eq_ok.2 ⟨p, hp, rfl⟩

theorem namedParserAlone_eq_error {spec : DetectorSpec} {e : SurveyError} :
    b.namedParserAlone s spec = .error e ↔
      ∃ name, spec.parser = some name ∧ b.parserAlone s spec.name name = .error e := by
  unfold namedParserAlone
  cases spec.parser with
  | none => simp
  | some name => simp [map_eq_error]

theorem detectorAlone_eq_ok {spec : DetectorSpec} {d : Detector S} :
    b.detectorAlone s spec = .ok d ↔ ∃ factory parser,
      b.kinds.detectors.get? spec.kind = some factory ∧ b.namedParserAlone s spec = .ok parser ∧
        ((factory ⟨spec, b.inputs, parser, b.timeout⟩).exec s).1 = .ok d := by
  unfold detectorAlone
  cases b.kinds.detectors.get? spec.kind with
  | none => simp
  | some factory =>
    refine bind_eq_ok.trans ?_
    simp

theorem detectorAlone_eq_error {spec : DetectorSpec} {e : SurveyError} :
    b.detectorAlone s spec = .error e ↔
      (b.kinds.detectors.get? spec.kind = none ∧ e = .unknownDetectorKind spec.kind) ∨
      ∃ factory, b.kinds.detectors.get? spec.kind = some factory ∧
        (b.namedParserAlone s spec = .error e ∨
          ∃ parser, b.namedParserAlone s spec = .ok parser ∧
            ((factory ⟨spec, b.inputs, parser, b.timeout⟩).exec s).1 = .error e) := by
  unfold detectorAlone
  cases b.kinds.detectors.get? spec.kind with
  | none => simp [eq_comm]
  | some factory =>
    refine bind_eq_error.trans ?_
    simp

variable (b s)

/-- The state is still the same, and every parser that is kept would be built again. -/
def Reusing (built : Building S) : Prop :=
  built.state = s ∧
    ∀ name p, built.parser? name = some p → ∀ detector, b.parserAlone s detector name = .ok p

variable {b s} {built built' : Building S}

theorem Reusing.start : b.Reusing s { state := s } :=
  ⟨rfl, fun _ _ h => nomatch h⟩

theorem Reusing.parser (inert : b.kinds.Inert) (h : b.Reusing s built) {detector name : String}
    {r : Except SurveyError (Parser S)} (hrun : b.ParserRun detector name built r built') :
    r = b.parserAlone s detector name ∧ b.Reusing s built' := by
  cases hrun with
  | kept hp => exact ⟨(h.2 name _ hp detector).symm, h⟩
  | unknown _ hunknown => exact ⟨by rw [parserAlone, hunknown]; rfl, h⟩
  | @failed spec factory e after _ hknown hfailed =>
    have hstate := inert.parsers _ _ (parserFactory_eq_ok_iff.1 hknown).2
      ⟨spec, b.inputs, b.timeout⟩ built.state
    rw [hfailed, h.1] at hstate
    rw [h.1] at hfailed
    refine ⟨?_, hstate, h.2⟩
    rw [parserAlone, hknown]
    exact congrArg Prod.fst hfailed.symm
  | @made spec factory p after hnew hknown hmade =>
    have hstate := inert.parsers _ _ (parserFactory_eq_ok_iff.1 hknown).2
      ⟨spec, b.inputs, b.timeout⟩ built.state
    rw [hmade, h.1] at hstate
    rw [h.1] at hmade
    have halone (other : String) : b.parserAlone s other name = .ok p := by
      rw [parserAlone, parserFactory_of_ok hknown other]
      exact congrArg Prod.fst hmade
    refine ⟨(halone detector).symm, hstate, fun name' p' hp' other => ?_⟩
    rw [Building.parser?_keeping] at hp'
    split at hp'
    case isTrue hname =>
      cases hp'
      rw [hname]
      exact halone other
    case isFalse => exact h.2 name' p' hp' other

theorem Reusing.namedParser (inert : b.kinds.Inert) (h : b.Reusing s built) {spec : DetectorSpec}
    {r : Except SurveyError (Option (Parser S))} (hrun : b.NamedParserRun spec built r built') :
    r = b.namedParserAlone s spec ∧ b.Reusing s built' := by
  cases hrun with
  | nameless hname => exact ⟨by rw [namedParserAlone, hname], h⟩
  | named hname hrun =>
    obtain ⟨rfl, h'⟩ := h.parser inert hrun
    exact ⟨by rw [namedParserAlone, hname], h'⟩

theorem Reusing.detector (inert : b.kinds.Inert) (h : b.Reusing s built) (spec : DetectorSpec) :
    ((b.detector spec).exec built).1 = b.detectorAlone s spec ∧
      b.Reusing s ((b.detector spec).exec built).2 := by
  have hrun := b.detector_run spec built
  generalize ((b.detector spec).exec built).1 = r at hrun ⊢
  generalize ((b.detector spec).exec built).2 = built' at hrun ⊢
  cases hrun with
  | unknownKind hunknown => exact ⟨by rw [detectorAlone, hunknown], h⟩
  | noParser hknown hparser =>
    obtain ⟨herror, h'⟩ := h.namedParser inert hparser
    refine ⟨?_, h'⟩
    rw [detectorAlone, hknown, ← herror]
    rfl
  | @decided factory parser between r after hknown hparser hdecided =>
    obtain ⟨hok, h'⟩ := h.namedParser inert hparser
    have hstate := inert.detectors _ _ hknown ⟨spec, b.inputs, parser, b.timeout⟩ between.state
    rw [hdecided, h'.1] at hstate
    rw [h'.1] at hdecided
    refine ⟨?_, hstate, h'.2⟩
    rw [detectorAlone, hknown, ← hok]
    exact congrArg Prod.fst hdecided.symm

theorem detectorAlone_name (named : b.kinds.Named) {spec : DetectorSpec} {d : Detector S}
    (h : b.detectorAlone s spec = .ok d) : d.name = spec.name := by
  obtain ⟨factory, parser, hkind, -, hd⟩ := detectorAlone_eq_ok.1 h
  exact named _ _ hkind ⟨spec, b.inputs, parser, b.timeout⟩ s d _ (Prod.ext hd rfl)

end InstanceBuilder

namespace Runner

variable {b : InstanceBuilder S} {s : S} {requested : List String}

/-- Each feature with the detector that was built for it alone. -/
def AnsweredAlone (b : InstanceBuilder S) (s : S) (answerers : List (String × Detector S))
    (assignments : List Assignment) : Prop :=
  List.Forall₂ (fun e a => e.1 = a.feature ∧ b.detectorAlone s a.detector = .ok e.2)
    answerers assignments

namespace AnsweredAlone

variable {answerers : List (String × Detector S)} {assignments : List Assignment}

theorem features (h : AnsweredAlone b s answerers assignments) :
    answerers.map (·.1) = assignments.map (·.feature) := by
  induction h with
  | nil => rfl
  | cons hhead _ ih => rw [List.map_cons, List.map_cons, hhead.1, ih]

theorem exists_assignment (h : AnsweredAlone b s answerers assignments) {e : String × Detector S}
    (he : e ∈ answerers) :
    ∃ a ∈ assignments, e.1 = a.feature ∧ b.detectorAlone s a.detector = .ok e.2 := by
  induction h with
  | nil => exact absurd he List.not_mem_nil
  | @cons e' a rest assignments' hhead _ ih =>
    rcases List.mem_cons.1 he with rfl | he
    · exact ⟨a, List.mem_cons_self, hhead⟩
    · obtain ⟨a', ha', halone⟩ := ih he
      exact ⟨a', List.mem_cons_of_mem _ ha', halone⟩

theorem exists_detector (h : AnsweredAlone b s answerers assignments) {a : Assignment}
    (ha : a ∈ assignments) : ∃ d, b.detectorAlone s a.detector = .ok d := by
  induction h with
  | nil => exact absurd ha List.not_mem_nil
  | @cons e a' rest assignments' hhead _ ih =>
    rcases List.mem_cons.1 ha with rfl | ha
    · exact ⟨e.2, hhead.2⟩
    · exact ih ha

end AnsweredAlone

/-- What can come of preparing a run: the request is not assigned, a detector cannot be built, or
every feature has its detector. -/
inductive Prepared (b : InstanceBuilder S) (s : S) (requested : List String) :
    Except SurveyError (PreparedRun S × List String) → Prop
  | unassigned {e : SurveyError}
      (h : Resolver.assign b.config (b.config.featuresOrDefault requested) = .error e) :
      Prepared b s requested (.error e)
  | unbuilt {assignments : List Assignment} {a : Assignment} {e : SurveyError}
      (h : Resolver.assign b.config (b.config.featuresOrDefault requested) = .ok assignments)
      (ha : a ∈ assignments) (hfailed : b.detectorAlone s a.detector = .error e) :
      Prepared b s requested (.error e)
  | ready {assignments : List Assignment} {run : PreparedRun S} {parsers : List String}
      (h : Resolver.assign b.config (b.config.featuresOrDefault requested) = .ok assignments)
      (hrun : AnsweredAlone b s run.answerers assignments) :
      Prepared b s requested (.ok (run, parsers))

/-- While a run is built, its detectors are those that would be built alone. -/
structure BuiltAlone (b : InstanceBuilder S) (s : S) (done : List Assignment) (run : PreparedRun S)
    (built : Building S) : Prop where
  reusing : b.Reusing s built
  detectors : ∀ d ∈ run.detectors, ∃ a ∈ done, b.detectorAlone s a.detector = .ok d
  answerers : AnsweredAlone b s run.answerers done

theorem BuiltAlone.step {done : List Assignment} {a : Assignment} {run run' : PreparedRun S}
    {built built' : Building S} (inert : b.kinds.Inert) (named : b.kinds.Named)
    (h : BuiltAlone b s done run built)
    (same : ∀ a' ∈ done, a'.detector.name = a.detector.name → a'.detector = a.detector)
    (hstep : Step b a run built run' built') : BuiltAlone b s (done ++ [a]) run' built' := by
  have hlater {d : Detector S} (hd : ∃ a' ∈ done, b.detectorAlone s a'.detector = .ok d) :
      ∃ a' ∈ done ++ [a], b.detectorAlone s a'.detector = .ok d := by
    obtain ⟨a', ha', hd⟩ := hd
    exact ⟨a', List.mem_append_left _ ha', hd⟩
  cases hstep with
  | @kept slot found =>
    obtain ⟨a', ha', halone⟩ := h.detectors _ (List.get_mem run.detectors slot)
    have hname : a'.detector.name = a.detector.name := by
      rw [← InstanceBuilder.detectorAlone_name named halone]
      exact PreparedRun.slot?_eq_some found
    rw [same a' ha' hname] at halone
    refine ⟨h.reusing, fun d hd => hlater (h.detectors d hd), ?_⟩
    rw [AnsweredAlone, PreparedRun.answerers_withFeature]
    exact List.rel_append h.answerers (.cons ⟨rfl, halone⟩ .nil)
  | @made _ d absent hmade =>
    obtain ⟨halone, hreusing⟩ := h.reusing.detector inert a.detector
    rw [hmade] at halone hreusing
    refine ⟨hreusing, fun d' hd' => ?_, ?_⟩
    · rcases List.mem_append.1 hd' with hd' | hd'
      · exact hlater (h.detectors d' hd')
      · obtain rfl := List.mem_singleton.1 hd'
        exact ⟨a, List.mem_append_right _ List.mem_cons_self, halone.symm⟩
    · rw [AnsweredAlone, PreparedRun.answerers_withDetector]
      exact List.rel_append h.answerers (.cons ⟨rfl, halone.symm⟩ .nil)

/-- **A run is prepared by building each detector alone.** -/
theorem prepared (inert : b.kinds.Inert) (named : b.kinds.Named) (requested : List String) (s : S) :
    Prepared b s requested ((prepare b requested).exec s).1 ∧
      ((prepare b requested).exec s).2 = s := by
  rw [exec_prepare]
  cases hassign : Resolver.assign b.config (b.config.featuresOrDefault requested) with
  | error e => exact ⟨.unassigned hassign, rfl⟩
  | ok assignments =>
    have hstart : BuiltAlone b s [] .empty { state := s } :=
      ⟨.start, fun _ h => absurd h List.not_mem_nil, .nil⟩
    have hspec := build_spec (b := b) (I := BuiltAlone b s) assignments hstart (by
      intro before a behind run built run' built' hsplit h hstep
      refine h.step inert named (fun a' ha' => ?_) hstep
      subst hsplit
      exact Resolver.detector_eq_of_name hassign (by simp [ha']) (by simp))
    dsimp only
    rcases hbuild : (build b .empty assignments).exec { state := s } with ⟨e | run, built⟩ <;>
      rw [hbuild] at hspec
    · obtain ⟨before, a, behind, run, reached, hsplit, h, -, hfailed⟩ := hspec
      obtain ⟨halone, hreusing⟩ := h.reusing.detector inert a.detector
      rw [hfailed] at halone hreusing
      have ha : a ∈ assignments := by
        rw [hsplit]
        exact List.mem_append_right _ List.mem_cons_self
      exact ⟨.unbuilt hassign ha halone.symm, hreusing.1⟩
    · have hbuilt : BuiltAlone b s assignments run built := hspec
      exact ⟨.ready hassign hbuilt.answerers, hbuilt.reusing.1⟩

/-- What can come of a run: there is nothing to ask, or the detectors are asked that would be built
alone. -/
inductive RanAlone (b : InstanceBuilder S) (s : S) (requested : List String) :
    Except SurveyError ResultRecord × S → Prop
  | unassigned {e : SurveyError}
      (h : Resolver.assign b.config (b.config.featuresOrDefault requested) = .error e) :
      RanAlone b s requested (.error e, s)
  | unbuilt {assignments : List Assignment} {a : Assignment} {e : SurveyError}
      (h : Resolver.assign b.config (b.config.featuresOrDefault requested) = .ok assignments)
      (ha : a ∈ assignments) (hfailed : b.detectorAlone s a.detector = .error e) :
      RanAlone b s requested (.error e, s)
  | asked {assignments : List Assignment} {asked : List (String × Detector S)}
      (h : Resolver.assign b.config (b.config.featuresOrDefault requested) = .ok assignments)
      (hasked : AnsweredAlone b s asked assignments) :
      RanAlone b s requested ((PreparedRun.askAll .empty asked).exec s)

theorem ranAlone (inert : b.kinds.Inert) (named : b.kinds.Named) (requested : List String) (s : S) :
    RanAlone b s requested ((run b requested).exec s) := by
  obtain ⟨hprepared, hstate⟩ := prepared inert named requested s
  unfold run
  rcases hprepare : (prepare b requested).exec s with ⟨e | ⟨prepared, parsers⟩, s'⟩ <;>
    rw [hprepare] at hprepared hstate <;> subst hstate
  · rw [Attempt.exec_bind_error hprepare]
    cases hprepared with
    | unassigned h => exact .unassigned h
    | unbuilt h ha hfailed => exact .unbuilt h ha hfailed
  · rw [Attempt.exec_bind_ok hprepare]
    cases hprepared with
    | ready h hanswered =>
      show RanAlone b _ requested (prepared.execute.exec _)
      rw [PreparedRun.execute_eq]
      exact .asked h hanswered

end Runner

end Inert

end FeatureSurvey
