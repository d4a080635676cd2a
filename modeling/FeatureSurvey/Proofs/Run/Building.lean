import FeatureSurvey.Run.Runner

/-!
# `Proofs/Run/Building.lean` — how a run is built, step by step

Building a run goes through the assignments of a request. Each is a `Runner.Step`: the detector is
there already and gets one more feature, or it is built. What can happen when a detector is built is
said once, in `InstanceBuilder.DetectorRun` and `InstanceBuilder.ParserRun`; the rest of this theory
does not look into the builder again.

**What every step keeps holds of the whole** (`Runner.build_spec`), and if the building fails, it
holds up to the step that failed.

A prepared run refers to its detectors by position. `PreparedRun.answerers` is the same plan without
positions, each feature with the detector itself, and executing a run asks just these in order
(`PreparedRun.execute_eq`).
-/

set_option autoImplicit false

namespace FeatureSurvey

/-! ## Plans without positions -/

namespace PreparedRun

variable {S : Type}

/-- Each feature with the detector that is going to answer it. -/
def answerers (r : PreparedRun S) : List (String × Detector S) :=
  r.plan.map fun entry => (entry.1, r.detectors.get entry.2)

theorem answerers_withFeature (r : PreparedRun S) (feature : String)
    (slot : Fin r.detectors.length) :
    (r.withFeature feature slot).answerers = r.answerers ++ [(feature, r.detectors.get slot)] := by
  simp [answerers, withFeature]

theorem answerers_withDetector (r : PreparedRun S) (feature : String) (d : Detector S) :
    (r.withDetector feature d).answerers = r.answerers ++ [(feature, d)] := by
  simp [answerers, withDetector]

/-- Ask detectors in order, each for one feature. -/
def askAll (record : ResultRecord) : List (String × Detector S) → Job S ResultRecord
  | [] => pure record
  | (feature, d) :: rest => do
    let value ← d.detect feature
    askAll (record.insert feature value) rest

theorem execute_eq (r : PreparedRun S) : r.execute = askAll .empty r.answerers := by
  have hplan (record : ResultRecord) (plan : List (String × Fin r.detectors.length)) :
      executePlan r.detectors record plan =
        askAll record (plan.map fun entry => (entry.1, r.detectors.get entry.2)) := by
    induction record, plan using executePlan.induct with
    | case1 record => rfl
    | case2 record feature slot rest ih =>
      rw [executePlan, List.map_cons, askAll]
      exact congrArg _ (funext ih)
  exact hplan .empty r.plan

/-- The position of a name is that of a detector that bears it, and without one nobody does. -/
theorem slot?_eq_some {r : PreparedRun S} {name : String} {slot : Fin r.detectors.length}
    (h : r.slot? name = some slot) : (r.detectors.get slot).name = name := by
  have hname := (List.findFinIdx?_eq_some_iff.1 h).1
  exact eq_of_beq hname

theorem slot?_eq_none {r : PreparedRun S} {name : String} (h : r.slot? name = none) :
    ∀ d ∈ r.detectors, d.name ≠ name := by
  intro d hd hname
  refine List.findFinIdx?_eq_none_iff.1 h d hd ?_
  rw [hname]
  exact beq_self_eq_true name

end PreparedRun

/-! ## Building an instance -/

section Instances

variable {S : Type} (b : InstanceBuilder S)

theorem Building.exec_onState {α : Type} (job : Job S α) (built : Building S) :
    (Building.onState job).exec built =
      ((job.exec built.state).1, { built with state := (job.exec built.state).2 }) := rfl

namespace InstanceBuilder

/-- What can come of asking for a parser: it is kept, it cannot be built, or its factory decides. -/
inductive ParserRun (detector name : String) (built : Building S) :
    Except SurveyError (Parser S) → Building S → Prop
  | kept {p : Parser S} (h : built.parser? name = some p) :
      ParserRun detector name built (.ok p) built
  | unknown {e : SurveyError} (new : built.parser? name = none)
      (h : b.parserFactory detector name = .error e) :
      ParserRun detector name built (.error e) built
  | failed {spec : ParserSpec} {factory : ParserFactory S} {e : SurveyError} {s : S}
      (new : built.parser? name = none)
      (known : b.parserFactory detector name = .ok (spec, factory))
      (h : (factory ⟨spec, b.inputs, b.timeout⟩).exec built.state = (.error e, s)) :
      ParserRun detector name built (.error e) { built with state := s }
  | made {spec : ParserSpec} {factory : ParserFactory S} {p : Parser S} {s : S}
      (new : built.parser? name = none)
      (known : b.parserFactory detector name = .ok (spec, factory))
      (h : (factory ⟨spec, b.inputs, b.timeout⟩).exec built.state = (.ok p, s)) :
      ParserRun detector name built (.ok p) ({ built with state := s }.keeping name p)

/-- The parser that a declaration names, if it names one. -/
inductive NamedParserRun (spec : DetectorSpec) (built : Building S) :
    Except SurveyError (Option (Parser S)) → Building S → Prop
  | nameless (h : spec.parser = none) : NamedParserRun spec built (.ok none) built
  | named {name : String} {r : Except SurveyError (Parser S)} {built' : Building S}
      (h : spec.parser = some name) (hr : b.ParserRun spec.name name built r built') :
      NamedParserRun spec built (r.map some) built'

/-- What can come of building a detector: its kind is not known, the parser cannot be had, or the
factory decides. -/
inductive DetectorRun (spec : DetectorSpec) (built : Building S) :
    Except SurveyError (Detector S) → Building S → Prop
  | unknownKind (h : b.kinds.detectors.get? spec.kind = none) :
      DetectorRun spec built (.error (.unknownDetectorKind spec.kind)) built
  | noParser {factory : DetectorFactory S} {e : SurveyError} {built' : Building S}
      (known : b.kinds.detectors.get? spec.kind = some factory)
      (h : b.NamedParserRun spec built (.error e) built') : DetectorRun spec built (.error e) built'
  | decided {factory : DetectorFactory S} {parser : Option (Parser S)} {built' : Building S}
      {r : Except SurveyError (Detector S)} {s : S}
      (known : b.kinds.detectors.get? spec.kind = some factory)
      (hparser : b.NamedParserRun spec built (.ok parser) built')
      (h : (factory ⟨spec, b.inputs, parser, b.timeout⟩).exec built'.state = (r, s)) :
      DetectorRun spec built r { built' with state := s }

theorem parser_run (detector name : String) (built : Building S) :
    b.ParserRun detector name built ((b.parser detector name).exec built).1
      ((b.parser detector name).exec built).2 := by
  unfold parser
  cases hkept : built.parser? name with
  | some p =>
    rw [Attempt.exec_bind, Attempt.exec_ask, hkept]
    exact .kept hkept
  | none =>
    rw [Attempt.exec_bind, Attempt.exec_ask, hkept]
    cases hknown : b.parserFactory detector name with
    | error e => exact .unknown hkept hknown
    | ok found =>
      obtain ⟨spec, factory⟩ := found
      rcases hmade : (factory ⟨spec, b.inputs, b.timeout⟩).exec built.state with ⟨e | p, s⟩
      · have hon : (Building.onState (factory ⟨spec, b.inputs, b.timeout⟩)).exec built =
            (.error e, { built with state := s }) := by
          rw [Building.exec_onState, hmade]
        simp only [Attempt.exec_bind, Attempt.exec_ofExcept, hon]
        exact .failed hkept hknown hmade
      · have hon : (Building.onState (factory ⟨spec, b.inputs, b.timeout⟩)).exec built =
            (.ok p, { built with state := s }) := by
          rw [Building.exec_onState, hmade]
        simp only [Attempt.exec_bind, Attempt.exec_ofExcept, hon]
        exact .made hkept hknown hmade

theorem namedParser_run (spec : DetectorSpec) (built : Building S) :
    b.NamedParserRun spec built ((b.namedParser spec).exec built).1
      ((b.namedParser spec).exec built).2 := by
  unfold namedParser
  cases hname : spec.parser with
  | none => exact .nameless hname
  | some name =>
    have hrun := b.parser_run spec.name name built
    simp only [Attempt.exec_bind]
    rcases hp : (b.parser spec.name name).exec built with ⟨e | p, built'⟩ <;> rw [hp] at hrun
    · exact .named (r := .error e) hname hrun
    · exact .named (r := .ok p) hname hrun

theorem detector_run (spec : DetectorSpec) (built : Building S) :
    b.DetectorRun spec built ((b.detector spec).exec built).1 ((b.detector spec).exec built).2 := by
  unfold detector
  cases hknown : b.kinds.detectors.get? spec.kind with
  | none => exact .unknownKind hknown
  | some factory =>
    have hrun := b.namedParser_run spec built
    simp only [Attempt.exec_bind]
    rcases hp : (b.namedParser spec).exec built with ⟨e | parser, built'⟩ <;> rw [hp] at hrun
    · exact .noParser hknown hrun
    · exact .decided hknown hrun rfl

end InstanceBuilder

/-! ## Building a run -/

namespace Runner

/-- One assignment: its detector is there, or it is built. -/
inductive Step (a : Assignment) :
    PreparedRun S → Building S → PreparedRun S → Building S → Prop
  | kept {run : PreparedRun S} {built : Building S} {slot : Fin run.detectors.length}
      (found : run.slot? a.detector.name = some slot) :
      Step a run built (run.withFeature a.feature slot) built
  | made {run : PreparedRun S} {built built' : Building S} {d : Detector S}
      (absent : run.slot? a.detector.name = none)
      (h : (b.detector a.detector).exec built = (.ok d, built')) :
      Step a run built (run.withDetector a.feature d) built'

variable {b} {I : List Assignment → PreparedRun S → Building S → Prop}

/-- The building ended with an error at an assignment, everything before having gone well. -/
def StoppedAt (b : InstanceBuilder S) (I : List Assignment → PreparedRun S → Building S → Prop)
    (assignments : List Assignment) (e : SurveyError) (built : Building S) : Prop :=
  ∃ before a behind run reached, assignments = before ++ a :: behind ∧ I before run reached ∧
    run.slot? a.detector.name = none ∧
    (b.detector a.detector).exec reached = (.error e, built)

/-- What holds at the beginning, and is kept by each step, holds of the run that is built. -/
theorem build_spec (assignments : List Assignment) {run : PreparedRun S} {built : Building S}
    (start : I [] run built)
    (step : ∀ {before a behind run built run' built'}, assignments = before ++ a :: behind →
      I before run built → Step b a run built run' built' → I (before ++ [a]) run' built') :
    match (build b run assignments).exec built with
    | (.ok run', built') => I assignments run' built'
    | (.error e, built') => StoppedAt b I assignments e built' := by
  -- along what is left of the assignments, those in `before` having been built
  have hleft (before rest : List Assignment) (run : PreparedRun S) (built : Building S)
      (hsplit : assignments = before ++ rest) (h : I before run built) :
      match (build b run rest).exec built with
      | (.ok run', built') => I assignments run' built'
      | (.error e, built') => StoppedAt b I assignments e built' := by
    induction rest generalizing before run built with
    | nil =>
      rw [List.append_nil] at hsplit
      subst hsplit
      exact h
    | cons a behind ih =>
      have hsplit' : assignments = before ++ [a] ++ behind := by
        rw [hsplit, List.append_cons]
      rw [build]
      cases hslot : run.slot? a.detector.name with
      | some slot => exact ih _ _ _ hsplit' (step hsplit h (.kept hslot))
      | none =>
        rcases hmade : (b.detector a.detector).exec built with ⟨e | d, built'⟩
        · simp only [Attempt.exec_bind_error hmade]
          exact ⟨before, a, behind, run, built, hsplit, h, hslot, hmade⟩
        · simp only [Attempt.exec_bind_ok hmade]
          exact ih _ _ _ hsplit' (step hsplit h (.made hslot hmade))
  exact hleft [] assignments run built rfl start

theorem exec_prepare (b : InstanceBuilder S) (requested : List String) (s : S) :
    (prepare b requested).exec s =
      match Resolver.assign b.config (b.config.featuresOrDefault requested) with
      | .error e => (.error e, s)
      | .ok assignments =>
        let r := (build b .empty assignments).exec { state := s }
        (r.1.map fun run => (run, r.2.constructed), r.2.state) := by
  unfold prepare Attempt.exec ExceptT.run
  cases Resolver.assign b.config (b.config.featuresOrDefault requested) with
  | error e => rfl
  | ok assignments => rfl

end Runner

end Instances

end FeatureSurvey
