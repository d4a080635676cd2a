import FeatureSurvey.Proofs.Run.Parallel

/-!
# `Proofs/Run/Traced.lean` — a registry that notes who is called

A registry may be anything: its factories and detectors act on a state of their own, fail as they
please, and need not tell anybody that they were called. To say which of them a run calls, every
registry has a traced copy. Its factories are the same, on a state with a list; each call is put at
the end of the list with the error it ended in, if any. The detectors that it builds put down every
question with the declaration they were built for.

A trace has to be an onlooker. **A run over the traced registry is the run over the registry
itself**: the same outcome, and the same state but for the list (`Runner.run_traced`).
-/

set_option autoImplicit false

namespace FeatureSurvey

/-! ## Tables, value by value -/

namespace Table

variable {α β : Type}

def map (f : α → β) (t : Table α) : Table β :=
  ⟨t.entries.map fun e => (e.1, f e.2), List.pairwise_map.2 t.sorted⟩

theorem get?_map (f : α → β) (t : Table α) (name : String) :
    (t.map f).get? name = (t.get? name).map f := by
  simp [map, get?, List.find?_map, Function.comp_def]

end Table

/-! ## Calls -/

/-- A parser or a detector is built from a declaration, or a detector is asked for a feature. -/
inductive Call where
  | parser (spec : ParserSpec)
  | detector (spec : DetectorSpec)
  | detect (spec : DetectorSpec) (feature : String)
  deriving DecidableEq

/-- A call that was made, and the error that it ended in, if it did. -/
structure Made where
  call : Call
  error? : Option SurveyError

/-- The error that an outcome is, if it is one. -/
def errorIn {α : Type} : Except SurveyError α → Option SurveyError
  | .ok _ => none
  | .error e => some e

theorem errorIn_map {α β : Type} (f : α → β) (r : Except SurveyError α) :
    errorIn (r.map f) = errorIn r := by
  cases r <;> rfl

def Call.ended {α : Type} (call : Call) (r : Except SurveyError α) : Made := ⟨call, errorIn r⟩

structure Traced (S : Type) where
  state : S
  made : List Made := []

namespace Traced

variable {S α : Type}

/-- Do a job on the state. -/
def quietly (job : Job S α) : Job (Traced S) α :=
  job.through Traced.state fun t s => { t with state := s }

/-- Do a job on the state, and put it down as a call. -/
def calling (call : Call) (job : Job S α) : Job (Traced S) α := fun t =>
  let (r, s) := job.exec t.state
  (r, { state := s, made := t.made ++ [call.ended r] })

/-- The job without a trace. -/
def untraced (job : Job (Traced S) α) : Job S α := fun s =>
  let (r, t) := job.exec { state := s }
  (r, t.state)

theorem exec_calling (call : Call) (job : Job S α) (t : Traced S) :
    (calling call job).exec t = ((job.exec t.state).1,
      { state := (job.exec t.state).2, made := t.made ++ [call.ended (job.exec t.state).1] }) := rfl

end Traced

section Registries

variable {S : Type}

def Parser.traced (p : Parser S) : Parser (Traced S) :=
  ⟨p.name, fun selector => Traced.quietly (p.parse selector)⟩

def Parser.untraced (p : Parser (Traced S)) : Parser S :=
  ⟨p.name, fun selector => Traced.untraced (p.parse selector)⟩

def Detector.traced (spec : DetectorSpec) (d : Detector S) : Detector (Traced S) :=
  ⟨d.name, fun feature => Traced.calling (.detect spec feature) (d.detect feature)⟩

def ParserFactory.traced (factory : ParserFactory S) : ParserFactory (Traced S) := fun build => do
  return (← Traced.calling (.parser build.spec) (factory build)).traced

/-- The same to build from, without a trace. -/
def DetectorBuild.untraced (build : DetectorBuild (Traced S)) : DetectorBuild S :=
  ⟨build.spec, build.inputs, build.parser.map Parser.untraced, build.timeout⟩

def DetectorFactory.traced (factory : DetectorFactory S) : DetectorFactory (Traced S) :=
  fun build => do
    return (← Traced.calling (.detector build.spec) (factory build.untraced)).traced build.spec

def KindRegistry.traced (kinds : KindRegistry S) : KindRegistry (Traced S) where
  detectors := kinds.detectors.map DetectorFactory.traced
  parsers := kinds.parsers.map ParserFactory.traced

def InstanceBuilder.traced (b : InstanceBuilder S) : InstanceBuilder (Traced S) :=
  ⟨b.kinds.traced, b.config, b.inputs⟩

/-! ## What a traced factory does -/

theorem ParserFactory.exec_traced (factory : ParserFactory S) (build : ParserBuild)
    (t : Traced S) :
    (factory.traced build).exec t = (((factory build).exec t.state).1.map Parser.traced,
      { state := ((factory build).exec t.state).2
        made := t.made ++ [(Call.parser build.spec).ended ((factory build).exec t.state).1] }) := by
  rw [traced, Attempt.exec_bind, Traced.exec_calling]
  cases ((factory build).exec t.state).1 <;> rfl

theorem DetectorFactory.exec_traced (factory : DetectorFactory S)
    (build : DetectorBuild (Traced S)) (t : Traced S) :
    (factory.traced build).exec t =
      (((factory build.untraced).exec t.state).1.map (Detector.traced build.spec),
        { state := ((factory build.untraced).exec t.state).2
          made := t.made ++
            [(Call.detector build.spec).ended ((factory build.untraced).exec t.state).1] }) := by
  rw [traced, Attempt.exec_bind, Traced.exec_calling]
  cases ((factory build.untraced).exec t.state).1 <;> rfl

theorem InstanceBuilder.parserFactory_traced (b : InstanceBuilder S) (detector name : String) :
    b.traced.parserFactory detector name =
      (b.parserFactory detector name).map fun found => (found.1, found.2.traced) := by
  have hparser : b.traced.config.parser? name = b.config.parser? name := rfl
  unfold parserFactory
  rw [hparser]
  cases b.config.parser? name with
  | none => rfl
  | some spec =>
    have hget : b.traced.kinds.parsers.get? spec.kind =
        (b.kinds.parsers.get? spec.kind).map ParserFactory.traced := Table.get?_map _ _ _
    simp only [hget]
    cases b.kinds.parsers.get? spec.kind <;> rfl

/-! ## The trace changes nothing -/

/-- A traced builder and the builder itself do the same. -/
theorem InstanceBuilder.traced_parallel (b : InstanceBuilder S) :
    b.traced.Parallel (fun t s => t.state = s) Eq (fun p' p => p' = p.traced)
      (fun spec d' d => d' = d.traced spec) b where
  errors _ _ := rfl
  config := rfl
  parsers := by
    intro detector name
    rw [parserFactory_traced]
    cases b.parserFactory detector name with
    | error e => exact .error rfl
    | ok found =>
      refine .ok ?_
      rintro t s rfl
      rw [ParserFactory.exec_traced]
      exact ⟨.of_map fun p => rfl, rfl⟩
  detectors := by
    intro spec
    have hget : b.traced.kinds.detectors.get? spec.kind =
        (b.kinds.detectors.get? spec.kind).map DetectorFactory.traced := Table.get?_map _ _ _
    rw [hget]
    cases b.kinds.detectors.get? spec.kind with
    | none => exact .none
    | some factory =>
      refine .some fun parser' parser hparser => ?_
      have huntraced : parser'.map Parser.untraced = parser := by
        cases hparser with
        | none => rfl
        | some hp =>
          subst hp
          rfl
      rintro t s rfl
      rw [DetectorFactory.exec_traced, DetectorBuild.untraced]
      simp only [huntraced]
      exact ⟨.of_map fun d => rfl, rfl⟩
  names := by
    rintro spec _ d rfl
    rfl

/-- A run over the traced registry is the run over the registry itself. -/
theorem Runner.run_traced (b : InstanceBuilder S) (requested : List String) (t : Traced S) :
    ((run b.traced requested).exec t).1 = ((run b requested).exec t.state).1 ∧
      ((run b.traced requested).exec t).2.state = ((run b requested).exec t.state).2 := by
  have halike (spec : DetectorSpec) (_ : spec ∈ b.traced.config.detectors)
      (d' : Detector (Traced S)) (d : Detector S) (hd : d' = d.traced spec) (feature : String) :
      Attempt.Matches (fun (t : Traced S) s => t.state = s) Eq Eq (d'.detect feature)
        (d.detect feature) := by
    subst hd
    rintro t s rfl
    exact ⟨.of_eq rfl, rfl⟩
  obtain ⟨houtcome, hstate⟩ := run_parallel b.traced_parallel halike requested t t.state rfl
  exact ⟨houtcome.eq, hstate⟩

end Registries

end FeatureSurvey
