import FeatureSurvey.Proofs.Resolver.Assignment
import FeatureSurvey.Proofs.Run.Building
import FeatureSurvey.Proofs.Run.Matching
import Mathlib.Data.List.Forall2
import Mathlib.Data.Option.Basic

/-!
# `Proofs/Run/Parallel.lean` — two runs side by side

Two builders are *parallel* when they have one configuration, and whatever the one builds, the other
builds as well: the states, the errors, the parsers and the detectors stand in given relations. The
relations are parameters. A builder may be compared with one over another type of states, or with
itself in two worlds.

**Parallel builders prepare parallel runs** (`Runner.prepare_parallel`), and if related detectors
answer alike, the runs give the same record (`Runner.run_parallel`). A run asks no detector that is
not declared, so that only these have to answer alike.
-/

set_option autoImplicit false

namespace FeatureSurvey

section Parallel

variable {S T : Type} {J : S → T → Prop} {E : SurveyError → SurveyError → Prop}
  {P : Parser S → Parser T → Prop} {D : DetectorSpec → Detector S → Detector T → Prop}

/-- What the one builds the other builds as well. -/
structure InstanceBuilder.Parallel (J : S → T → Prop) (E : SurveyError → SurveyError → Prop)
    (P : Parser S → Parser T → Prop) (D : DetectorSpec → Detector S → Detector T → Prop)
    (b : InstanceBuilder S) (b' : InstanceBuilder T) : Prop where
  errors : ∀ e, e.isConfiguration = true → E e e
  config : b.config = b'.config
  parsers : ∀ detector name, OutcomesMatch E
    (fun found found' => Attempt.Matches J E P (found.2 ⟨found.1, b.inputs, b.timeout⟩)
      (found'.2 ⟨found'.1, b'.inputs, b'.timeout⟩))
    (b.parserFactory detector name) (b'.parserFactory detector name)
  detectors : ∀ spec, Option.Rel
    (fun factory factory' => ∀ parser parser', Option.Rel P parser parser' →
      Attempt.Matches J E (D spec) (factory ⟨spec, b.inputs, parser, b.timeout⟩)
        (factory' ⟨spec, b'.inputs, parser', b'.timeout⟩))
    (b.kinds.detectors.get? spec.kind) (b'.kinds.detectors.get? spec.kind)
  names : ∀ spec d d', D spec d d' → d.name = d'.name

/-- Related, and declared in the configuration. -/
def InstanceBuilder.Declared (b : InstanceBuilder S)
    (D : DetectorSpec → Detector S → Detector T → Prop) (spec : DetectorSpec) (d : Detector S)
    (d' : Detector T) : Prop := spec ∈ b.config.detectors ∧ D spec d d'

/-! ## Buildings -/

/-- Related states, and related parsers under the same names, built in the same order. -/
structure Building.Parallel (J : S → T → Prop) (P : Parser S → Parser T → Prop) (t : Building S)
    (u : Building T) : Prop where
  state : J t.state u.state
  parser? : ∀ name, Option.Rel P (t.parser? name) (u.parser? name)
  constructed : t.constructed = u.constructed

namespace Building.Parallel

variable {t : Building S} {u : Building T}

theorem start {s : S} {s' : T} (h : J s s') :
    ({ state := s } : Building S).Parallel J P { state := s' } :=
  ⟨h, fun _ => .none, rfl⟩

theorem keeping {p : Parser S} {p' : Parser T} (h : t.Parallel J P u) (hp : P p p')
    (name : String) : (t.keeping name p).Parallel J P (u.keeping name p') where
  state := h.state
  parser? other := by
    rw [Building.parser?_keeping, Building.parser?_keeping]
    split
    · exact .some hp
    · exact h.parser? other
  constructed := congrArg (· ++ [name]) h.constructed

theorem onState {α β : Type} {R : α → β → Prop} {job : Job S α} {job' : Job T β}
    (h : Attempt.Matches J E R job job') :
    Attempt.Matches (Building.Parallel J P) E R (Building.onState job)
      (Building.onState job') :=
  fun t u hI => ⟨(h t.state u.state hI.state).1, (h t.state u.state hI.state).2, hI.parser?,
    hI.constructed⟩

end Building.Parallel

namespace InstanceBuilder.Parallel

variable {b : InstanceBuilder S} {b' : InstanceBuilder T}

theorem parser (h : b.Parallel J E P D b') (detector name : String) :
    Attempt.Matches (Building.Parallel J P) E P (b.parser detector name)
      (b'.parser detector name) := by
  refine Attempt.Matches.bind (R := Option.Rel P) (.ask fun t u hI => hI.parser? name) ?_
  rintro _ _ (@⟨p, p', hp⟩ | _)
  · exact .pure hp
  · refine Attempt.Matches.bind (.ofExcept (h.parsers detector name)) ?_
    rintro ⟨spec, factory⟩ ⟨spec', factory'⟩ hfactory
    refine (Building.Parallel.onState hfactory).bind fun p p' hp => ?_
    refine Attempt.Matches.bind (R := fun _ _ => True) (.always fun t u hI => ?_)
      fun _ _ _ => .pure hp
    exact ⟨trivial, hI.keeping hp name⟩

theorem namedParser (h : b.Parallel J E P D b') (spec : DetectorSpec) :
    Attempt.Matches (Building.Parallel J P) E (Option.Rel P) (b.namedParser spec)
      (b'.namedParser spec) := by
  unfold InstanceBuilder.namedParser
  cases spec.parser with
  | none => exact .pure .none
  | some name => exact (h.parser spec.name name).bind fun p p' hp => .pure (.some hp)

theorem detector (h : b.Parallel J E P D b') (spec : DetectorSpec) :
    Attempt.Matches (Building.Parallel J P) E (D spec) (b.detector spec) (b'.detector spec) := by
  unfold InstanceBuilder.detector
  have hknown := h.detectors spec
  generalize b.kinds.detectors.get? spec.kind = factory? at hknown ⊢
  generalize b'.kinds.detectors.get? spec.kind = factory?' at hknown ⊢
  rcases hknown with @⟨factory, factory', hfactory⟩ | _
  · refine (h.namedParser spec).bind fun parser parser' hparser => ?_
    exact Building.Parallel.onState (hfactory parser parser' hparser)
  · exact .fail (h.errors _ rfl)

end InstanceBuilder.Parallel

/-! ## Runs -/

/-- Related detectors for the same features. -/
structure PreparedRun.Parallel (D : DetectorSpec → Detector S → Detector T → Prop)
    (run : PreparedRun S) (run' : PreparedRun T) : Prop where
  detectors : List.Forall₂ (fun d d' => ∃ spec, D spec d d') run.detectors run'.detectors
  answerers : List.Forall₂ (fun e e' => e.1 = e'.1 ∧ ∃ spec, D spec e.2 e'.2) run.answerers
    run'.answerers

namespace PreparedRun.Parallel

variable {run : PreparedRun S} {run' : PreparedRun T}

/-- Positions are a matter of names. -/
theorem slot? (h : run.Parallel D run') (names : ∀ spec d d', D spec d d' → d.name = d'.name)
    (name : String) : (run.slot? name).map (·.val) = (run'.slot? name).map (·.val) := by
  have hposition {U : Type} (r : PreparedRun U) : (r.slot? name).map (·.val) =
      (r.detectors.map (·.name)).findIdx? fun other => other == name := by
    rw [PreparedRun.slot?, ← List.findIdx?_eq_map_findFinIdx?_val, List.findIdx?_map]
    rfl
  have hnames {ds : List (Detector S)} {ds' : List (Detector T)}
      (hds : List.Forall₂ (fun d d' => ∃ spec, D spec d d') ds ds') :
      ds.map (·.name) = ds'.map (·.name) := by
    induction hds with
    | nil => rfl
    | cons hd _ ih =>
      obtain ⟨spec, hd⟩ := hd
      rw [List.map_cons, List.map_cons, names spec _ _ hd, ih]
  rw [hposition, hposition, hnames h.detectors]

theorem withFeature (h : run.Parallel D run') (feature : String) {slot : Fin run.detectors.length}
    {slot' : Fin run'.detectors.length} (hslot : slot.val = slot'.val) :
    (run.withFeature feature slot).Parallel D (run'.withFeature feature slot') where
  detectors := h.detectors
  answerers := by
    rw [answerers_withFeature, answerers_withFeature]
    refine List.rel_append h.answerers (.cons ⟨rfl, ?_⟩ .nil)
    have hlt : slot.val < run'.detectors.length := hslot ▸ slot'.isLt
    have hslot : slot' = ⟨slot.val, hlt⟩ := Fin.ext hslot.symm
    rw [hslot]
    exact h.detectors.get slot.isLt hlt

theorem withDetector (h : run.Parallel D run') (feature : String) {spec : DetectorSpec}
    {d : Detector S} {d' : Detector T} (hd : D spec d d') :
    (run.withDetector feature d).Parallel D (run'.withDetector feature d') where
  detectors := List.rel_append h.detectors (.cons ⟨spec, hd⟩ .nil)
  answerers := by
    rw [answerers_withDetector, answerers_withDetector]
    exact List.rel_append h.answerers (.cons ⟨rfl, spec, hd⟩ .nil)

end PreparedRun.Parallel

namespace Runner

variable {b : InstanceBuilder S} {b' : InstanceBuilder T}

theorem build_parallel (h : b.Parallel J E P D b') {run : PreparedRun S} {run' : PreparedRun T}
    (hrun : run.Parallel (b.Declared D) run') {assignments : List Assignment}
    (declared : ∀ a ∈ assignments, a.detector ∈ b.config.detectors) :
    Attempt.Matches (Building.Parallel J P) E (PreparedRun.Parallel (b.Declared D))
      (build b run assignments) (build b' run' assignments) := by
  induction assignments generalizing run run' with
  | nil => exact .pure hrun
  | cons a rest ih =>
    obtain ⟨ha, hrest⟩ := List.forall_mem_cons.1 declared
    rw [build, build]
    have hslot := hrun.slot? (fun spec d d' hd => h.names spec d d' hd.2) a.detector.name
    cases hfound : run.slot? a.detector.name with
    | some slot =>
      rw [hfound] at hslot
      obtain ⟨slot', hfound', hval⟩ := Option.map_eq_some_iff.1 hslot.symm
      rw [hfound']
      exact ih (hrun.withFeature a.feature hval.symm) hrest
    | none =>
      rw [hfound] at hslot
      rw [Option.map_eq_none_iff.1 hslot.symm]
      exact (h.detector a.detector).bind fun d d' hd =>
        ih (hrun.withDetector a.feature ⟨ha, hd⟩) hrest

theorem prepare_parallel (h : b.Parallel J E P D b') (requested : List String) :
    Attempt.Matches J E (fun r r' => r.1.Parallel (b.Declared D) r'.1 ∧ r.2 = r'.2)
      (prepare b requested) (prepare b' requested) := by
  intro s t hI
  rw [exec_prepare, exec_prepare, ← h.config]
  cases hassign : Resolver.assign b.config (b.config.featuresOrDefault requested) with
  | error e => exact ⟨.error (h.errors e (Resolver.isConfiguration_of_assign hassign)), hI⟩
  | ok assignments =>
    have hdeclared : ∀ a ∈ assignments, a.detector ∈ b.config.detectors := fun a ha =>
      (Config.detector?_eq_some (Resolver.detector?_of_assign hassign ha)).1
    have hstart : ({ state := s } : Building S).Parallel J P { state := t } := .start hI
    have hempty : PreparedRun.Parallel (b.Declared D) .empty .empty := ⟨.nil, .nil⟩
    obtain ⟨houtcome, hbuilt⟩ := build_parallel h hempty hdeclared _ _ hstart
    exact ⟨houtcome.map fun run run' hrun => ⟨hrun, hbuilt.constructed⟩, hbuilt.state⟩

/-- Related detectors that answer alike are asked alike. -/
theorem askAll_parallel
    (alike : ∀ spec d d', D spec d d' → ∀ feature, Attempt.Matches J E Eq (d.detect feature)
      (d'.detect feature))
    (record : ResultRecord) {asked : List (String × Detector S)}
    {asked' : List (String × Detector T)}
    (h : List.Forall₂ (fun e e' => e.1 = e'.1 ∧ ∃ spec, D spec e.2 e'.2) asked asked') :
    Attempt.Matches J E Eq (PreparedRun.askAll record asked)
      (PreparedRun.askAll record asked') := by
  induction h generalizing record with
  | nil => exact .pure rfl
  | @cons e e' rest rest' he _ ih =>
    obtain ⟨feature, d⟩ := e
    obtain ⟨feature', d'⟩ := e'
    obtain ⟨hfeature, spec, hd⟩ := he
    dsimp only at hfeature hd
    subst hfeature
    refine (alike spec d d' hd feature).bind_eq fun value => ?_
    exact ih _

theorem run_parallel (h : b.Parallel J E P D b')
    (alike : ∀ spec ∈ b.config.detectors, ∀ d d', D spec d d' → ∀ feature,
      Attempt.Matches J E Eq (d.detect feature) (d'.detect feature))
    (requested : List String) :
    Attempt.Matches J E Eq (Runner.run b requested) (Runner.run b' requested) := by
  refine (prepare_parallel h requested).bind ?_
  rintro ⟨run, parsers⟩ ⟨run', parsers'⟩ ⟨hrun, -⟩
  show Attempt.Matches _ _ _ run.execute run'.execute
  rw [PreparedRun.execute_eq, PreparedRun.execute_eq]
  exact askAll_parallel (fun spec d d' hd => alike spec hd.1 d d' hd.2) .empty hrun.answerers

end Runner

end Parallel

end FeatureSurvey
