import FeatureSurvey.Run.Runner

/-!
# `Proofs/Log/Keeping.lean` — invariants, from the kinds of a registry to the runs over it

A detector may have a parser, parsers are kept from one detector to the next while a run is built,
and a detector answers long after it was built. So what all steps of a run keep is shown of jobs
that keep an invariant and hand back something good (`Attempt.Keeps`): a factory hands back a parser
or a detector whose own jobs keep the invariant, too. While a run is being built, the invariant is
that of the state, and that the parsers built so far are good.

The inputs are the same throughout a run, so a kind has to keep the invariant for these only.

The result is `Runner.run_keeps`: **a run over kinds that keep an invariant keeps it**, whatever the
configuration and the features asked for.
-/

set_option autoImplicit false

namespace FeatureSurvey

/-! ## Jobs that keep an invariant -/

/-- The job keeps an invariant, and what it hands back is good. -/
def Attempt.Keeps {ε S α : Type} (I : S → Prop) (job : Attempt ε S α) (G : α → Prop) : Prop :=
  ∀ s, I s → I (job.exec s).2 ∧ ∀ a, (job.exec s).1 = .ok a → G a

namespace Attempt.Keeps

variable {ε S α β : Type} {I : S → Prop} {job : Attempt ε S α} {G : α → Prop}

theorem pure {a : α} (h : G a) : (Pure.pure a : Attempt ε S α).Keeps I G := by
  intro s hs
  refine ⟨hs, fun b hb => ?_⟩
  cases hb
  exact h

theorem fail {e : ε} : (Attempt.fail e : Attempt ε S α).Keeps I G :=
  fun _ hs => ⟨hs, fun _ ha => by cases ha⟩

theorem ofExcept {r : Except ε α} (h : ∀ a, r = .ok a → G a) :
    (Attempt.ofExcept r : Attempt ε S α).Keeps I G := fun _ hs => ⟨hs, h⟩

theorem ask {question : S → α} (h : ∀ s, I s → G (question s)) :
    (Attempt.ask question : Attempt ε S α).Keeps I G := by
  intro s hs
  refine ⟨hs, fun a ha => ?_⟩
  cases ha
  exact h s hs

theorem always {step : StateM S α} (h : ∀ s, I s → I (step s).2 ∧ G (step s).1) :
    (Attempt.always step : Attempt ε S α).Keeps I G := by
  intro s hs
  refine ⟨(h s hs).1, fun a ha => ?_⟩
  cases ha
  exact (h s hs).2

theorem bind {next : α → Attempt ε S β} {H : β → Prop} (h : job.Keeps I G)
    (hnext : ∀ a, G a → (next a).Keeps I H) : (job >>= next).Keeps I H := by
  intro s hs
  obtain ⟨hI, hG⟩ := h s hs
  rw [exec_bind]
  rcases hjob : job.exec s with ⟨e | a, s'⟩ <;> rw [hjob] at hI hG
  · exact ⟨hI, fun _ ha => by cases ha⟩
  · exact hnext a (hG a rfl) s' hI

end Attempt.Keeps

/-! ## Kinds that keep an invariant -/

section Kinds

variable {S α : Type}

def Parser.Keeps (I : S → Prop) (p : Parser S) : Prop :=
  ∀ selector, (p.parse selector).Keeps I fun _ => True

def Detector.Keeps (I : S → Prop) (d : Detector S) : Prop :=
  ∀ feature, (d.detect feature).Keeps I fun _ => True

/-- All that is built for these inputs keeps the invariant, a detector with whatever parser that
does so. -/
structure KindRegistry.Keeps (I : S → Prop) (inputs : Inputs) (kinds : KindRegistry S) : Prop where
  parsers : ∀ kind factory, kinds.parsers.get? kind = some factory →
    ∀ b : ParserBuild, b.inputs = inputs → (factory b).Keeps I (Parser.Keeps I)
  detectors : ∀ kind factory, kinds.detectors.get? kind = some factory →
    ∀ b : DetectorBuild S, b.inputs = inputs → (∀ p, b.parser = some p → p.Keeps I) →
      (factory b).Keeps I (Detector.Keeps I)

variable {I : S → Prop}

namespace KindRegistry.Keeps

variable {kinds : KindRegistry S} {inputs : Inputs} {kind : String}

theorem empty : (KindRegistry.empty : KindRegistry S).Keeps I inputs where
  parsers _ _ h := by cases h
  detectors _ _ h := by cases h

theorem withParser {factory : ParserFactory S} (h : kinds.Keeps I inputs)
    (hf : ∀ b : ParserBuild, b.inputs = inputs → (factory b).Keeps I (Parser.Keeps I)) :
    (kinds.withParser kind factory).Keeps I inputs where
  parsers kind' factory' h' := by
    rw [KindRegistry.withParser, Table.get?_insert] at h'
    split at h'
    · cases h'
      exact hf
    · exact h.parsers kind' factory' h'
  detectors := h.detectors

theorem withDetector {factory : DetectorFactory S} (h : kinds.Keeps I inputs)
    (hf : ∀ b : DetectorBuild S, b.inputs = inputs → (∀ p, b.parser = some p → p.Keeps I) →
      (factory b).Keeps I (Detector.Keeps I)) :
    (kinds.withDetector kind factory).Keeps I inputs where
  parsers := h.parsers
  detectors kind' factory' h' := by
    rw [KindRegistry.withDetector, Table.get?_insert] at h'
    split at h'
    · cases h'
      exact hf
    · exact h.detectors kind' factory' h'

end KindRegistry.Keeps

/-! ## Building and running -/

/-- While a run is built: the invariant of the state, and good parsers. -/
def Building.Holds (I : S → Prop) (b : Building S) : Prop :=
  I b.state ∧ ∀ name p, b.parser? name = some p → p.Keeps I

theorem Building.onState_keeps {job : Job S α} {G : α → Prop} (h : job.Keeps I G) :
    (Building.onState job).Keeps (Building.Holds I) G :=
  fun b hb => ⟨⟨(h b.state hb.1).1, hb.2⟩, (h b.state hb.1).2⟩

variable {b : InstanceBuilder S}

theorem InstanceBuilder.parserFactory_keeps (hk : b.kinds.Keeps I b.inputs) {detector name : String}
    {found : ParserSpec × ParserFactory S} (h : b.parserFactory detector name = .ok found) :
    (found.2 ⟨found.1, b.inputs, b.timeout⟩).Keeps I (Parser.Keeps I) := by
  unfold InstanceBuilder.parserFactory at h
  cases hspec : b.config.parser? name with
  | none => simp [hspec] at h
  | some spec =>
    cases hkind : b.kinds.parsers.get? spec.kind with
    | none => simp [hspec, hkind] at h
    | some factory =>
      simp only [hspec, hkind, Except.ok.injEq] at h
      subst h
      exact hk.parsers _ _ hkind _ rfl

theorem Building.Holds.withParser {built : Building S} {p : Parser S} (h : built.Holds I)
    (hp : p.Keeps I) (name : String) : (built.keeping name p).Holds I := by
  refine ⟨h.1, fun other p' hp' => ?_⟩
  rw [Building.parser?_keeping] at hp'
  split at hp'
  · cases hp'
    exact hp
  · exact h.2 other p' hp'

theorem InstanceBuilder.parser_keeps (hk : b.kinds.Keeps I b.inputs) (detector name : String) :
    (b.parser detector name).Keeps (Building.Holds I) (Parser.Keeps I) := by
  refine Attempt.Keeps.bind (G := fun built => ∀ p, built = some p → p.Keeps I)
    (.ask fun built hbuilt => hbuilt.2 name) ?_
  rintro (_ | p) hp
  · refine Attempt.Keeps.bind (.ofExcept fun found h => b.parserFactory_keeps hk h) ?_
    rintro ⟨spec, factory⟩ hfactory
    refine (Building.onState_keeps hfactory).bind fun p hp => ?_
    refine Attempt.Keeps.bind (G := fun _ => True) (.always fun built hbuilt => ?_)
      fun _ _ => .pure hp
    exact ⟨hbuilt.withParser hp name, trivial⟩
  · exact .pure (hp p rfl)

theorem InstanceBuilder.detector_keeps (hk : b.kinds.Keeps I b.inputs) (spec : DetectorSpec) :
    (b.detector spec).Keeps (Building.Holds I) (Detector.Keeps I) := by
  unfold InstanceBuilder.detector
  cases hkind : b.kinds.detectors.get? spec.kind with
  | none => exact .fail
  | some factory =>
    refine Attempt.Keeps.bind (G := fun found => ∀ p, found = some p → p.Keeps I) ?_
      fun found hfound => Building.onState_keeps (hk.detectors _ _ hkind _ rfl hfound)
    unfold InstanceBuilder.namedParser
    cases spec.parser with
    | none => exact .pure fun p hp => by cases hp
    | some name =>
      refine (b.parser_keeps hk spec.name name).bind fun p hp => .pure fun p' hp' => ?_
      cases hp'
      exact hp

theorem Runner.build_keeps (hk : b.kinds.Keeps I b.inputs) (run : PreparedRun S)
    (assignments : List Assignment) (hrun : ∀ d ∈ run.detectors, d.Keeps I) :
    (Runner.build b run assignments).Keeps (Building.Holds I)
      fun run => ∀ d ∈ run.detectors, d.Keeps I := by
  induction run, assignments using Runner.build.induct with
  | case1 run => exact .pure hrun
  | case2 run assignment rest slot hslot ih =>
    rw [Runner.build, hslot]
    exact ih hrun
  | case3 run assignment rest hslot ih =>
    rw [Runner.build, hslot]
    refine (b.detector_keeps hk assignment.detector).bind fun d hd => ih d fun d' hd' => ?_
    rcases List.mem_append.1 hd' with hd' | hd'
    · exact hrun d' hd'
    · obtain rfl := List.mem_singleton.1 hd'
      exact hd

theorem Runner.prepare_keeps (hk : b.kinds.Keeps I b.inputs) (requested : List String) :
    (Runner.prepare b requested).Keeps I fun r => ∀ d ∈ r.1.detectors, d.Keeps I := by
  intro s hs
  unfold Runner.prepare Attempt.exec ExceptT.run
  cases hassign : Resolver.assign b.config (b.config.featuresOrDefault requested) with
  | error e => exact ⟨hs, fun _ ha => by cases ha⟩
  | ok assignments =>
    obtain ⟨hstate, hgood⟩ := Runner.build_keeps hk .empty assignments
      (fun d hd => absurd hd List.not_mem_nil) ({ state := s } : Building S)
      ⟨hs, fun _ _ hp => nomatch hp⟩
    refine ⟨hstate.1, fun r hr => ?_⟩
    change Except.map _ ((Runner.build b .empty assignments).exec { state := s }).1 = .ok r at hr
    rcases hbuild : ((Runner.build b .empty assignments).exec { state := s }).1 with e | run
    · rw [hbuild] at hr
      cases hr
    · rw [hbuild] at hr
      cases hr
      exact hgood run hbuild

theorem PreparedRun.executePlan_keeps {detectors : List (Detector S)}
    (hd : ∀ d ∈ detectors, d.Keeps I) (record : ResultRecord)
    (plan : List (String × Fin detectors.length)) :
    (PreparedRun.executePlan detectors record plan).Keeps I fun _ => True := by
  induction record, plan using PreparedRun.executePlan.induct with
  | case1 record => exact .pure trivial
  | case2 record feature slot rest ih =>
    exact (hd _ (List.get_mem detectors slot) feature).bind fun value _ => ih value

theorem Runner.run_keeps (hk : b.kinds.Keeps I b.inputs) (requested : List String) :
    (Runner.run b requested).Keeps I fun _ => True :=
  (Runner.prepare_keeps hk requested).bind fun _ hr => PreparedRun.executePlan_keeps hr _ _

end Kinds

end FeatureSurvey
