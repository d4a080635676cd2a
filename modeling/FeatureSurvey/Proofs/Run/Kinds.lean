import FeatureSurvey.Registry.Builder

/-!
# `Proofs/Run/Kinds.lean` — what may be asked of kinds

Neither the resolver nor the runner knows any kind, so what they do with all of them can be said
only of kinds that keep to something. There are two such properties. A detector of a *named* kind
bears the name it is declared under; detectors are looked up by name, and others could not be found.
*Inert* kinds leave the state as it is while they are built.

Both are shown of a registry one kind at a time, in the way it was put together.
-/

set_option autoImplicit false

namespace FeatureSurvey

/-! ## Outcomes, part by part -/

theorem map_eq_ok {ε α β : Type} {r : Except ε α} {f : α → β} {b : β} :
    r.map f = .ok b ↔ ∃ a, r = .ok a ∧ f a = b := by
  cases r <;> simp [Except.map]

theorem map_eq_error {ε α β : Type} {r : Except ε α} {f : α → β} {e : ε} :
    r.map f = .error e ↔ r = .error e := by
  cases r <;> simp [Except.map]

theorem bind_eq_ok {ε α β : Type} {r : Except ε α} {f : α → Except ε β} {b : β} :
    r.bind f = .ok b ↔ ∃ a, r = .ok a ∧ f a = .ok b := by
  cases r <;> simp [Except.bind]

theorem bind_eq_error {ε α β : Type} {r : Except ε α} {f : α → Except ε β} {e : ε} :
    r.bind f = .error e ↔ r = .error e ∨ ∃ a, r = .ok a ∧ f a = .error e := by
  cases r <;> simp [Except.bind]

/-! ## Kinds -/

variable {S : Type}

/-- What is built from a declaration bears the name that is declared. -/
def DetectorFactory.Named (factory : DetectorFactory S) : Prop :=
  ∀ (build : DetectorBuild S) s d s', (factory build).exec s = (.ok d, s') →
    d.name = build.spec.name

namespace KindRegistry

def Named (kinds : KindRegistry S) : Prop :=
  ∀ kind factory, kinds.detectors.get? kind = some factory → DetectorFactory.Named factory

/-- Building leaves the state as it is. -/
structure Inert (kinds : KindRegistry S) : Prop where
  parsers : ∀ kind factory, kinds.parsers.get? kind = some factory →
    ∀ build s, ((factory build).exec s).2 = s
  detectors : ∀ kind factory, kinds.detectors.get? kind = some factory →
    ∀ build s, ((factory build).exec s).2 = s

section Registries

variable {kinds : KindRegistry S} {kind : String}

theorem Named.empty : (KindRegistry.empty : KindRegistry S).Named := by
  intro kind factory h
  cases h

theorem Named.withParser (h : kinds.Named) (factory : ParserFactory S) :
    (kinds.withParser kind factory).Named := h

theorem Named.withDetector {factory : DetectorFactory S} (h : kinds.Named)
    (hnew : DetectorFactory.Named factory) : (kinds.withDetector kind factory).Named := by
  intro kind' factory' h'
  rw [KindRegistry.withDetector, Table.get?_insert] at h'
  split at h'
  · cases h'
    exact hnew
  · exact h kind' factory' h'

end Registries

end KindRegistry

/-! ## Finding a parser's factory -/

namespace InstanceBuilder

variable {b : InstanceBuilder S} {detector name : String} {found : ParserSpec × ParserFactory S}

theorem parserFactory_eq_error {e : SurveyError} (h : b.parserFactory detector name = .error e) :
    e.isConfiguration := by
  unfold parserFactory at h
  split at h
  · cases h
    rfl
  · split at h <;> cases h
    rfl

theorem parserFactory_eq_ok_iff : b.parserFactory detector name = .ok found ↔
    b.config.parser? name = some found.1 ∧ b.kinds.parsers.get? found.1.kind = some found.2 := by
  constructor
  · intro h
    unfold parserFactory at h
    split at h
    · cases h
    · rename_i spec hspec
      split at h
      · cases h
      · rename_i factory hfactory
        cases h
        exact ⟨hspec, hfactory⟩
  · rintro ⟨hspec, hfactory⟩
    simp [parserFactory, hspec, hfactory]

/-- Whom a parser is built for matters only if it cannot be built. -/
theorem parserFactory_of_ok (h : b.parserFactory detector name = .ok found) (other : String) :
    b.parserFactory other name = .ok found :=
  parserFactory_eq_ok_iff.2 (parserFactory_eq_ok_iff.1 h)

end InstanceBuilder

end FeatureSurvey
