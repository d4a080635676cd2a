import FeatureSurvey.Detect.Session
import FeatureSurvey.Feature.Record
import FeatureSurvey.Registry.Builder
import FeatureSurvey.Resolver.Assign

/-!
# `Run/Runner.lean` — a run, from request to record

A run has two phases. Preparing it resolves the request and builds every detector that some
requested feature needs, once; nothing is built unless every feature has its detector. Executing
it asks each feature's detector, in the order of the request, and the first error ends the run
without a record.

A prepared run gives each feature the position of its detector, which is a position in the list
by its type.
-/

set_option autoImplicit false

namespace FeatureSurvey

structure PreparedRun (S : Type) where
  detectors : List (Detector S) := []
  plan : List (String × Fin detectors.length) := []

namespace PreparedRun

variable {S : Type}

def empty : PreparedRun S := {}

/-- Features in the order in which they will be answered. -/
def features (r : PreparedRun S) : List String := r.plan.map (·.1)

def detectorNames (r : PreparedRun S) : List String := r.detectors.map (·.name)

/-- Answer one more feature by a detector that is there. -/
def withFeature (r : PreparedRun S) (feature : String) (slot : Fin r.detectors.length) :
    PreparedRun S :=
  { r with plan := r.plan ++ [(feature, slot)] }

/-- Answer one more feature by one more detector. -/
def withDetector (r : PreparedRun S) (feature : String) (detector : Detector S) :
    PreparedRun S where
  detectors := r.detectors ++ [detector]
  plan :=
    (r.plan.map fun (f, slot) => (f, slot.castLE (by simp))) ++
      [(feature, ⟨r.detectors.length, by simp⟩)]

/-- The position of the detector of this name. -/
def slot? (r : PreparedRun S) (name : String) : Option (Fin r.detectors.length) :=
  r.detectors.findFinIdx? fun d => d.name == name

/-- Ask the detectors of a plan in order. -/
def executePlan (detectors : List (Detector S)) (record : ResultRecord) :
    List (String × Fin detectors.length) → Job S ResultRecord
  | [] => pure record
  | (feature, slot) :: rest => do
    let value ← (detectors.get slot).detect feature
    executePlan detectors (record.insert feature value) rest

def execute (r : PreparedRun S) : Job S ResultRecord := executePlan r.detectors .empty r.plan

end PreparedRun

namespace Runner

variable {S : Type}

/-- Build what the assignments need, behind what has been prepared. -/
def build (b : InstanceBuilder S) (run : PreparedRun S) :
    List Assignment → Job (Building S) (PreparedRun S)
  | [] => pure run
  | assignment :: rest =>
    match run.slot? assignment.detector.name with
    | some slot => build b (run.withFeature assignment.feature slot) rest
    | none => do
      -- Parsers that were built for it stay, even if the detector cannot be built.
      let detector ← b.detector assignment.detector
      build b (run.withDetector assignment.feature detector) rest

/-- Resolve a request and build its detectors. Gives also the names of the parsers built. -/
def prepare (b : InstanceBuilder S) (requested : List String) :
    Job S (PreparedRun S × List String) := fun s =>
  match Resolver.assign b.config (b.config.featuresOrDefault requested) with
  | .error e => (.error e, s)
  | .ok assignments =>
    let (r, built) := (build b .empty assignments).exec { state := s }
    (r.map fun run => (run, built.constructed), built.state)

/-- Prepare and execute. -/
def run (b : InstanceBuilder S) (requested : List String) : Job S ResultRecord := do
  let (prepared, _) ← prepare b requested
  prepared.execute

end Runner

end FeatureSurvey
