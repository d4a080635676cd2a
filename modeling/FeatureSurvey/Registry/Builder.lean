import FeatureSurvey.Registry.Basic

/-!
# `Registry/Builder.lean` — building the instances of a run

Detectors are built when they are needed, and a parser when the first detector needs it. A
parser that has been built is kept under its name for the rest of the run, also if the detector
it was built for then fails; what fails leaves nothing behind.
-/

set_option autoImplicit false

namespace FeatureSurvey

/-- A state, the parsers kept under the names that stand for them, and the names in the order in
which the parsers were built. -/
structure Building (S : Type) where
  state : S
  parsers : Table (Parser S) := ∅
  constructed : List String := []

/-- What instances are built with throughout a run. -/
structure InstanceBuilder (S : Type) where
  kinds : KindRegistry S
  config : Config
  inputs : Inputs

namespace Building

variable {S α : Type}

/-- Carry a job on the state to the building. -/
def onState (job : Job S α) : Job (Building S) α :=
  job.through Building.state fun b s => { b with state := s }

def parser? (b : Building S) (name : String) : Option (Parser S) :=
  b.parsers.get? name

/-- Put down that a parser has been built, and keep it under its name. -/
def keeping (b : Building S) (name : String) (parser : Parser S) : Building S :=
  { b with constructed := b.constructed ++ [name], parsers := b.parsers.insert name parser }

@[simp] theorem state_keeping (b : Building S) (name : String) (parser : Parser S) :
    (b.keeping name parser).state = b.state := rfl

@[simp] theorem constructed_keeping (b : Building S) (name : String) (parser : Parser S) :
    (b.keeping name parser).constructed = b.constructed ++ [name] := rfl

@[simp] theorem parser?_keeping (b : Building S) (name : String) (parser : Parser S)
    (other : String) : (b.keeping name parser).parser? other =
      if other = name then some parser else b.parser? other :=
  b.parsers.get?_insert name parser other

end Building

namespace InstanceBuilder

variable {S : Type}

def timeout (b : InstanceBuilder S) : Timeout := .ofSeconds b.config.toolTimeout

/-- How to build the parser of this name, on behalf of a detector. -/
def parserFactory (b : InstanceBuilder S) (detector name : String) :
    Except SurveyError (ParserSpec × ParserFactory S) :=
  match b.config.parser? name with
  | none => .error (.unknownParser detector name)
  | some spec =>
    match b.kinds.parsers.get? spec.kind with
    | none => .error (.unknownParserKind spec.kind)
    | some factory => .ok (spec, factory)

/-- The parser of this name, built at its first use. -/
def parser (b : InstanceBuilder S) (detector name : String) : Job (Building S) (Parser S) := do
  match ← Attempt.ask fun built : Building S => built.parser? name with
  | some parser => return parser
  | none =>
    let (spec, factory) ← Attempt.ofExcept (b.parserFactory detector name)
    let parser ← Building.onState (factory ⟨spec, b.inputs, b.timeout⟩)
    Attempt.always fun built => ((), built.keeping name parser)
    return parser

/-- The parser that a detector names, if it names one. -/
def namedParser (b : InstanceBuilder S) (spec : DetectorSpec) :
    Job (Building S) (Option (Parser S)) :=
  match spec.parser with
  | some name => do return some (← b.parser spec.name name)
  | none => pure none

/-- The detector of a declaration, with the parser it names. -/
def detector (b : InstanceBuilder S) (spec : DetectorSpec) : Job (Building S) (Detector S) := do
  match b.kinds.detectors.get? spec.kind with
  | none => Attempt.fail (.unknownDetectorKind spec.kind)
  | some factory =>
    let parser ← b.namedParser spec
    Building.onState (factory ⟨spec, b.inputs, parser, b.timeout⟩)

end InstanceBuilder

end FeatureSurvey
