import FeatureSurvey.Proofs.Data.Table
import FeatureSurvey.Proofs.Run.Exchanges
import FeatureSurvey.Proofs.Run.Kinds
import FeatureSurvey.Proofs.Run.Traced

/-!
# `Proofs/Registry/Sharing.lean` — one parser for everybody

A builder is asked for parsers and for detectors, one after another, and any of it may fail: a name
or a kind is not known, or a factory ends in an error. What an order comes to is said once, for
parsers in `ParserCourse` and for detectors in `DetectorCourse`, with the factories that are called
for it. The calls are those that the traced copy of the builder notes, and the traced copy does what
the builder does (`Order.Course.exec_traced`).

**A parser is built once, and everybody behind gets it** (`InstanceBuilder.deliveries_share`). An
order that fails leaves no parser behind, but for one that was built for a detector whose own
factory failed after it.
-/

set_option autoImplicit false

namespace FeatureSurvey

variable {S : Type}

/-! ## Traced buildings -/

namespace Table

variable {α β : Type}

theorem map_insert (f : α → β) (t : Table α) (name : String) (value : α) :
    (t.insert name value).map f = (t.map f).insert name (f value) := by
  refine ext_get? fun other => ?_
  rw [get?_map, get?_insert, get?_insert, get?_map]
  split <;> rfl

end Table

namespace Building

/-- The same building for the traced copy of a builder, with some calls noted already. -/
def traced (t : Building S) (made : List Made) : Building (Traced S) :=
  ⟨⟨t.state, made⟩, t.parsers.map Parser.traced, t.constructed⟩

theorem parser?_traced (t : Building S) (made : List Made) (name : String) :
    (t.traced made).parser? name = (t.parser? name).map Parser.traced :=
  Table.get?_map _ _ _

theorem keeping_traced (t : Building S) (made : List Made) (name : String) (p : Parser S) :
    (t.traced made).keeping name p.traced = (t.keeping name p).traced made := by
  rw [keeping, keeping, traced, traced, Table.map_insert]

/-- The list names no parser twice, and it names those that are kept. -/
structure Consistent (t : Building S) : Prop where
  nodup : t.constructed.Nodup
  mem_iff : ∀ name, name ∈ t.constructed ↔ ∃ p, t.parser? name = some p

theorem Consistent.start (s : S) : ({ state := s } : Building S).Consistent where
  nodup := .nil
  mem_iff _ := iff_of_false List.not_mem_nil fun ⟨_, hp⟩ => nomatch hp

theorem Consistent.withState {t : Building S} (h : t.Consistent) (s : S) :
    ({ t with state := s } : Building S).Consistent := ⟨h.nodup, h.mem_iff⟩

theorem Consistent.keeping {t : Building S} (h : t.Consistent) {name : String}
    (new : t.parser? name = none) (p : Parser S) : (t.keeping name p).Consistent where
  nodup := by
    have hnot : name ∉ t.constructed := by
      rw [h.mem_iff, new]
      rintro ⟨_, hp⟩
      cases hp
    rw [constructed_keeping]
    exact List.nodup_append.2 ⟨h.nodup, List.nodup_singleton name,
      fun other hother last hlast heq => hnot (List.mem_singleton.1 hlast ▸ heq ▸ hother)⟩
  mem_iff other := by
    rw [constructed_keeping, parser?_keeping, List.mem_append, List.mem_singleton, h.mem_iff]
    by_cases hother : other = name <;> simp [hother]

end Building

/-! ## What an order comes to -/

/-- A builder is asked for a parser by its name, on behalf of a detector, or for the detector of a
declaration. -/
inductive Order where
  | parser (detector name : String)
  | detector (spec : DetectorSpec)

/-- What a builder hands out. -/
inductive Instance (S : Type) where
  | parser (p : Parser S)
  | detector (spec : DetectorSpec) (d : Detector S)

def Instance.traced : Instance S → Instance (Traced S)
  | .parser p => .parser p.traced
  | .detector spec d => .detector spec (d.traced spec)

def Order.job (b : InstanceBuilder S) : Order → Job (Building S) (Instance S)
  | .parser asking name => do return .parser (← b.parser asking name)
  | .detector spec => do return .detector spec (← b.detector spec)

namespace InstanceBuilder

variable (b : InstanceBuilder S)

/-- What can come of asking for a parser, and the calls that are made for it. -/
inductive ParserCourse (detector name : String) (built : Building S) :
    Except SurveyError (Parser S) → List Made → Building S → Prop
  | kept {p : Parser S} (h : built.parser? name = some p) :
      ParserCourse detector name built (.ok p) [] built
  | unknown {e : SurveyError} (new : built.parser? name = none)
      (h : b.parserFactory detector name = .error e) :
      ParserCourse detector name built (.error e) [] built
  | failed {spec : ParserSpec} {factory : ParserFactory S} {e : SurveyError} {s : S}
      (new : built.parser? name = none)
      (known : b.parserFactory detector name = .ok (spec, factory))
      (h : (factory ⟨spec, b.inputs, b.timeout⟩).exec built.state = (.error e, s)) :
      ParserCourse detector name built (.error e) [⟨.parser spec, some e⟩]
        { built with state := s }
  | made {spec : ParserSpec} {factory : ParserFactory S} {p : Parser S} {s : S}
      (new : built.parser? name = none)
      (known : b.parserFactory detector name = .ok (spec, factory))
      (h : (factory ⟨spec, b.inputs, b.timeout⟩).exec built.state = (.ok p, s)) :
      ParserCourse detector name built (.ok p) [⟨.parser spec, none⟩]
        ({ built with state := s }.keeping name p)

/-- The parser that a declaration names, if it names one. -/
inductive NamedParserCourse (spec : DetectorSpec) (built : Building S) :
    Except SurveyError (Option (Parser S)) → List Made → Building S → Prop
  | nameless (h : spec.parser = none) : NamedParserCourse spec built (.ok none) [] built
  | named {name : String} {r : Except SurveyError (Parser S)} {calls : List Made}
      {built' : Building S} (h : spec.parser = some name)
      (hr : b.ParserCourse spec.name name built r calls built') :
      NamedParserCourse spec built (r.map some) calls built'

/-- What can come of asking for a detector: its kind is not known, the parser cannot be had, or the
factory decides, and is given the parser that is kept. -/
inductive DetectorCourse (spec : DetectorSpec) (built : Building S) :
    Except SurveyError (Detector S) → List Made → Building S → Prop
  | unknownKind (h : b.kinds.detectors.get? spec.kind = none) :
      DetectorCourse spec built (.error (.unknownDetectorKind spec.kind)) [] built
  | noParser {factory : DetectorFactory S} {e : SurveyError} {calls : List Made}
      {built' : Building S} (known : b.kinds.detectors.get? spec.kind = some factory)
      (h : b.NamedParserCourse spec built (.error e) calls built') :
      DetectorCourse spec built (.error e) calls built'
  | decided {factory : DetectorFactory S} {parser : Option (Parser S)} {calls : List Made}
      {built' : Building S} {r : Except SurveyError (Detector S)} {s : S}
      (known : b.kinds.detectors.get? spec.kind = some factory)
      (hparser : b.NamedParserCourse spec built (.ok parser) calls built')
      (h : (factory ⟨spec, b.inputs, parser, b.timeout⟩).exec built'.state = (r, s)) :
      DetectorCourse spec built r (calls ++ [(Call.detector spec).ended r])
        { built' with state := s }

end InstanceBuilder

/-- What can come of an order. -/
inductive Order.Course (b : InstanceBuilder S) (built : Building S) :
    Order → Except SurveyError (Instance S) → List Made → Building S → Prop
  | parser {detector name : String} {r : Except SurveyError (Parser S)} {calls : List Made}
      {built' : Building S} (h : b.ParserCourse detector name built r calls built') :
      Course b built (.parser detector name) (r.map .parser) calls built'
  | detector {spec : DetectorSpec} {r : Except SurveyError (Detector S)} {calls : List Made}
      {built' : Building S} (h : b.DetectorCourse spec built r calls built') :
      Course b built (.detector spec) (r.map (.detector spec)) calls built'

variable {b : InstanceBuilder S} {built built' : Building S} {calls : List Made}

/-! ## Every order takes its course -/

namespace InstanceBuilder

theorem parser_course (b : InstanceBuilder S) (detector name : String) (built : Building S) :
    ∃ calls, b.ParserCourse detector name built ((b.parser detector name).exec built).1 calls
      ((b.parser detector name).exec built).2 := by
  have hrun := b.parser_run detector name built
  generalize ((b.parser detector name).exec built).1 = r at hrun ⊢
  generalize ((b.parser detector name).exec built).2 = built' at hrun ⊢
  cases hrun with
  | kept hp => exact ⟨_, .kept hp⟩
  | unknown new h => exact ⟨_, .unknown new h⟩
  | failed new known h => exact ⟨_, .failed new known h⟩
  | made new known h => exact ⟨_, .made new known h⟩

theorem namedParser_course (b : InstanceBuilder S) (spec : DetectorSpec) (built : Building S) :
    ∃ calls, b.NamedParserCourse spec built ((b.namedParser spec).exec built).1 calls
      ((b.namedParser spec).exec built).2 := by
  unfold namedParser
  cases hname : spec.parser with
  | none => exact ⟨_, .nameless hname⟩
  | some name =>
    obtain ⟨calls, hcourse⟩ := b.parser_course spec.name name built
    simp only [Attempt.exec_bind]
    rcases hp : (b.parser spec.name name).exec built with ⟨e | p, built'⟩ <;> rw [hp] at hcourse
    · exact ⟨calls, .named (r := .error e) hname hcourse⟩
    · exact ⟨calls, .named (r := .ok p) hname hcourse⟩

theorem detector_course (b : InstanceBuilder S) (spec : DetectorSpec) (built : Building S) :
    ∃ calls, b.DetectorCourse spec built ((b.detector spec).exec built).1 calls
      ((b.detector spec).exec built).2 := by
  unfold detector
  cases hknown : b.kinds.detectors.get? spec.kind with
  | none => exact ⟨_, .unknownKind hknown⟩
  | some factory =>
    obtain ⟨calls, hcourse⟩ := b.namedParser_course spec built
    simp only [Attempt.exec_bind]
    rcases hp : (b.namedParser spec).exec built with ⟨e | parser, built'⟩ <;> rw [hp] at hcourse
    · exact ⟨calls, .noParser hknown hcourse⟩
    · exact ⟨_, .decided hknown hcourse rfl⟩

end InstanceBuilder

namespace Order

theorem exec_ofParser (b : InstanceBuilder S) (asking name : String) (built : Building S) :
    ((Order.parser asking name).job b).exec built =
      (((b.parser asking name).exec built).1.map .parser,
        ((b.parser asking name).exec built).2) := by
  rw [job, Attempt.exec_bind]
  rcases (b.parser asking name).exec built with ⟨e | p, built'⟩ <;> rfl

theorem exec_ofDetector (b : InstanceBuilder S) (spec : DetectorSpec) (built : Building S) :
    ((Order.detector spec).job b).exec built =
      (((b.detector spec).exec built).1.map (.detector spec),
        ((b.detector spec).exec built).2) := by
  rw [job, Attempt.exec_bind]
  rcases (b.detector spec).exec built with ⟨e | d, built'⟩ <;> rfl

theorem job_course (b : InstanceBuilder S) (order : Order) (built : Building S) :
    ∃ calls, order.Course b built ((order.job b).exec built).1 calls
      ((order.job b).exec built).2 := by
  cases order with
  | parser asking name =>
    obtain ⟨calls, hcourse⟩ := b.parser_course asking name built
    rw [exec_ofParser]
    exact ⟨calls, .parser hcourse⟩
  | detector spec =>
    obtain ⟨calls, hcourse⟩ := b.detector_course spec built
    rw [exec_ofDetector]
    exact ⟨calls, .detector hcourse⟩

end Order

/-! ## The calls are those that are noted -/

namespace InstanceBuilder

theorem ParserCourse.exec_traced {detector name : String} {r : Except SurveyError (Parser S)}
    (h : b.ParserCourse detector name built r calls built') (made : List Made) :
    (b.traced.parser detector name).exec (built.traced made) =
      (r.map Parser.traced, built'.traced (made ++ calls)) := by
  -- a factory that is found is found traced, and notes what it does
  have hfactory {spec : ParserSpec} {factory : ParserFactory S}
      {outcome : Except SurveyError (Parser S)} {s : S}
      (h : (factory ⟨spec, b.inputs, b.timeout⟩).exec built.state = (outcome, s)) :
      (Building.onState (factory.traced ⟨spec, b.traced.inputs, b.traced.timeout⟩)).exec
          (built.traced made) =
        (outcome.map Parser.traced, { built with state := s }.traced
          (made ++ [(Call.parser spec).ended outcome])) := by
    have hplain : (factory ⟨spec, b.traced.inputs, b.traced.timeout⟩).exec
        (built.traced made).state.state = (outcome, s) := h
    rw [Building.exec_onState, ParserFactory.exec_traced, hplain]
    rfl
  have hfound {spec : ParserSpec} {factory : ParserFactory S}
      (h : b.parserFactory detector name = .ok (spec, factory)) :
      b.traced.parserFactory detector name = .ok (spec, factory.traced) := by
    rw [parserFactory_traced, h]
    rfl
  rw [parser, Attempt.exec_bind, Attempt.exec_ask, Building.parser?_traced]
  cases h with
  | kept hp =>
    rw [hp, List.append_nil]
    rfl
  | unknown new hunknown =>
    rw [new, parserFactory_traced, hunknown, List.append_nil]
    rfl
  | failed new known hfailed =>
    simp only [new, Option.map_none, Attempt.exec_bind, Attempt.exec_ofExcept, hfound known]
    rw [hfactory hfailed]
    rfl
  | made new known hmade =>
    simp only [new, Option.map_none, Attempt.exec_bind, Attempt.exec_ofExcept, hfound known]
    rw [hfactory hmade, ← Building.keeping_traced]
    rfl

theorem NamedParserCourse.exec_traced {spec : DetectorSpec}
    {r : Except SurveyError (Option (Parser S))}
    (h : b.NamedParserCourse spec built r calls built') (made : List Made) :
    (b.traced.namedParser spec).exec (built.traced made) =
      (r.map (Option.map Parser.traced), built'.traced (made ++ calls)) := by
  unfold namedParser
  cases h with
  | nameless hname =>
    rw [hname, List.append_nil]
    rfl
  | @named name r _ _ hname hcourse =>
    rw [hname]
    have hrun := hcourse.exec_traced made
    cases r with
    | error e => exact Attempt.exec_bind_error hrun
    | ok p => exact Attempt.exec_bind_ok hrun

theorem DetectorCourse.exec_traced {spec : DetectorSpec} {r : Except SurveyError (Detector S)}
    (h : b.DetectorCourse spec built r calls built') (made : List Made) :
    (b.traced.detector spec).exec (built.traced made) =
      (r.map (Detector.traced spec), built'.traced (made ++ calls)) := by
  have hget : b.traced.kinds.detectors.get? spec.kind =
      (b.kinds.detectors.get? spec.kind).map DetectorFactory.traced := Table.get?_map _ _ _
  unfold detector
  rw [hget]
  cases h with
  | unknownKind hunknown =>
    rw [hunknown, List.append_nil]
    rfl
  | noParser known hcourse =>
    rw [known]
    exact Attempt.exec_bind_error (hcourse.exec_traced made)
  | @decided factory parser calls between _ s known hcourse hdecided =>
    rw [known]
    refine (Attempt.exec_bind_ok (hcourse.exec_traced made)).trans ?_
    have huntraced : (parser.map Parser.traced).map Parser.untraced = parser := by
      cases parser <;> rfl
    have hfactory : (factory (DetectorBuild.untraced ⟨spec, b.traced.inputs,
        parser.map Parser.traced, b.traced.timeout⟩)).exec between.state = (r, s) := by
      rw [DetectorBuild.untraced, huntraced]
      exact hdecided
    have hstate : (between.traced (made ++ calls)).state.state = between.state := rfl
    rw [Building.exec_onState, DetectorFactory.exec_traced, hstate, hfactory, ← List.append_assoc]
    rfl

end InstanceBuilder

/-- The traced copy of a builder does what the builder does, and notes the calls. -/
theorem Order.Course.exec_traced {order : Order} {r : Except SurveyError (Instance S)}
    (h : order.Course b built r calls built') (made : List Made) :
    (order.job b.traced).exec (built.traced made) =
      (r.map Instance.traced, built'.traced (made ++ calls)) := by
  cases h with
  | @parser _ _ r _ _ hcourse =>
    rw [exec_ofParser, hcourse.exec_traced]
    cases r <;> rfl
  | @detector _ r _ _ hcourse =>
    rw [exec_ofDetector, hcourse.exec_traced]
    cases r <;> rfl

/-! ## What a course keeps -/

namespace InstanceBuilder

namespace ParserCourse

variable {detector name : String} {r : Except SurveyError (Parser S)}

theorem consistent (h : b.ParserCourse detector name built r calls built')
    (hbuilt : built.Consistent) : built'.Consistent := by
  cases h with
  | kept => exact hbuilt
  | unknown => exact hbuilt
  | failed => exact hbuilt.withState _
  | @made _ _ p s new => exact (hbuilt.withState s).keeping new p

/-- What is kept stays. -/
theorem parser?_eq_some (h : b.ParserCourse detector name built r calls built') {other : String}
    {p : Parser S} (hp : built.parser? other = some p) : built'.parser? other = some p := by
  cases h with
  | kept => exact hp
  | unknown => exact hp
  | failed => exact hp
  | made new =>
    have hother : other ≠ name := by
      rintro rfl
      rw [new] at hp
      cases hp
    rw [Building.parser?_keeping, if_neg hother]
    exact hp

/-- What is handed out is kept. -/
theorem parser?_of_ok {p : Parser S} (h : b.ParserCourse detector name built (.ok p) calls built') :
    built'.parser? name = some p := by
  cases h with
  | kept hp => exact hp
  | made =>
    rw [Building.parser?_keeping]
    exact if_pos rfl

/-- A factory is called only for a name under which nothing is kept. -/
theorem new_of_mem_calls (h : b.ParserCourse detector name built r calls built') {made : Made}
    (hmade : made ∈ calls) :
    built.parser? name = none ∧ ∃ spec, spec.name = name ∧ made.call = .parser spec := by
  cases h with
  | kept => cases hmade
  | unknown => cases hmade
  | failed new known =>
    obtain rfl := List.mem_singleton.1 hmade
    exact ⟨new, _, (Config.parser?_eq_some (parserFactory_eq_ok_iff.1 known).1).2, rfl⟩
  | made new known =>
    obtain rfl := List.mem_singleton.1 hmade
    exact ⟨new, _, (Config.parser?_eq_some (parserFactory_eq_ok_iff.1 known).1).2, rfl⟩

/-- What is kept is handed out, and nothing happens. -/
theorem of_kept (h : b.ParserCourse detector name built r calls built') {p : Parser S}
    (hp : built.parser? name = some p) : r = .ok p ∧ calls = [] ∧ built' = built := by
  cases h with
  | kept hp' =>
    rw [hp] at hp'
    cases hp'
    exact ⟨rfl, rfl, rfl⟩
  | unknown new => exact absurd (new.symm.trans hp) nofun
  | failed new => exact absurd (new.symm.trans hp) nofun
  | made new => exact absurd (new.symm.trans hp) nofun

end ParserCourse

namespace NamedParserCourse

variable {spec : DetectorSpec} {r : Except SurveyError (Option (Parser S))}

theorem consistent (h : b.NamedParserCourse spec built r calls built')
    (hbuilt : built.Consistent) : built'.Consistent := by
  cases h with
  | nameless => exact hbuilt
  | named _ hcourse => exact hcourse.consistent hbuilt

theorem parser?_eq_some (h : b.NamedParserCourse spec built r calls built') {other : String}
    {p : Parser S} (hp : built.parser? other = some p) : built'.parser? other = some p := by
  cases h with
  | nameless => exact hp
  | named _ hcourse => exact hcourse.parser?_eq_some hp

/-- A detector is given the parser that is kept under the name it declares, if it declares one. -/
theorem given {parser : Option (Parser S)}
    (h : b.NamedParserCourse spec built (.ok parser) calls built') :
    parser = spec.parser.bind built'.parser? ∧ (spec.parser.isSome → parser.isSome) := by
  generalize hr : (Except.ok parser : Except SurveyError _) = r at h
  cases h with
  | nameless hname =>
    cases hr
    simp [hname]
  | @named name r _ _ hname hcourse =>
    cases r with
    | error e => cases hr
    | ok p =>
      cases hr
      simp [hname, hcourse.parser?_of_ok]

theorem new_of_mem_calls (h : b.NamedParserCourse spec built r calls built') {made : Made}
    (hmade : made ∈ calls) :
    ∃ name spec, built.parser? name = none ∧ spec.name = name ∧ made.call = .parser spec := by
  cases h with
  | nameless => cases hmade
  | named _ hcourse =>
    obtain ⟨new, spec, hname, hcall⟩ := hcourse.new_of_mem_calls hmade
    exact ⟨_, spec, new, hname, hcall⟩

theorem of_kept (h : b.NamedParserCourse spec built r calls built') {name : String} {p : Parser S}
    (hname : spec.parser = some name) (hp : built.parser? name = some p) :
    r = .ok (some p) ∧ calls = [] ∧ built' = built := by
  cases h with
  | nameless hnone => exact absurd (hnone.symm.trans hname) nofun
  | named hname' hcourse =>
    rw [hname] at hname'
    cases hname'
    obtain ⟨rfl, hcalls, hbuilt⟩ := hcourse.of_kept hp
    exact ⟨rfl, hcalls, hbuilt⟩

end NamedParserCourse

namespace DetectorCourse

variable {spec : DetectorSpec} {r : Except SurveyError (Detector S)}

theorem consistent (h : b.DetectorCourse spec built r calls built')
    (hbuilt : built.Consistent) : built'.Consistent := by
  cases h with
  | unknownKind => exact hbuilt
  | noParser _ hcourse => exact hcourse.consistent hbuilt
  | decided _ hcourse => exact (hcourse.consistent hbuilt).withState _

theorem parser?_eq_some (h : b.DetectorCourse spec built r calls built') {other : String}
    {p : Parser S} (hp : built.parser? other = some p) : built'.parser? other = some p := by
  cases h with
  | unknownKind => exact hp
  | noParser _ hcourse => exact hcourse.parser?_eq_some hp
  | decided _ hcourse => exact hcourse.parser?_eq_some hp

theorem new_of_mem_calls (h : b.DetectorCourse spec built r calls built') {made : Made}
    (hmade : made ∈ calls) {pspec : ParserSpec} (hcall : made.call = .parser pspec) :
    built.parser? pspec.name = none := by
  have hnamed {r : Except SurveyError (Option (Parser S))} {calls : List Made}
      {between : Building S} (hcourse : b.NamedParserCourse spec built r calls between)
      (hmade : made ∈ calls) : built.parser? pspec.name = none := by
    obtain ⟨name, spec', new, hname, hcall'⟩ := hcourse.new_of_mem_calls hmade
    obtain rfl : spec' = pspec := Call.parser.inj (hcall'.symm.trans hcall)
    exact hname ▸ new
  cases h with
  | unknownKind => cases hmade
  | noParser _ hcourse => exact hnamed hcourse hmade
  | decided _ hcourse =>
    rcases List.mem_append.1 hmade with hmade | hmade
    · exact hnamed hcourse hmade
    · obtain rfl := List.mem_singleton.1 hmade
      cases hcall

end DetectorCourse

end InstanceBuilder

/-! ## One order after another -/

/-- An order, what came of it, and the calls that were made for it. -/
structure Delivery (S : Type) where
  order : Order
  before : Building S
  outcome : Except SurveyError (Instance S)
  calls : List Made
  after : Building S

/-- Place an order. The calls are those that the traced copy notes. -/
def InstanceBuilder.deliver (b : InstanceBuilder S) (built : Building S) (order : Order) :
    Delivery S :=
  let (outcome, after) := (order.job b).exec built
  ⟨order, built, outcome, ((order.job b.traced).exec (built.traced [])).2.state.made, after⟩

/-- What comes of orders, before each of which something may happen to the state. -/
def InstanceBuilder.deliveries (b : InstanceBuilder S) :
    Building S → List (Round S Order) → List (Delivery S)
  | _, [] => []
  | built, round :: rest =>
    let x := b.deliver { built with state := round.happening built.state } round.question
    x :: b.deliveries x.after rest

namespace Delivery

variable (b : InstanceBuilder S) (x : Delivery S)

/-- What is handed out was asked for, and it is or it was built with the parser that is kept. -/
inductive HandsOut : Instance S → Prop
  | parser {asking name : String} {p : Parser S} (order : x.order = .parser asking name)
      (kept : x.after.parser? name = some p) : HandsOut (.parser p)
  | detector {spec : DetectorSpec} {factory : DetectorFactory S} {d : Detector S} {s : S}
      (order : x.order = .detector spec)
      (known : b.kinds.detectors.get? spec.kind = some factory)
      (kept : ∀ name, spec.parser = some name → ∃ p, x.after.parser? name = some p)
      (h : (factory ⟨spec, b.inputs, spec.parser.bind x.after.parser?, b.timeout⟩).exec s =
        (.ok d, x.after.state)) : HandsOut (.detector spec d)

/-- The same parsers as before. -/
structure AddsNothing : Prop where
  parsers : x.after.parsers = x.before.parsers
  constructed : x.after.constructed = x.before.constructed

/-- A parser was built for a detector, and then the detector's own factory failed. -/
inductive LeavesParser (e : SurveyError) : Prop
  | intro {spec : DetectorSpec} {name : String} {pspec : ParserSpec} {factory : ParserFactory S}
      {p : Parser S} {s : S} (order : x.order = .detector spec) (names : spec.parser = some name)
      (new : x.before.parser? name = none)
      (known : b.parserFactory spec.name name = .ok (pspec, factory))
      (built : (factory ⟨pspec, b.inputs, b.timeout⟩).exec x.before.state = (.ok p, s))
      (calls : x.calls = [⟨.parser pspec, none⟩, ⟨.detector spec, some e⟩])
      (parsers : x.after.parsers = x.before.parsers.insert name p)
      (constructed : x.after.constructed = x.before.constructed ++ [name])

/-- Behind an order that left this parser under the name: it stays, whoever asks for the name gets
it, and no factory is called for it again. -/
structure Shares (name : String) (p : Parser S) : Prop where
  kept : x.after.parser? name = some p
  parser : ∀ asking, x.order = .parser asking name →
    x.outcome = .ok (.parser p) ∧ x.calls = [] ∧ x.after = x.before
  detector : ∀ spec factory, x.order = .detector spec → spec.parser = some name →
    b.kinds.detectors.get? spec.kind = some factory →
      ∃ r s, (factory ⟨spec, b.inputs, some p, b.timeout⟩).exec x.before.state = (r, s) ∧
        x.outcome = r.map (.detector spec) ∧ x.calls = [(Call.detector spec).ended r] ∧
        x.after = { x.before with state := s }
  once : ∀ made ∈ x.calls, ∀ pspec, made.call = .parser pspec → pspec.name ≠ name

variable {b x}

theorem course (built : Building S) (order : Order) :
    order.Course b built (b.deliver built order).outcome (b.deliver built order).calls
      (b.deliver built order).after := by
  obtain ⟨calls, hcourse⟩ := order.job_course b built
  have hcalls : (b.deliver built order).calls = calls := by
    show ((order.job b.traced).exec (built.traced [])).2.state.made = calls
    rw [hcourse.exec_traced]
    rfl
  rw [hcalls]
  exact hcourse

variable (h : x.order.Course b x.before x.outcome x.calls x.after)

include h

theorem consistent (hbefore : x.before.Consistent) : x.after.Consistent := by
  obtain ⟨order, before, outcome, calls, after⟩ := x
  dsimp only at h hbefore ⊢
  cases h with
  | parser hcourse => exact hcourse.consistent hbefore
  | detector hcourse => exact hcourse.consistent hbefore

theorem handsOut {handed : Instance S} (hok : x.outcome = .ok handed) : x.HandsOut b handed := by
  obtain ⟨order, before, outcome, calls, after⟩ := x
  dsimp only at h hok
  cases h with
  | @parser _ _ r _ _ hcourse =>
    cases r with
    | error e => cases hok
    | ok p =>
      cases hok
      exact .parser rfl hcourse.parser?_of_ok
  | @detector spec r _ _ hcourse =>
    cases r with
    | error e => cases hok
    | ok d =>
      cases hok
      cases hcourse with
      | decided known hparser hdecided =>
        obtain ⟨rfl, hsome⟩ := hparser.given
        refine .detector rfl known (fun name hname => ?_) hdecided
        rw [hname] at hsome
        exact Option.isSome_iff_exists.1 (hsome rfl)

theorem addsNothing_or_leavesParser {e : SurveyError} (herror : x.outcome = .error e) :
    x.AddsNothing ∨ x.LeavesParser b e := by
  obtain ⟨order, before, outcome, calls, after⟩ := x
  dsimp only at h herror
  cases h with
  | @parser _ _ r _ _ hcourse =>
    cases hcourse with
    | unknown => exact .inl ⟨rfl, rfl⟩
    | failed => exact .inl ⟨rfl, rfl⟩
    | kept => cases herror
    | made => cases herror
  | @detector spec r _ _ hcourse =>
    cases r with
    | ok d => cases herror
    | error e' =>
      cases herror
      cases hcourse with
      | unknownKind => exact .inl ⟨rfl, rfl⟩
      | noParser _ hparser =>
        generalize hr : (Except.error e : Except SurveyError (Option (Parser S))) = r at hparser
        cases hparser with
        | nameless => cases hr
        | named _ hcourse =>
          cases hcourse with
          | kept => cases hr
          | made => cases hr
          | unknown => exact .inl ⟨rfl, rfl⟩
          | failed => exact .inl ⟨rfl, rfl⟩
      | @decided _ parser _ _ _ _ _ hparser =>
        generalize hr : (Except.ok parser : Except SurveyError _) = r at hparser
        cases hparser with
        | nameless => exact .inl ⟨rfl, rfl⟩
        | named hname hcourse =>
          cases hcourse with
          | kept => exact .inl ⟨rfl, rfl⟩
          | unknown => cases hr
          | failed => cases hr
          | made new known hmade =>
            exact .inr (.intro rfl hname new known hmade rfl rfl rfl)

theorem shares {name : String} {p : Parser S} (hp : x.before.parser? name = some p) :
    x.Shares b name p := by
  obtain ⟨order, before, outcome, calls, after⟩ := x
  dsimp only at h hp
  cases h with
  | parser hcourse =>
    refine ⟨hcourse.parser?_eq_some hp, fun asking horder => ?_,
      fun _ _ horder => (nomatch horder), fun made hmade pspec hcall heq => ?_⟩
    · cases horder
      obtain ⟨rfl, rfl, rfl⟩ := hcourse.of_kept hp
      exact ⟨rfl, rfl, rfl⟩
    · obtain ⟨new, pspec', rfl, hcall'⟩ := hcourse.new_of_mem_calls hmade
      obtain rfl : pspec' = pspec := Call.parser.inj (hcall'.symm.trans hcall)
      rw [heq, hp] at new
      cases new
  | @detector spec r _ _ hcourse =>
    refine ⟨hcourse.parser?_eq_some hp, fun _ horder => (nomatch horder),
      fun spec' factory horder hname hknown => ?_, fun made hmade pspec hcall heq => ?_⟩
    · cases horder
      cases hcourse with
      | unknownKind hunknown => exact absurd (hunknown.symm.trans hknown) nofun
      | noParser _ hparser => exact absurd (hparser.of_kept hname hp).1 nofun
      | decided known hparser hdecided =>
        obtain ⟨hok, rfl, rfl⟩ := hparser.of_kept hname hp
        cases hok
        cases hknown.symm.trans known
        exact ⟨_, _, hdecided, rfl, rfl, rfl⟩
    · have new := hcourse.new_of_mem_calls hmade hcall
      rw [heq, hp] at new
      cases new

end Delivery

namespace InstanceBuilder

/-- Every delivery is an order placed with some building. -/
theorem mem_deliveries {built : Building S} {rounds : List (Round S Order)} {x : Delivery S}
    (hbuilt : built.Consistent) (hx : x ∈ b.deliveries built rounds) :
    x.before.Consistent ∧ x = b.deliver x.before x.order := by
  induction rounds generalizing built with
  | nil => cases hx
  | cons round rest ih =>
    have hbefore := hbuilt.withState (round.happening built.state)
    cases hx with
    | head => exact ⟨hbefore, rfl⟩
    | tail _ hx => exact ih (Delivery.consistent (Delivery.course _ _) hbefore) hx

/-- Whoever comes behind a parser that is kept shares it. -/
theorem shares_of_mem_deliveries {built : Building S} {rounds : List (Round S Order)}
    {x : Delivery S} {name : String} {p : Parser S} (hp : built.parser? name = some p)
    (hx : x ∈ b.deliveries built rounds) : x.Shares b name p := by
  induction rounds generalizing built with
  | nil => cases hx
  | cons round rest ih =>
    have hshares : (b.deliver { built with state := round.happening built.state }
        round.question).Shares b name p := Delivery.shares (Delivery.course _ _) hp
    cases hx with
    | head => exact hshares
    | tail _ hx => exact ih hshares.kept hx

/-- **A parser is built once and shared by all who ask for it**, whatever is ordered and whatever
fails. -/
theorem deliveries_share (b : InstanceBuilder S) (s : S) (rounds : List (Round S Order)) :
    (∀ x ∈ b.deliveries { state := s } rounds,
      x.order.Course b x.before x.outcome x.calls x.after ∧
      (x.order.job b.traced).exec (x.before.traced []) =
        (x.outcome.map Instance.traced, x.after.traced x.calls) ∧
      x.after.Consistent ∧
      (∀ handed, x.outcome = .ok handed → x.HandsOut b handed) ∧
      ∀ e, x.outcome = .error e → x.AddsNothing ∨ x.LeavesParser b e) ∧
    (b.deliveries { state := s } rounds).Pairwise fun x y =>
      ∀ name p, x.after.parser? name = some p → y.Shares b name p := by
  constructor
  · intro x hx
    obtain ⟨hbefore, hplaced⟩ := mem_deliveries (.start s) hx
    have hcourse : x.order.Course b x.before x.outcome x.calls x.after := by
      rw [hplaced]
      exact Delivery.course _ _
    exact ⟨hcourse, hcourse.exec_traced [], Delivery.consistent hcourse hbefore,
      fun _ => Delivery.handsOut hcourse, fun _ => Delivery.addsNothing_or_leavesParser hcourse⟩
  · generalize ({ state := s } : Building S) = built
    induction rounds generalizing built with
    | nil => exact .nil
    | cons round rest ih =>
      exact .cons (fun y hy name p hp => shares_of_mem_deliveries hp hy) (ih _)

end InstanceBuilder

end FeatureSurvey
