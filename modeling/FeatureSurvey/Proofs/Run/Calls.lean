import FeatureSurvey.Proofs.Resolver.Assignment
import FeatureSurvey.Proofs.Run.Kinds
import FeatureSurvey.Proofs.Run.Traced

/-!
# `Proofs/Run/Calls.lean` — who is called in a run, and when

A request says which features are wanted, and the resolver which detector answers each. From the
assignments alone one can write down the calls that are due: to build, for each assignment in order,
the parser that its detector names and then the detector, each once (`Config.needs`); and to ask
each feature of the detector it is assigned to.

**The calls that a run makes are those that are due, in order, up to the first that fails**
(`Runner.calls_inOrder`). Nothing is called for a request that cannot be assigned. What a call does
is left open throughout; all that is asked of the kinds is that a detector bears the name it is
declared under, as detectors are looked up by name.

Building may also end without a call, at a declaration whose kind or parser is not there
(`InstanceBuilder.Unbuildable`).
-/

set_option autoImplicit false

namespace FeatureSurvey

theorem eraseDups_of_nodup {α : Type} [DecidableEq α] {items : List α} (h : items.Nodup) :
    items.eraseDups = items := by
  induction items with
  | nil => rfl
  | cons item rest ih =>
    obtain ⟨hnew, hrest⟩ := List.nodup_cons.1 h
    have hother : (rest.filter fun other => !other == item) = rest := by
      refine List.filter_eq_self.2 fun other hother => ?_
      have hne : other ≠ item := fun heq => hnew (heq ▸ hother)
      simpa using hne
    rw [List.eraseDups_cons, hother, ih hrest]

/-- What is new in a list that has no repetitions goes behind. -/
theorem eraseDups_append_of_nodup {α : Type} [DecidableEq α] (items : List α) {more : List α}
    (h : more.Nodup) : (items ++ more).eraseDups =
      items.eraseDups ++ more.filter (· ∉ items.eraseDups) := by
  have hfilter : more.removeAll items = more.filter (· ∉ items.eraseDups) := by
    refine List.filter_congr fun item _ => ?_
    simp [List.mem_eraseDups]
  rw [List.eraseDups_append, hfilter, eraseDups_of_nodup (h.filter _)]

theorem eraseDups_concat_of_mem {α : Type} [DecidableEq α] {items : List α} {item : α}
    (h : item ∈ items.eraseDups) : (items ++ [item]).eraseDups = items.eraseDups := by
  rw [eraseDups_append_of_nodup _ (List.nodup_singleton item),
    List.filter_singleton, decide_eq_false (not_not_intro h)]
  exact List.append_nil _

theorem eraseDups_concat_of_not_mem {α : Type} [DecidableEq α] {items : List α} {item : α}
    (h : item ∉ items.eraseDups) : (items ++ [item]).eraseDups = items.eraseDups ++ [item] := by
  rw [eraseDups_append_of_nodup _ (List.nodup_singleton item),
    List.filter_singleton, decide_eq_true h]
  rfl

/-! ## How calls go -/

/-- Calls that were due, those that were made, and the error it ended in, if it did: the calls are
made in order, and the first that fails is the last. An error in `early` comes without a call. -/
inductive Went (early : SurveyError → Prop) : List Call → List Made → Option SurveyError → Prop
  | done : Went early [] [] none
  | next {call : Call} {due : List Call} {made : List Made} {e? : Option SurveyError}
      (h : Went early due made e?) : Went early (call :: due) (⟨call, none⟩ :: made) e?
  | failed {call : Call} {due : List Call} {e : SurveyError} :
      Went early (call :: due) [⟨call, some e⟩] (some e)
  | early {due : List Call} {e : SurveyError} (h : early e) : Went early due [] (some e)

namespace Went

variable {early : SurveyError → Prop} {due due' : List Call} {made made' : List Made}
  {e? : Option SurveyError}

theorem mono {early' : SurveyError → Prop} (h : Went early due made e?)
    (hearly : ∀ e, early e → early' e) : Went early' due made e? := by
  induction h with
  | done => exact .done
  | next _ ih => exact ih.next
  | failed => exact .failed
  | early h => exact .early (hearly _ h)

theorem append (h : Went early due made none) (h' : Went early due' made' e?) :
    Went early (due ++ due') (made ++ made') e? := by
  generalize hwell : (none : Option SurveyError) = well at h
  induction h with
  | done => exact h'
  | next _ ih => exact (ih hwell).next
  | failed => cases hwell
  | early => cases hwell

/-- What ends in an error leaves undone what would have come next. -/
theorem leaving {e : SurveyError} (h : Went early due made (some e)) (due' : List Call) :
    Went early (due ++ due') made (some e) := by
  generalize hstop : some e = stop at h
  induction h with
  | done => cases hstop
  | next _ ih => exact (ih hstop).next
  | failed => exact .failed
  | early h => exact .early h

theorem single {α : Type} (call : Call) (r : Except SurveyError α) :
    Went early [call] [call.ended r] (errorIn r) := by
  cases r with
  | ok a => exact .next .done
  | error e => exact .failed

theorem calls_prefix (h : Went early due made e?) : made.map (·.call) <+: due := by
  induction h with
  | done => exact List.prefix_refl []
  | next _ ih => exact List.cons_prefix_cons.2 ⟨rfl, ih⟩
  | failed => exact List.cons_prefix_cons.2 ⟨rfl, List.nil_prefix⟩
  | early => exact List.nil_prefix

end Went

/-! ## What is due -/

namespace Config

variable (c : Config)

/-- To build the parser that a detector names. -/
def neededParser (d : DetectorSpec) : List Call :=
  ((d.parser.bind c.parser?).map Call.parser).toList

/-- To build a detector, behind its parser. -/
def needed (d : DetectorSpec) : List Call := c.neededParser d ++ [.detector d]

/-- To build what a request needs, each once, in the order of first need. -/
def needs (assignments : List Assignment) : List Call :=
  (assignments.flatMap fun a => c.needed a.detector).eraseDups

/-- The call builds what a name of the configuration leads to. -/
def Declares : Call → Prop
  | .parser p => c.parser? p.name = some p
  | .detector d => c.detector? d.name = some d
  | .detect _ _ => False

variable {c} {d : DetectorSpec} {assignments : List Assignment} {call : Call}

theorem neededParser_of_named {name : String} {p : ParserSpec} (hname : d.parser = some name)
    (hp : c.parser? name = some p) : c.neededParser d = [.parser p] := by
  simp [neededParser, hname, hp]

theorem mem_neededParser : call ∈ c.neededParser d ↔
    ∃ name p, d.parser = some name ∧ c.parser? name = some p ∧ call = .parser p := by
  simp only [neededParser, Option.mem_toList, Option.map_eq_some_iff, Option.bind_eq_some_iff]
  constructor
  · rintro ⟨p, ⟨name, hname, hp⟩, rfl⟩
    exact ⟨name, p, hname, hp, rfl⟩
  · rintro ⟨name, p, hname, hp, rfl⟩
    exact ⟨p, ⟨name, hname, hp⟩, rfl⟩

theorem mem_needed : call ∈ c.needed d ↔ call ∈ c.neededParser d ∨ call = .detector d := by
  simp [needed]

theorem mem_needs : call ∈ c.needs assignments ↔ ∃ a ∈ assignments, call ∈ c.needed a.detector := by
  rw [needs, List.mem_eraseDups, List.mem_flatMap]

theorem detector_mem_needs : .detector d ∈ c.needs assignments ↔
    ∃ a ∈ assignments, a.detector = d := by
  rw [mem_needs]
  refine exists_congr fun a => and_congr_right fun _ => ?_
  rw [mem_needed]
  constructor
  · rintro (h | h)
    · obtain ⟨_, _, _, _, hcall⟩ := mem_neededParser.1 h
      cases hcall
    · exact (Call.detector.inj h).symm
  · rintro rfl
    exact .inr rfl

theorem nodup_needed (d : DetectorSpec) : (c.needed d).Nodup := by
  rw [needed, neededParser]
  cases d.parser.bind c.parser? <;> simp

theorem needs_concat (done : List Assignment) (a : Assignment) :
    c.needs (done ++ [a]) =
      c.needs done ++ (c.needed a.detector).filter (· ∉ c.needs done) := by
  rw [needs, List.flatMap_append, List.flatMap_singleton]
  exact eraseDups_append_of_nodup _ (nodup_needed a.detector)

theorem needs_append (done behind : List Assignment) :
    ∃ more, c.needs (done ++ behind) = c.needs done ++ more := by
  rw [needs, List.flatMap_append, List.eraseDups_append]
  exact ⟨_, rfl⟩

theorem declares_of_needed (hd : c.detector? d.name = some d) (h : call ∈ c.needed d) :
    c.Declares call := by
  rcases mem_needed.1 h with h | rfl
  · obtain ⟨name, p, -, hp, rfl⟩ := mem_neededParser.1 h
    rw [Declares, (parser?_eq_some hp).2]
    exact hp
  · exact hd

end Config

/-- To ask each feature of its detector. -/
def questions (assignments : List Assignment) : List Call :=
  assignments.map fun a => .detect a.detector a.feature

section Runs

variable {S : Type} {b : InstanceBuilder S}

/-! ## Building one detector -/

/-- The error of a declaration for whose detector or parser there is no factory. -/
def InstanceBuilder.Unbuildable (b : InstanceBuilder S) (spec : DetectorSpec) (e : SurveyError) :
    Prop :=
  (b.kinds.detectors.get? spec.kind = none ∧ e = .unknownDetectorKind spec.kind) ∨
    ∃ name, spec.parser = some name ∧ b.parserFactory spec.name name = .error e

/-- The parsers that are kept are those whose building is among the calls. -/
def Building.Keeps (c : Config) (t : Building (Traced S)) (calls : List Call) : Prop :=
  ∀ name, (t.parser? name).isSome ↔ ∃ p, c.parser? name = some p ∧ .parser p ∈ calls

theorem Building.Keeps.concat {c : Config} {t : Building (Traced S)} {calls : List Call}
    (h : t.Keeps c calls) {name : String} {p : ParserSpec} (hp : c.parser? name = some p)
    (parser : Parser (Traced S)) :
    (t.keeping name parser).Keeps c (calls ++ [.parser p]) := by
  intro other
  rw [parser?_keeping]
  split
  case isTrue hother =>
    subst hother
    exact iff_of_true rfl ⟨p, hp, List.mem_append_right _ List.mem_cons_self⟩
  case isFalse hother =>
    rw [h other]
    refine exists_congr fun p' => and_congr_right fun hp' => ?_
    -- two names with one declaration are one name
    have hne : p' ≠ p := by
      rintro rfl
      exact hother ((Config.parser?_eq_some hp').2.symm.trans (Config.parser?_eq_some hp).2)
    simp [hne]

/-- The detector that a traced registry built for a declaration, under its name. -/
def Detector.BuiltFor (d : Detector (Traced S)) (spec : DetectorSpec) : Prop :=
  d.name = spec.name ∧ ∃ untraced, d = Detector.traced spec untraced

theorem ParserFactory.made_traced (factory : ParserFactory S) (build : ParserBuild)
    (t : Traced S) : ((factory.traced build).exec t).2.made =
      t.made ++ [(Call.parser build.spec).ended ((factory.traced build).exec t).1] := by
  rw [exec_traced, Call.ended, Call.ended, errorIn_map]

theorem DetectorFactory.made_traced (factory : DetectorFactory S)
    (build : DetectorBuild (Traced S)) (t : Traced S) :
    ((factory.traced build).exec t).2.made =
      t.made ++ [(Call.detector build.spec).ended ((factory.traced build).exec t).1] := by
  rw [exec_traced, Call.ended, Call.ended, errorIn_map]

namespace InstanceBuilder

variable {spec : DetectorSpec} {t t' : Building (Traced S)} {had : List Call}

/-- A factory that a traced registry finds is a factory of the registry, traced. -/
theorem parserFactory_traced_eq_ok {detector name : String} {p : ParserSpec}
    {factory' : ParserFactory (Traced S)}
    (h : b.traced.parserFactory detector name = .ok (p, factory')) :
    b.config.parser? name = some p ∧ ∃ factory : ParserFactory S, factory' = factory.traced := by
  obtain ⟨hspec, hkind⟩ := parserFactory_eq_ok_iff.1 h
  have hfactory : (b.kinds.parsers.get? p.kind).map ParserFactory.traced = some factory' := by
    rw [← Table.get?_map]
    exact hkind
  obtain ⟨factory, -, hfactory⟩ := Option.map_eq_some_iff.1 hfactory
  exact ⟨hspec, factory, hfactory.symm⟩

theorem parserFactory_traced_eq_error {detector name : String} {e : SurveyError}
    (h : b.traced.parserFactory detector name = .error e) :
    b.parserFactory detector name = .error e := by
  rw [parserFactory_traced] at h
  cases hfound : b.parserFactory detector name with
  | error e' =>
    rw [hfound] at h
    cases h
    rfl
  | ok found =>
    rw [hfound] at h
    cases h

theorem namedParser_went {r : Except SurveyError (Option (Parser (Traced S)))}
    (hkept : t.Keeps b.config had) (h : b.traced.NamedParserRun spec t r t') :
    ∃ new, t'.state.made = t.state.made ++ new ∧
      Went (b.Unbuildable spec) ((b.config.neededParser spec).filter (· ∉ had)) new (errorIn r) ∧
      (errorIn r = none →
        t'.Keeps b.config (had ++ (b.config.neededParser spec).filter (· ∉ had))) := by
  cases h with
  | nameless hname =>
    have hnone : b.config.neededParser spec = [] := by simp [Config.neededParser, hname]
    rw [hnone]
    refine ⟨[], (List.append_nil _).symm, .done, fun _ => ?_⟩
    rw [List.filter_nil, List.append_nil]
    exact hkept
  | @named name r t' hname hrun =>
    -- a parser that is declared and not kept has not been called for
    have hnew {p : ParserSpec} (hp : b.config.parser? name = some p)
        (hnot : t.parser? name = none) :
        (b.config.neededParser spec).filter (· ∉ had) = [.parser p] := by
      have hcall : Call.parser p ∉ had := by
        intro hin
        have hsome := (hkept name).2 ⟨p, hp, hin⟩
        rw [hnot] at hsome
        cases hsome
      rw [Config.neededParser_of_named hname hp]
      simp [hcall]
    cases hrun with
    | @kept p hp =>
      obtain ⟨spec', hspec, hin⟩ := (hkept name).1 (by rw [hp]; rfl)
      have hnone : (b.config.neededParser spec).filter (· ∉ had) = [] := by
        rw [Config.neededParser_of_named hname hspec]
        simp [hin]
      rw [hnone]
      refine ⟨[], (List.append_nil _).symm, .done, fun _ => ?_⟩
      rw [List.append_nil]
      exact hkept
    | unknown hnot hunknown =>
      have herror := parserFactory_traced_eq_error hunknown
      exact ⟨[], (List.append_nil _).symm, .early (.inr ⟨name, hname, herror⟩),
        fun hnone => nomatch hnone⟩
    | @failed p _ e s hnot hknown hfailed =>
      obtain ⟨hp, factory, rfl⟩ := parserFactory_traced_eq_ok hknown
      have hmade := factory.made_traced ⟨p, b.traced.inputs, b.traced.timeout⟩ t.state
      rw [hfailed] at hmade
      rw [hnew hp hnot]
      exact ⟨_, hmade, .single _ _, fun hnone => nomatch hnone⟩
    | @made p _ parser s hnot hknown hbuilt =>
      obtain ⟨hp, factory, rfl⟩ := parserFactory_traced_eq_ok hknown
      have hmade := factory.made_traced ⟨p, b.traced.inputs, b.traced.timeout⟩ t.state
      rw [hbuilt] at hmade
      rw [hnew hp hnot]
      have hkept' : ({ t with state := s } : Building _).Keeps b.config had := hkept
      exact ⟨_, hmade, .single _ _, fun _ => hkept'.concat hp parser⟩

theorem detector_went (named : b.kinds.Named) {r : Except SurveyError (Detector (Traced S))}
    (hkept : t.Keeps b.config had) (hnew : Call.detector spec ∉ had)
    (h : b.traced.DetectorRun spec t r t') :
    ∃ new, t'.state.made = t.state.made ++ new ∧
      Went (b.Unbuildable spec) ((b.config.needed spec).filter (· ∉ had)) new (errorIn r) ∧
      ∀ d, r = .ok d → d.BuiltFor spec ∧
        t'.Keeps b.config (had ++ (b.config.needed spec).filter (· ∉ had)) := by
  have hneeded : (b.config.needed spec).filter (· ∉ had) =
      (b.config.neededParser spec).filter (· ∉ had) ++ [.detector spec] := by
    rw [Config.needed, List.filter_append]
    simp [hnew]
  rw [hneeded]
  cases h with
  | unknownKind hunknown =>
    have hkind : b.kinds.detectors.get? spec.kind = none := by
      have hget := Table.get?_map DetectorFactory.traced b.kinds.detectors spec.kind
      exact Option.map_eq_none_iff.1 (hget.symm.trans hunknown)
    exact ⟨[], (List.append_nil _).symm, .early (.inl ⟨hkind, rfl⟩), fun d hd => nomatch hd⟩
  | @noParser _ e _ hknown hparser =>
    obtain ⟨new, hmade, hwent, -⟩ := namedParser_went hkept hparser
    exact ⟨new, hmade, hwent.leaving [.detector spec], fun d hd => nomatch hd⟩
  | @decided _ parser t'' _ s hknown hparser hdecided =>
    have hget := Table.get?_map DetectorFactory.traced b.kinds.detectors spec.kind
    obtain ⟨factory, hfactory, rfl⟩ := Option.map_eq_some_iff.1 (hget.symm.trans hknown)
    obtain ⟨new, hmade, hwent, hkept'⟩ := namedParser_went hkept hparser
    have hbuild := factory.made_traced ⟨spec, b.traced.inputs, parser, b.traced.timeout⟩ t''.state
    rw [hdecided, hmade, List.append_assoc] at hbuild
    refine ⟨_, hbuild, hwent.append (.single _ r), fun d hd => ⟨?_, ?_⟩⟩
    · subst hd
      rw [DetectorFactory.exec_traced] at hdecided
      cases hplain : (factory (DetectorBuild.untraced ⟨spec, b.traced.inputs, parser,
          b.traced.timeout⟩)).exec t''.state.state with
      | mk outcome after =>
        rw [hplain] at hdecided
        cases outcome with
        | error e => cases hdecided
        | ok untraced =>
          cases hdecided
          have hname := named _ _ hfactory _ _ _ _ hplain
          exact ⟨hname, untraced, rfl⟩
    · intro other
      rw [← List.append_assoc]
      have hkept := hkept' rfl other
      show (t''.parser? other).isSome ↔ _
      rw [hkept]
      refine exists_congr fun p => and_congr_right fun _ => ?_
      rw [List.mem_append (t := [Call.detector spec])]
      simp

end InstanceBuilder

/-! ## Building a run -/

namespace Runner

/-- What has been called and built when the assignments in `done` have been gone through. -/
structure Built (b : InstanceBuilder S) (early : SurveyError → Prop) (done : List Assignment)
    (run : PreparedRun (Traced S)) (t : Building (Traced S)) : Prop where
  went : Went early (b.config.needs done) t.state.made none
  kept : t.Keeps b.config (b.config.needs done)
  names : run.detectorNames = (done.map (·.detector.name)).eraseDups
  detectors : ∀ d ∈ run.detectors, ∃ a ∈ done, d.BuiltFor a.detector
  answerers : List.Forall₂ (fun e a => e.1 = a.feature ∧ e.2.BuiltFor a.detector) run.answerers done

variable {early : SurveyError → Prop} {done : List Assignment} {a : Assignment}
  {run run' : PreparedRun (Traced S)} {t t' : Building (Traced S)}

theorem Built.start (b : InstanceBuilder S) (early : SurveyError → Prop) (s : S) :
    Built b early [] .empty ({ state := { state := s } } : Building (Traced S)) where
  went := .done
  kept := fun name => by simp [Building.parser?, Config.needs]
  names := rfl
  detectors := fun d hd => nomatch hd
  answerers := .nil

/-- Without a detector of this name, none has been called for. -/
theorem Built.not_called (h : Built b early done run t)
    (absent : run.slot? a.detector.name = none) :
    Call.detector a.detector ∉ b.config.needs done ∧
      a.detector.name ∉ (done.map (·.detector.name)).eraseDups := by
  have hnames : a.detector.name ∉ (done.map (·.detector.name)).eraseDups := by
    rw [← h.names]
    intro hin
    obtain ⟨d, hd, hname⟩ := List.mem_map.1 hin
    exact PreparedRun.slot?_eq_none absent d hd hname
  refine ⟨fun hin => ?_, hnames⟩
  obtain ⟨a', ha', hsame⟩ := Config.detector_mem_needs.1 hin
  refine hnames (List.mem_eraseDups.2 (List.mem_map.2 ⟨a', ha', ?_⟩))
  rw [hsame]

/-- One more assignment. -/
theorem Built.step (named : b.kinds.Named) (h : Built b early done run t)
    (same : ∀ a' ∈ done, a'.detector.name = a.detector.name → a'.detector = a.detector)
    (hstep : Step b.traced a run t run' t')
    (hearly : ∀ e, b.Unbuildable a.detector e → early e) :
    Built b early (done ++ [a]) run' t' := by
  cases hstep with
  | @kept slot found =>
    -- the detector at this position was built for the same declaration
    obtain ⟨a', ha', hbuilt⟩ := h.detectors _ (List.get_mem run.detectors slot)
    have hname : a'.detector.name = a.detector.name := by
      rw [← hbuilt.1]
      exact PreparedRun.slot?_eq_some found
    have hsame := same a' ha' hname
    have hneeds : b.config.needs (done ++ [a]) = b.config.needs done := by
      have hnothing : (b.config.needed a.detector).filter (· ∉ b.config.needs done) = [] := by
        refine List.filter_eq_nil_iff.2 fun call hcall => ?_
        have hin : call ∈ b.config.needs done := Config.mem_needs.2 ⟨a', ha', hsame ▸ hcall⟩
        simpa using hin
      rw [Config.needs_concat, hnothing, List.append_nil]
    exact {
      went := hneeds ▸ h.went
      kept := hneeds ▸ h.kept
      names := by
        have hin : a.detector.name ∈ (done.map (·.detector.name)).eraseDups :=
          List.mem_eraseDups.2 (List.mem_map.2 ⟨a', ha', hname⟩)
        rw [List.map_append, List.map_singleton, eraseDups_concat_of_mem hin]
        exact h.names
      detectors := fun d hd => by
        obtain ⟨a'', ha'', hd⟩ := h.detectors d hd
        exact ⟨a'', List.mem_append_left _ ha'', hd⟩
      answerers := by
        rw [PreparedRun.answerers_withFeature]
        exact List.rel_append h.answerers (.cons ⟨rfl, hsame ▸ hbuilt⟩ .nil) }
  | @made _ d absent hmade =>
    obtain ⟨hnew, hname⟩ := h.not_called absent
    have hrun := b.traced.detector_run a.detector t
    rw [hmade] at hrun
    obtain ⟨new, hcalls, hwent, hbuilt⟩ := InstanceBuilder.detector_went named h.kept hnew hrun
    obtain ⟨hbuilt, hkept⟩ := hbuilt d rfl
    exact {
      went := by
        rw [hcalls, Config.needs_concat]
        exact h.went.append (hwent.mono hearly)
      kept := by
        rw [Config.needs_concat]
        exact hkept
      names := by
        rw [List.map_append, List.map_singleton, eraseDups_concat_of_not_mem hname, ← h.names,
          ← hbuilt.1]
        simp [PreparedRun.detectorNames, PreparedRun.withDetector]
      detectors := fun d' hd' => by
        rcases List.mem_append.1 hd' with hd' | hd'
        · obtain ⟨a', ha', hd'⟩ := h.detectors d' hd'
          exact ⟨a', List.mem_append_left _ ha', hd'⟩
        · obtain rfl := List.mem_singleton.1 hd'
          exact ⟨a, List.mem_append_right _ List.mem_cons_self, hbuilt⟩
      answerers := by
        rw [PreparedRun.answerers_withDetector]
        exact List.rel_append h.answerers (.cons ⟨rfl, hbuilt⟩ .nil) }

/-! ## Asking -/

theorem askAll_went {asked : List (String × Detector (Traced S))} {assignments : List Assignment}
    (h : List.Forall₂ (fun e a => e.1 = a.feature ∧ e.2.BuiltFor a.detector) asked assignments)
    (record : ResultRecord) (t : Traced S) :
    ∃ new, ((PreparedRun.askAll record asked).exec t).2.made = t.made ++ new ∧
      Went (fun _ => False) (questions assignments) new
        (errorIn ((PreparedRun.askAll record asked).exec t).1) := by
  induction h generalizing record t with
  | nil => exact ⟨[], (List.append_nil _).symm, .done⟩
  | @cons e a rest assignments he _ ih =>
    obtain ⟨feature, d⟩ := e
    obtain ⟨hfeature, -, untraced, hd⟩ := he
    dsimp only at hfeature hd
    subst hfeature hd
    rw [PreparedRun.askAll]
    have hdetect : ((Detector.traced a.detector untraced).detect a.feature).exec t = _ :=
      Traced.exec_calling (.detect a.detector a.feature) (untraced.detect a.feature) t
    rcases hanswer : (untraced.detect a.feature).exec t.state with ⟨error | value, s⟩
    · rw [hanswer] at hdetect
      rw [Attempt.exec_bind_error hdetect]
      exact ⟨_, rfl, .failed⟩
    · rw [hanswer] at hdetect
      rw [Attempt.exec_bind_ok hdetect]
      obtain ⟨new, hmade, hwent⟩ := ih (record.insert a.feature value)
        { state := s, made := t.made ++ [(Call.detect a.detector a.feature).ended (.ok value)] }
      refine ⟨_, ?_, hwent.next⟩
      rw [hmade, List.append_assoc]
      rfl

/-! ## The whole run -/

/-- What is called when a request that was assigned is prepared and executed. -/
structure CallsInOrder (b : InstanceBuilder S) (assignments : List Assignment)
    (r : Except SurveyError (PreparedRun (Traced S) × List String)) (made : List Made) : Prop where
  /-- Building goes by first need. -/
  built : Went (fun e => ∃ a ∈ assignments, b.Unbuildable a.detector e)
    (b.config.needs assignments) made (errorIn r)
  once : (made.map (·.call)).Nodup
  needed : ∀ m ∈ made, b.config.Declares m.call ∧
    ∃ a ∈ assignments, m.call ∈ b.config.needed a.detector
  /-- There is one detector for each name that is needed, and each feature has its place. -/
  planned : ∀ run parsers, r = .ok (run, parsers) →
    run.detectorNames = (assignments.map (·.detector.name)).eraseDups ∧
      (∀ e ∈ run.plan, e.2.val < run.detectors.length) ∧
      run.plan.map (fun e => (e.1, (run.detectors.get e.2).name)) =
        assignments.map fun a => (a.feature, a.detector.name)
  /-- From whatever state, executing asks the features in order. -/
  asked : ∀ run parsers, r = .ok (run, parsers) → ∀ t : Traced S,
    ∃ new, (run.execute.exec t).2.made = t.made ++ new ∧
      Went (fun _ => False) (questions assignments) new (errorIn (run.execute.exec t).1)

/-- Calls that are made in order are not repeated, and are made for names that lead somewhere. -/
theorem once_needed {c : Config} {assignments : List Assignment} {made : List Made}
    {e? : Option SurveyError}
    (declared : ∀ a ∈ assignments, c.detector? a.detector.name = some a.detector)
    (h : Went early (c.needs assignments) made e?) :
    (made.map (·.call)).Nodup ∧ ∀ m ∈ made, c.Declares m.call ∧
      ∃ a ∈ assignments, m.call ∈ c.needed a.detector := by
  have hcalls := h.calls_prefix
  refine ⟨(nodup_eraseDups _).sublist hcalls.sublist, fun m hm => ?_⟩
  obtain ⟨a, ha, hneeded⟩ := Config.mem_needs.1 (hcalls.subset (List.mem_map_of_mem hm))
  exact ⟨Config.declares_of_needed (declared a ha) hneeded, a, ha, hneeded⟩

/-- The building that stopped made the calls up to the one it stopped at. -/
theorem StoppedAt.went {assignments : List Assignment} {e : SurveyError} (named : b.kinds.Named)
    (h : StoppedAt b.traced (Built b early) assignments e t)
    (hearly : ∀ a ∈ assignments, ∀ e, b.Unbuildable a.detector e → early e) :
    Went early (b.config.needs assignments) t.state.made (some e) := by
  obtain ⟨before, a, behind, run, reached, rfl, hbuilt, habsent, hfailed⟩ := h
  have hrun := b.traced.detector_run a.detector reached
  rw [hfailed] at hrun
  obtain ⟨new, hmade, hwent, -⟩ :=
    InstanceBuilder.detector_went named hbuilt.kept (hbuilt.not_called habsent).1 hrun
  have hstopped : Went early (b.config.needs (before ++ [a])) t.state.made (some e) := by
    rw [hmade, Config.needs_concat]
    exact hbuilt.went.append (hwent.mono (hearly a (by simp)))
  obtain ⟨more, hmore⟩ := Config.needs_append (c := b.config) (before ++ [a]) behind
  rw [List.append_cons, hmore]
  exact hstopped.leaving more

/-- A run that was built has its plan from the assignments. -/
theorem Built.plan (h : Built b early done run t) :
    run.plan.map (fun e => (e.1, (run.detectors.get e.2).name)) =
      done.map fun a => (a.feature, a.detector.name) := by
  have hnames : run.plan.map (fun e => (e.1, (run.detectors.get e.2).name)) =
      run.answerers.map fun e => (e.1, e.2.name) := by
    rw [PreparedRun.answerers, List.map_map]
    rfl
  have hanswerers := h.answerers
  rw [hnames]
  generalize run.answerers = answerers at hanswerers
  clear h hnames
  induction hanswerers with
  | nil => rfl
  | cons hhead _ ih => rw [List.map_cons, List.map_cons, hhead.1, hhead.2.1, ih]

/-- **A run makes the calls that are due, in order, up to the first that fails.**

The traced run gives what the run itself gives. If the request cannot be assigned, there is no call;
otherwise its features are assigned one by one, and `CallsInOrder` says what is called for them. -/
theorem calls_inOrder (b : InstanceBuilder S) (named : b.kinds.Named) (requested : List String)
    (s : S) :
    (∀ t : Traced S,
      ((Runner.run b.traced requested).exec t).1 = ((Runner.run b requested).exec t.state).1 ∧
      ((Runner.run b.traced requested).exec t).2.state =
        ((Runner.run b requested).exec t.state).2) ∧
    match Resolver.assign b.config (b.config.featuresOrDefault requested) with
    | .error e => (prepare b.traced requested).exec { state := s } = (.error e, { state := s })
    | .ok assignments =>
        assignments.map (·.feature) = (b.config.featuresOrDefault requested).eraseDups ∧
          CallsInOrder b assignments ((prepare b.traced requested).exec { state := s }).1
            ((prepare b.traced requested).exec { state := s }).2.made := by
  refine ⟨run_traced b requested, ?_⟩
  have hconfig : b.traced.config = b.config := rfl
  rw [exec_prepare, hconfig]
  cases hassign : Resolver.assign b.config (b.config.featuresOrDefault requested) with
  | error e => rfl
  | ok assignments =>
    obtain ⟨-, -, hfeatures, -⟩ := Resolver.assign_eq_ok_iff.1 hassign
    refine ⟨hfeatures, ?_⟩
    have hdeclared : ∀ a ∈ assignments, b.config.detector? a.detector.name = some a.detector :=
      fun a ha => Resolver.detector?_of_assign hassign ha
    have hspec := build_spec (b := b.traced)
      (I := Built b fun e => ∃ a ∈ assignments, b.Unbuildable a.detector e) assignments
      (Built.start b _ s) (by
        intro before a behind run t run' t' hsplit h hstep
        have ha : a ∈ assignments := by simp [hsplit]
        refine h.step named (fun a' ha' => ?_) hstep fun e he => ⟨a, ha, he⟩
        exact Resolver.detector_eq_of_name hassign (by simp [hsplit, ha']) ha)
    dsimp only
    rcases hbuild : (build b.traced .empty assignments).exec { state := { state := s } } with
      ⟨e | run, t⟩ <;> rw [hbuild] at hspec
    · have hwent := StoppedAt.went named hspec fun a ha e he => ⟨a, ha, he⟩
      obtain ⟨honce, hneeded⟩ := once_needed hdeclared hwent
      exact ⟨hwent, honce, hneeded, nofun, nofun⟩
    · have hbuilt : Built b _ assignments run t := hspec
      obtain ⟨honce, hneeded⟩ := once_needed hdeclared hbuilt.went
      refine ⟨hbuilt.went, honce, hneeded, fun run' _ h => ?_, fun run' _ h u => ?_⟩
      · cases h
        exact ⟨hbuilt.names, fun e _ => e.2.isLt, hbuilt.plan⟩
      · cases h
        rw [PreparedRun.execute_eq]
        exact askAll_went hbuilt.answerers .empty u

end Runner

end Runs

namespace Runner

/-- Kinds on a counter, which every call moves on. A question that comes late is not answered. -/
def turnstile : KindRegistry Nat :=
  KindRegistry.empty
    |>.withParser "log" (fun build => do
      Attempt.always (modify (· + 1))
      return ⟨build.spec.name, fun _ => pure (.lines [])⟩)
    |>.withDetector "line" (fun build => do
      Attempt.always (modify (· + 1))
      return ⟨build.spec.name, fun feature => fun count =>
        if count < 5 then (.ok (.bool true), count + 1)
        else (.error (.unsupportedFeature build.spec.name feature), count)⟩)

theorem turnstile_named : turnstile.Named := by
  refine .withDetector (.withParser .empty _) fun build s d s' h => ?_
  obtain ⟨_, _, -, h⟩ := Attempt.exec_bind_eq_ok h
  cases h
  rfl

/-- Two detectors that share a parser, and one that nobody needs. -/
def sharing : InstanceBuilder Nat where
  kinds := turnstile
  inputs := {}
  config := {
    detectors := [
      { name := "flags", kind := "line", parser := some "build", features := ["pie", "relro"] },
      { name := "spare", kind := "line", parser := some "other", features := ["canary"] },
      { name := "dialect", kind := "line", parser := some "build", features := ["standard"] }]
    parsers := [{ name := "build", kind := "log" }, { name := "other", kind := "log" }] }

theorem calls_inOrder_sharing :
    turnstile.Named ∧
      CallsInOrder sharing
        [⟨"standard", sharing.config.detectors[2]⟩, ⟨"pie", sharing.config.detectors[0]⟩,
          ⟨"relro", sharing.config.detectors[0]⟩]
        ((prepare sharing.traced ["standard", "pie", "standard", "relro"]).exec { state := 0 }).1
        ((prepare sharing.traced ["standard", "pie", "standard", "relro"]).exec
          { state := 0 }).2.made ∧
      ((run sharing.traced ["standard", "pie", "standard", "relro"]).exec
        { state := 0 }).2.made.map (·.call) = [
          .parser ⟨"build", "log", ∅⟩,
          .detector sharing.config.detectors[2],
          .detector sharing.config.detectors[0],
          .detect sharing.config.detectors[2] "standard",
          .detect sharing.config.detectors[0] "pie",
          .detect sharing.config.detectors[0] "relro"] :=
  ⟨turnstile_named,
    (calls_inOrder sharing turnstile_named ["standard", "pie", "standard", "relro"] 0).2.2, rfl⟩

end Runner

end FeatureSurvey
