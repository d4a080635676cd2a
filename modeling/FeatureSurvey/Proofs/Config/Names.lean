import FeatureSurvey.Config.Validate
import FeatureSurvey.Proofs.Data.Table
import FeatureSurvey.Proofs.Resolver.Assignment
import FeatureSurvey.Proofs.Run.Kinds

/-!
# `Proofs/Config/Names.lean` — declarations that are told apart by their names

Everything that speaks of a declaration speaks of its name: a detector names its parser, the index
of features names detectors, and whoever wants the declaration looks for the first one that bears
the name. In a configuration at large this may be another one than was meant. In an accepted
configuration it cannot be: **no two declarations of it bear one name, and each is found under its
own** (`Config.Unambiguous`).

A configuration is accepted if nothing is wrong with its names and with its limit for tools. What is
reported otherwise is the first thing that is wrong, where the names of detectors come before those
of parsers, and the limit comes last (`Config.Refused`). The check goes through the names with those
it has seen; that it stops at the first offender of the whole list is said by `nameFault?_append`:
names that can be told apart are only put with those that were seen.
-/

set_option autoImplicit false

namespace FeatureSurvey

/-! ## Names that can be told apart -/

/-- None of the names is blank, and none stands twice. -/
structure ToldApart (names : List String) : Prop where
  named : ∀ name ∈ names, Text.isBlankText name = false
  distinct : names.Nodup

theorem toldApart_concat_iff {names : List String} {name : String} :
    ToldApart (names ++ [name]) ↔
      ToldApart names ∧ Text.isBlankText name = false ∧ name ∉ names := by
  have hdistinct : (names ++ [name]).Nodup ↔ names.Nodup ∧ name ∉ names := by
    rw [List.nodup_append_comm, List.singleton_append, List.nodup_cons, and_comm]
  constructor
  · intro h
    obtain ⟨hnodup, hnew⟩ := hdistinct.1 h.distinct
    exact ⟨⟨fun n hn => h.named n (List.mem_append_left _ hn), hnodup⟩,
      h.named name (List.mem_append_right _ (List.mem_singleton_self name)), hnew⟩
  · rintro ⟨h, hnamed, hnew⟩
    refine ⟨fun n hn => ?_, hdistinct.2 ⟨h.distinct, hnew⟩⟩
    rcases List.mem_append.1 hn with hn | hn
    · exact h.named n hn
    · rw [List.mem_singleton.1 hn]
      exact hnamed

/-- The fault of the first name that offends: one that is blank, or one that stands among those
before it, while all of these can be told apart. -/
inductive FirstFault (unnamed : ConfigFault) (repeated : String → ConfigFault) :
    List String → ConfigFault → Prop
  | unnamed {before after : List String} {name : String} (toldApart : ToldApart before)
      (blank : Text.isBlankText name = true) :
      FirstFault unnamed repeated (before ++ name :: after) unnamed
  | repeated {before after : List String} {name : String} (toldApart : ToldApart before)
      (named : Text.isBlankText name = false) (again : name ∈ before) :
      FirstFault unnamed repeated (before ++ name :: after) (repeated name)

variable {unnamed : ConfigFault} {repeated : String → ConfigFault}
  {names seen before rest : List String} {fault : ConfigFault}

theorem FirstFault.append (h : FirstFault unnamed repeated names fault) (more : List String) :
    FirstFault unnamed repeated (names ++ more) fault := by
  cases h with
  | unnamed toldApart blank =>
    rw [List.append_assoc]
    exact .unnamed toldApart blank
  | repeated toldApart named again =>
    rw [List.append_assoc]
    exact .repeated toldApart named again

/-- Names can be told apart, or there is a first one that offends. -/
theorem toldApart_or_firstFault (unnamed : ConfigFault) (repeated : String → ConfigFault)
    (names : List String) :
    ToldApart names ∨ ∃ fault, FirstFault unnamed repeated names fault := by
  induction names using List.reverseRecOn with
  | nil => exact .inl ⟨fun _ h => absurd h List.not_mem_nil, .nil⟩
  | append_singleton names name ih =>
    rcases ih with htold | ⟨fault, hfault⟩
    · cases hblank : Text.isBlankText name with
      | true => exact .inr ⟨_, .unnamed htold hblank⟩
      | false =>
        by_cases hagain : name ∈ names
        · exact .inr ⟨_, .repeated htold hblank hagain⟩
        · exact .inl (toldApart_concat_iff.2 ⟨htold, hblank, hagain⟩)
    · exact .inr ⟨fault, hfault.append [name]⟩

namespace Config

/-! ## Going through the names -/

/-- Names that can be told apart, from each other and from those that were seen, are seen. -/
theorem nameFault?_append (toldApart : ToldApart before) (new : ∀ name ∈ before, name ∉ seen) :
    nameFault? unnamed repeated seen (before ++ rest) =
      nameFault? unnamed repeated (before.reverse ++ seen) rest := by
  induction before generalizing seen with
  | nil => rfl
  | cons name before ih =>
    obtain ⟨hnamed, hnameds⟩ := List.forall_mem_cons.1 toldApart.named
    obtain ⟨hname, hdistinct⟩ := List.nodup_cons.1 toldApart.distinct
    obtain ⟨hnew, hnews⟩ := List.forall_mem_cons.1 new
    have hseen : ∀ other ∈ before, other ∉ name :: seen := by
      intro other hother hmem
      rcases List.mem_cons.1 hmem with rfl | hmem
      · exact hname hother
      · exact hnews other hother hmem
    rw [List.cons_append, nameFault?, hnamed, if_neg Bool.false_ne_true,
      if_neg (by rwa [List.contains_iff_mem]), ih ⟨hnameds, hdistinct⟩ hseen, List.reverse_cons,
      List.append_assoc, List.singleton_append]

theorem nameFault?_of_toldApart (h : ToldApart names) :
    nameFault? unnamed repeated [] names = none := by
  have hseen : nameFault? unnamed repeated [] (names ++ []) =
      nameFault? unnamed repeated (names.reverse ++ []) [] :=
    nameFault?_append h fun _ _ => List.not_mem_nil
  rw [List.append_nil] at hseen
  rw [hseen, nameFault?]

theorem nameFault?_of_firstFault (h : FirstFault unnamed repeated names fault) :
    nameFault? unnamed repeated [] names = some fault := by
  cases h with
  | unnamed toldApart blank =>
    rw [nameFault?_append toldApart fun _ _ => List.not_mem_nil, nameFault?, if_pos blank]
  | repeated toldApart named again =>
    have hseen : (List.reverse _ ++ []).contains _ = true :=
      List.contains_iff_mem.2 (List.mem_append_left [] (List.mem_reverse.2 again))
    rw [nameFault?_append toldApart fun _ _ => List.not_mem_nil, nameFault?, named,
      if_neg Bool.false_ne_true, if_pos hseen]

theorem nameFault?_eq_none_iff :
    nameFault? unnamed repeated [] names = none ↔ ToldApart names := by
  refine ⟨fun h => ?_, nameFault?_of_toldApart⟩
  rcases toldApart_or_firstFault unnamed repeated names with htold | ⟨fault, hfault⟩
  · exact htold
  · rw [nameFault?_of_firstFault hfault] at h
    cases h

theorem nameFault?_eq_some_iff :
    nameFault? unnamed repeated [] names = some fault ↔
      FirstFault unnamed repeated names fault := by
  refine ⟨fun h => ?_, nameFault?_of_firstFault⟩
  rcases toldApart_or_firstFault unnamed repeated names with htold | ⟨fault', hfault⟩
  · rw [nameFault?_of_toldApart htold] at h
    cases h
  · rw [nameFault?_of_firstFault hfault] at h
    exact Option.some.inj h ▸ hfault

/-! ## Accepted and refused configurations -/

def detectorNames (c : Config) : List String := c.detectors.map (·.name)

def parserNames (c : Config) : List String := c.parsers.map (·.name)

variable {c : Config}

theorem validate_eq_ok_iff {c : Config} :
    c.validate = .ok () ↔
      ToldApart c.detectorNames ∧ ToldApart c.parserNames ∧ c.toolTimeout ≠ 0 := by
  have hfault : c.validate = .ok () ↔ c.fault? = none := by
    rw [validate]
    split <;> simp [*]
  rw [hfault, fault?]
  simp only [Option.orElse_eq_orElse, Option.orElse_eq_or, Option.or_eq_none_iff,
    nameFault?_eq_none_iff, detectorNames, parserNames]
  simp

/-- What is wrong with a configuration: the first thing, in the order of the declarations. -/
inductive Refused (c : Config) : ConfigFault → Prop
  | detector {fault : ConfigFault}
      (first : FirstFault .unnamedDetector .repeatedDetector c.detectorNames fault) :
      Refused c fault
  | parser {fault : ConfigFault} (detectors : ToldApart c.detectorNames)
      (first : FirstFault .unnamedParser .repeatedParser c.parserNames fault) : Refused c fault
  | timeout (detectors : ToldApart c.detectorNames) (parsers : ToldApart c.parserNames)
      (zero : c.toolTimeout = 0) : Refused c .zeroTimeout

theorem fault?_eq_some_iff : c.fault? = some fault ↔ c.Refused fault := by
  unfold fault?
  constructor
  · intro h
    cases hdetectors : nameFault? .unnamedDetector .repeatedDetector [] c.detectorNames with
    | some found =>
      rw [← detectorNames, hdetectors] at h
      obtain rfl : found = fault := Option.some.inj h
      exact .detector (nameFault?_eq_some_iff.1 hdetectors)
    | none =>
      have hfirst := nameFault?_eq_none_iff.1 hdetectors
      cases hparsers : nameFault? .unnamedParser .repeatedParser [] c.parserNames with
      | some found =>
        rw [← detectorNames, ← parserNames, hdetectors, hparsers] at h
        obtain rfl : found = fault := Option.some.inj h
        exact .parser hfirst (nameFault?_eq_some_iff.1 hparsers)
      | none =>
        rw [← detectorNames, ← parserNames, hdetectors, hparsers] at h
        by_cases hzero : c.toolTimeout = 0
        · rw [if_pos hzero] at h
          obtain rfl : ConfigFault.zeroTimeout = fault := Option.some.inj h
          exact .timeout hfirst (nameFault?_eq_none_iff.1 hparsers) hzero
        · rw [if_neg hzero] at h
          cases h
  · intro h
    rw [← detectorNames, ← parserNames]
    cases h with
    | detector first =>
      rw [nameFault?_eq_some_iff.2 first]
      rfl
    | parser detectors first =>
      rw [nameFault?_eq_none_iff.2 detectors, nameFault?_eq_some_iff.2 first]
      rfl
    | timeout detectors parsers zero =>
      rw [nameFault?_eq_none_iff.2 detectors, nameFault?_eq_none_iff.2 parsers, if_pos zero]
      rfl

theorem validate_eq_error_iff {e : SurveyError} :
    c.validate = .error e ↔ ∃ fault, c.Refused fault ∧ e = .config fault := by
  simp only [← fault?_eq_some_iff]
  unfold validate
  cases c.fault? with
  | none => simp
  | some fault => simp [eq_comm]

/-! ## Look-ups -/

theorem detector?_eq_some_iff (distinct : c.detectorNames.Nodup) {name : String}
    {d : DetectorSpec} : c.detector? name = some d ↔ d ∈ c.detectors ∧ d.name = name :=
  find?_key_eq_some_iff distinct

theorem parser?_eq_some_iff (distinct : c.parserNames.Nodup) {name : String} {p : ParserSpec} :
    c.parser? name = some p ↔ p ∈ c.parsers ∧ p.name = name :=
  find?_key_eq_some_iff distinct

/-- A name leads to one declaration, whoever follows it. -/
structure Unambiguous (c : Config) : Prop where
  detector : ∀ d ∈ c.detectors, c.detector? d.name = some d
  parser : ∀ p ∈ c.parsers, c.parser? p.name = some p
  /-- What is found under a name is the one declaration that bears it. -/
  onlyDetector : ∀ name d, c.detector? name = some d ↔ d ∈ c.detectors ∧ d.name = name
  onlyParser : ∀ name p, c.parser? name = some p ↔ p ∈ c.parsers ∧ p.name = name
  /-- The detector that a feature is assigned to is declared, and no other one bears its name. -/
  assigned : ∀ requested assignments, Resolver.assign c requested = .ok assignments →
    ∀ a ∈ assignments, ∀ d, d ∈ c.detectors ∧ d.name = a.detector.name ↔ d = a.detector
  /-- The parser that is built under a name is the declared one, and no other one bears it. -/
  built : ∀ (S : Type) (b : InstanceBuilder S), b.config = c →
    ∀ detector name spec factory, b.parserFactory detector name = .ok (spec, factory) →
      ∀ p, p ∈ c.parsers ∧ p.name = name ↔ p = spec

theorem unambiguous (detectors : c.detectorNames.Nodup) (parsers : c.parserNames.Nodup) :
    c.Unambiguous where
  detector d hd := (detector?_eq_some_iff detectors).2 ⟨hd, rfl⟩
  parser p hp := (parser?_eq_some_iff parsers).2 ⟨hp, rfl⟩
  onlyDetector name d := detector?_eq_some_iff detectors
  onlyParser name p := parser?_eq_some_iff parsers
  assigned requested assignments hassign a ha d := by
    have hfound := Resolver.detector?_of_assign hassign ha
    rw [← detector?_eq_some_iff detectors, hfound, Option.some.injEq, eq_comm]
  built S b hb detector name spec factory hfactory p := by
    have hfound := (InstanceBuilder.parserFactory_eq_ok_iff.1 hfactory).1
    rw [hb] at hfound
    rw [← parser?_eq_some_iff parsers, hfound, Option.some.injEq, eq_comm]

/-- **A configuration is accepted just when its declarations can be told apart and its tools are
given time.** Otherwise the first thing that is wrong is the error. In an accepted one every name
leads to the declaration that bears it. -/
theorem validate_tellsApart (c : Config) :
    (c.validate = .ok () ↔
      ToldApart c.detectorNames ∧ ToldApart c.parserNames ∧ 0 < c.toolTimeout) ∧
    (∀ e, c.validate = .error e ↔ ∃ fault, c.Refused fault ∧ e = .config fault) ∧
    (c.validate = .ok () → c.Unambiguous) := by
  have hpositive : 0 < c.toolTimeout ↔ c.toolTimeout ≠ 0 := UInt64.pos_iff_ne_zero
  refine ⟨?_, fun e => validate_eq_error_iff, fun haccepted => ?_⟩
  · rw [hpositive]
    exact validate_eq_ok_iff
  · obtain ⟨hdetectors, hparsers, -⟩ := validate_eq_ok_iff.1 haccepted
    exact unambiguous hdetectors.distinct hparsers.distinct

/-- Names that differ in case or in a blank are two names, and a parser may bear that of a
detector. -/
def closeNames : Config where
  detectors := [{ name := "log", kind := "aslr", parser := some "log", features := ["aslr"] },
    { name := "Log", kind := "lang-version", parser := some "log" }]
  parsers := [{ name := "log", kind := "build-log" }, { name := " log", kind := "build-log" }]

theorem validate_tellsApart_closeNames :
    closeNames.validate = .ok () ∧ closeNames.Unambiguous ∧
      (closeNames.detector? "Log").map (·.kind) = some "lang-version" := by
  have haccepted : closeNames.validate = .ok () := by decide
  have hclear := (validate_tellsApart closeNames).2.2 haccepted
  have hdeclared : { name := "Log", kind := "lang-version", parser := some "log" } ∈
      closeNames.detectors := by decide
  refine ⟨haccepted, hclear, ?_⟩
  rw [hclear.detector _ hdeclared]
  rfl

/-- A name that comes again is reported before a blank one further on, and a detector before a
parser. -/
example : ({ detectors := [{ name := "a", kind := "" }, { name := "a", kind := "" },
      { name := " ", kind := "" }], parsers := [{ name := "", kind := "" }] } : Config).validate =
    .error (.config (.repeatedDetector "a")) := by
  decide

end Config

end FeatureSurvey
