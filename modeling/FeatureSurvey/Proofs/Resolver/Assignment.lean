import FeatureSurvey.Config.Legacy
import FeatureSurvey.Proofs.Data.Table
import FeatureSurvey.Proofs.Resolver.Claims
import Mathlib.Data.List.Nodup

/-!
# `Proofs/Resolver/Assignment.lean` — requests, answered by the declarations

With an index at hand a request is assigned feature by feature. The index gives names, and a name
leads to the first declaration that bears it. If no two detectors share a name, that declaration is
the claimant itself, and **what a request resolves to can be said by claimants alone**
(`Resolution`): the first requested feature without a claimant is the error, and otherwise every
requested feature is paired, once and in the order of the request, with its last claimant.

Names that repeat lead to another declaration than the claimant's, but never to none
(`detectorFor_cases`).
-/

set_option autoImplicit false

namespace FeatureSurvey

theorem nodup_eraseDups {α : Type} [DecidableEq α] : ∀ items : List α, items.eraseDups.Nodup
  | [] => by simp
  | item :: rest => by
    have hshorter := List.length_filter_le (fun other => !other == item) rest
    rw [List.eraseDups_cons]
    refine List.nodup_cons.2 ⟨?_, nodup_eraseDups _⟩
    rw [List.mem_eraseDups, List.mem_filter]
    simp
termination_by items => items.length
decreasing_by simp only [List.length_cons]; omega

/-! ## Declarations by name -/

namespace Config

variable {c : Config} {name : String} {d : DetectorSpec}

theorem detector?_eq_some (h : c.detector? name = some d) : d ∈ c.detectors ∧ d.name = name := by
  refine ⟨List.mem_of_find?_eq_some h, ?_⟩
  have hname := List.find?_some h
  exact eq_of_beq hname

theorem exists_detector? (hd : d ∈ c.detectors) : ∃ found, c.detector? d.name = some found := by
  refine Option.isSome_iff_exists.1 ?_
  rw [detector?, List.find?_isSome]
  exact ⟨d, hd, beq_self_eq_true d.name⟩

theorem detector?_name (distinct : (c.detectors.map (·.name)).Nodup) (hd : d ∈ c.detectors) :
    c.detector? d.name = some d :=
  (find?_key_eq_some_iff distinct).2 ⟨hd, rfl⟩

theorem parser?_eq_some {p : ParserSpec} (h : c.parser? name = some p) :
    p ∈ c.parsers ∧ p.name = name := by
  refine ⟨List.mem_of_find?_eq_some h, ?_⟩
  have hname := List.find?_some h
  exact eq_of_beq hname

end Config

namespace Resolver

variable {c : Config} {index : FeatureIndex} {requested : List String}
  {assignments : List Assignment} {feature : String}

/-! ## One feature -/

/-- A feature has no claimant and this is the error, or it has one, and the name of the last one
leads to a declaration. -/
theorem detectorFor_cases (h : FeatureIndex.ofConfig c = .ok index) (feature : String) :
    (c.claimants feature = [] ∧ detectorFor c index feature = .error (.noProducer feature)) ∨
      ∃ last d, (c.claimants feature).getLast? = some last ∧ c.detector? last.name = some d ∧
        detectorFor c index feature = .ok d := by
  unfold detectorFor
  rw [FeatureIndex.producer?_eq h]
  cases hlast : (c.claimants feature).getLast? with
  | none => exact .inl ⟨List.getLast?_eq_none_iff.1 hlast, rfl⟩
  | some last =>
    have hmem := (Config.mem_claimants.1 (List.mem_of_getLast? hlast)).1
    obtain ⟨d, hd⟩ := Config.exists_detector? hmem
    exact .inr ⟨last, d, rfl, hd, by simp [hd]⟩

theorem detectorFor_eq_last (distinct : (c.detectors.map (·.name)).Nodup)
    (h : FeatureIndex.ofConfig c = .ok index) {d : DetectorSpec}
    (hd : detectorFor c index feature = .ok d) : (c.claimants feature).getLast? = some d := by
  rcases detectorFor_cases h feature with ⟨-, herror⟩ | ⟨last, found, hlast, hfound, hok⟩
  · rw [herror] at hd
    cases hd
  · have hmem := (Config.mem_claimants.1 (List.mem_of_getLast? hlast)).1
    rw [Config.detector?_name distinct hmem] at hfound
    rw [hok] at hd
    rw [hlast, hfound]
    exact congrArg some (Except.ok.inj hd)

/-! ## All features -/

/-- Assignments over one index are told apart by their features. -/
theorem eq_of_features {assignments' : List Assignment}
    (h : ∀ a ∈ assignments, detectorFor c index a.feature = .ok a.detector)
    (h' : ∀ a ∈ assignments', detectorFor c index a.feature = .ok a.detector)
    (hfeatures : assignments.map (·.feature) = assignments'.map (·.feature)) :
    assignments = assignments' := by
  induction assignments generalizing assignments' with
  | nil => exact (List.map_eq_nil_iff.1 hfeatures.symm).symm
  | cons a rest ih =>
    cases assignments' with
    | nil => cases hfeatures
    | cons a' rest' =>
      obtain ⟨hfeature, hrest⟩ : a.feature = a'.feature ∧
          rest.map (·.feature) = rest'.map (·.feature) := List.cons.inj hfeatures
      obtain ⟨hd, h⟩ := List.forall_mem_cons.1 h
      obtain ⟨hd', h'⟩ := List.forall_mem_cons.1 h'
      have hdetector : a.detector = a'.detector := by
        rw [hfeature, hd'] at hd
        exact (Except.ok.inj hd).symm
      rw [ih h h' hrest]
      congr 1
      cases a
      cases a'
      exact congr (congrArg Assignment.mk hfeature) hdetector

/-- Going through a request, the features in `done` having claimants. -/
theorem assignFrom_cases (h : FeatureIndex.ofConfig c = .ok index) (requested : List String)
    {done : List String}
    (hdone : ∀ f ∈ done, c.claimants f ≠ []) :
    match assignFrom c index done requested with
    | .ok assignments =>
        assignments.map (·.feature) = (requested.filter fun f => !done.contains f).eraseDups ∧
          ∀ a ∈ assignments, detectorFor c index a.feature = .ok a.detector
    | .error e => ∃ feature, (requested.find? fun f => (c.claimants f).isEmpty) = some feature ∧
        e = .noProducer feature := by
  induction requested generalizing done with
  | nil =>
    rw [assignFrom]
    exact ⟨rfl, fun a ha => absurd ha List.not_mem_nil⟩
  | cons feature rest ih =>
    rw [assignFrom]
    by_cases hin : done.contains feature
    · have hclaimed := hdone feature (by simpa using hin)
      simp only [hin, if_true, List.filter_cons, List.find?_cons, Bool.not_true,
        Bool.false_eq_true, if_false, List.isEmpty_eq_false_iff.2 hclaimed]
      exact ih hdone
    · simp only [hin, List.filter_cons, List.find?_cons, Bool.not_false, if_true]
      rcases detectorFor_cases h feature with ⟨hnone, herror⟩ | ⟨last, d, hlast, -, hok⟩
      · simp only [herror, hnone, List.isEmpty_nil]
        exact ⟨feature, rfl, rfl⟩
      · have hclaimed : c.claimants feature ≠ [] := by
          intro hnone
          rw [hnone] at hlast
          cases hlast
        have hdone' : ∀ f ∈ feature :: done, c.claimants f ≠ [] := by
          intro f hf
          rcases List.mem_cons.1 hf with rfl | hf
          · exact hclaimed
          · exact hdone f hf
        -- what is left of the request once `feature` has been assigned
        have hleft : (rest.filter fun f => !(feature :: done).contains f) =
            (rest.filter fun f => !done.contains f).filter fun f => !f == feature := by
          rw [List.filter_filter]
          refine List.filter_congr fun f _ => ?_
          rw [List.contains_cons, Bool.not_or]
        have hrest := ih hdone'
        simp only [hok, List.isEmpty_eq_false_iff.2 hclaimed]
        cases hassign : assignFrom c index (feature :: done) rest with
        | error e =>
          rw [hassign] at hrest
          exact hrest
        | ok assignments =>
          rw [hassign] at hrest
          obtain ⟨hfeatures, hdetectors⟩ := hrest
          refine ⟨?_, fun a ha => ?_⟩
          · rw [List.map_cons, hfeatures, hleft, List.eraseDups_cons]
          · rcases List.mem_cons.1 ha with rfl | ha
            · exact hok
            · exact hdetectors a ha

theorem assign_cases (h : FeatureIndex.ofConfig c = .ok index) (requested : List String) :
    match assign c requested with
    | .ok assignments => assignments.map (·.feature) = requested.eraseDups ∧
        ∀ a ∈ assignments, detectorFor c index a.feature = .ok a.detector
    | .error e => ∃ feature, (requested.find? fun f => (c.claimants f).isEmpty) = some feature ∧
        e = .noProducer feature := by
  have hcases := assignFrom_cases h requested (List.forall_mem_nil _)
  simp only [List.contains_nil, Bool.not_false, List.filter_true] at hcases
  rw [assign, h]
  exact hcases

theorem assign_of_noIndex {e : SurveyError} (h : FeatureIndex.ofConfig c = .error e)
    (requested : List String) : assign c requested = .error e := by
  rw [assign, h]

/-- A request that is assigned is assigned feature by feature, each feature once. -/
theorem assign_eq_ok_iff : assign c requested = .ok assignments ↔
    ∃ index, FeatureIndex.ofConfig c = .ok index ∧
      assignments.map (·.feature) = requested.eraseDups ∧
      ∀ a ∈ assignments, detectorFor c index a.feature = .ok a.detector := by
  cases hindex : FeatureIndex.ofConfig c with
  | error e => simp [assign_of_noIndex hindex]
  | ok index =>
    have hcases := assign_cases hindex requested
    constructor
    · intro hassign
      rw [hassign] at hcases
      exact ⟨index, rfl, hcases⟩
    · rintro ⟨index', hindex', hfeatures, hdetectors⟩
      obtain rfl := Except.ok.inj hindex'
      cases hassign : assign c requested with
      | error e =>
        -- the feature without a claimant would be assigned all the same
        rw [hassign] at hcases
        obtain ⟨feature, hfind, -⟩ := hcases
        have hmem : feature ∈ assignments.map (·.feature) := by
          rw [hfeatures]
          exact List.mem_eraseDups.2 (List.mem_of_find?_eq_some hfind)
        obtain ⟨a, ha, rfl⟩ := List.mem_map.1 hmem
        have hnone := List.find?_some hfind
        rcases detectorFor_cases hindex a.feature with ⟨-, herror⟩ | ⟨last, d, hlast, -, -⟩
        · rw [hdetectors a ha] at herror
          cases herror
        · rw [List.isEmpty_iff.1 hnone] at hlast
          cases hlast
      | ok assignments' =>
        rw [hassign] at hcases
        obtain ⟨hfeatures', hdetectors'⟩ := hcases
        rw [eq_of_features hdetectors' hdetectors (hfeatures'.trans hfeatures.symm)]

theorem feature_mem_of_assign (h : assign c requested = .ok assignments) {a : Assignment}
    (ha : a ∈ assignments) : a.feature ∈ requested := by
  obtain ⟨-, -, hfeatures, -⟩ := assign_eq_ok_iff.1 h
  rw [← List.mem_eraseDups, ← hfeatures]
  exact List.mem_map_of_mem ha

/-- What is assigned in a longer request is assigned alone. -/
theorem assign_single (h : assign c requested = .ok assignments) {a : Assignment}
    (ha : a ∈ assignments) : assign c [a.feature] = .ok [a] := by
  obtain ⟨index, hindex, -, hdetectors⟩ := assign_eq_ok_iff.1 h
  refine assign_eq_ok_iff.2 ⟨index, hindex, rfl, ?_⟩
  intro a' ha'
  obtain rfl := List.mem_singleton.1 ha'
  exact hdetectors a' ha

/-- What cannot be assigned has a feature that cannot be assigned alone. -/
theorem exists_unassigned {e : SurveyError} (h : assign c requested = .error e)
    (nonempty : requested ≠ []) : ∃ f ∈ requested, ∃ e', assign c [f] = .error e' := by
  cases hindex : FeatureIndex.ofConfig c with
  | error e' =>
    obtain ⟨f, hf⟩ := List.exists_mem_of_ne_nil requested nonempty
    exact ⟨f, hf, e', assign_of_noIndex hindex [f]⟩
  | ok index =>
    have hcases := assign_cases hindex requested
    rw [h] at hcases
    obtain ⟨f, hfind, -⟩ := hcases
    refine ⟨f, List.mem_of_find?_eq_some hfind, ?_⟩
    cases hsingle : assign c [f] with
    | error e' => exact ⟨e', rfl⟩
    | ok assignments =>
      -- nobody claims it, so no detector answers it
      have hnone : (c.claimants f).isEmpty = true := by simpa using List.find?_some hfind
      have hcases' := assign_cases hindex [f]
      rw [hsingle] at hcases'
      obtain ⟨hfeatures, hdetectors⟩ := hcases'
      have hmem : f ∈ assignments.map (·.feature) := by
        rw [hfeatures]
        exact List.mem_eraseDups.2 List.mem_cons_self
      obtain ⟨a, ha, rfl⟩ := List.mem_map.1 hmem
      rcases detectorFor_cases hindex a.feature with ⟨-, herror⟩ | ⟨last, d, hlast, -, -⟩
      · cases (hdetectors a ha).symm.trans herror
      · rw [List.isEmpty_iff.1 hnone] at hlast
        cases hlast

/-- The detector of an assignment is the one that its name leads to. -/
theorem detector?_of_assign (h : assign c requested = .ok assignments) {a : Assignment}
    (ha : a ∈ assignments) : c.detector? a.detector.name = some a.detector := by
  obtain ⟨index, hindex, -, hdetectors⟩ := assign_eq_ok_iff.1 h
  rcases detectorFor_cases hindex a.feature with ⟨-, herror⟩ | ⟨last, d, -, hd, hok⟩
  · rw [hdetectors a ha] at herror
    cases herror
  · rw [hdetectors a ha] at hok
    obtain rfl := Except.ok.inj hok
    rw [(Config.detector?_eq_some hd).2, hd]

theorem detector_eq_of_name (h : assign c requested = .ok assignments) {a a' : Assignment}
    (ha : a ∈ assignments) (ha' : a' ∈ assignments) (hname : a.detector.name = a'.detector.name) :
    a.detector = a'.detector := by
  have hd := detector?_of_assign h ha
  rw [hname, detector?_of_assign h ha'] at hd
  exact (Option.some.inj hd).symm

/-- Whatever goes wrong is one of two things, and no fault of the index. -/
theorem assign_eq_error {e : SurveyError} (h : assign c requested = .error e) :
    (∃ feature first second, e = .claimedTwice feature first second) ∨
      ∃ feature, e = .noProducer feature := by
  cases hindex : FeatureIndex.ofConfig c with
  | error e' =>
    rw [assign_of_noIndex hindex] at h
    obtain rfl := Except.error.inj h
    obtain ⟨-, feature, first, second, -, heq⟩ := FeatureIndex.ofConfig_eq_error_iff.1 hindex
    exact .inl ⟨feature, first, second, heq⟩
  | ok index =>
    have hcases := assign_cases hindex requested
    rw [h] at hcases
    obtain ⟨feature, -, heq⟩ := hcases
    exact .inr ⟨feature, heq⟩

theorem isConfiguration_of_assign {e : SurveyError} (h : assign c requested = .error e) :
    e.isConfiguration = true := by
  rcases assign_eq_error h with ⟨_, _, _, rfl⟩ | ⟨_, rfl⟩ <;> rfl

/-! ## The detectors of a request -/

/-- Where a name stands for one detector, keeping the first of each name is dropping repeats. -/
theorem distinctDetectors_eq {detectors : List DetectorSpec} (seen : List String)
    (hname : ∀ d ∈ detectors, ∀ d' ∈ detectors, d.name = d'.name → d = d') :
    distinctDetectors seen detectors =
      (detectors.filter fun d => !seen.contains d.name).eraseDups := by
  induction detectors generalizing seen with
  | nil => rfl
  | cons d rest ih =>
    have hrest (seen : List String) := ih seen fun d hd d' hd' =>
      hname d (List.mem_cons_of_mem _ hd) d' (List.mem_cons_of_mem _ hd')
    rw [distinctDetectors]
    by_cases hseen : seen.contains d.name
    · rw [if_pos hseen, hrest, List.filter_cons_of_neg (by rw [hseen]; decide)]
    · rw [if_neg hseen, hrest, List.filter_cons_of_pos (by simpa using hseen),
        List.eraseDups_cons, List.filter_filter]
      -- among the rest, bearing the name of `d` is being `d`
      have hsame : (rest.filter fun other => !(d.name :: seen).contains other.name) =
          rest.filter fun other => (!other == d) && !seen.contains other.name := by
        refine List.filter_congr fun other hother => ?_
        rw [List.contains_cons, Bool.not_or]
        congr 2
        rw [Bool.eq_iff_iff, beq_iff_eq, beq_iff_eq]
        exact ⟨hname other (List.mem_cons_of_mem _ hother) d List.mem_cons_self,
          fun h => h ▸ rfl⟩
      rw [hsame]

theorem resolve_eq_ok (h : assign c requested = .ok assignments) :
    resolve c requested = .ok (assignments.map (·.detector)).eraseDups := by
  have hname : ∀ d ∈ assignments.map (·.detector), ∀ d' ∈ assignments.map (·.detector),
      d.name = d'.name → d = d' := by
    intro d hd d' hd' hsame
    obtain ⟨a, ha, rfl⟩ := List.mem_map.1 hd
    obtain ⟨a', ha', rfl⟩ := List.mem_map.1 hd'
    have hfound := detector?_of_assign h ha
    rw [hsame, detector?_of_assign h ha'] at hfound
    exact (Option.some.inj hfound).symm
  have hdistinct := distinctDetectors_eq [] hname
  simp only [List.contains_nil, Bool.not_false, List.filter_true] at hdistinct
  rw [resolve, h, Except.map, hdistinct]

theorem resolve_eq_error_iff {e : SurveyError} :
    resolve c requested = .error e ↔ assign c requested = .error e := by
  rw [resolve]
  cases assign c requested <;> simp [Except.map]

/-! ## By claimants alone -/

/-- What resolving a request comes to. -/
structure Resolution (c : Config) (requested : List String) : Prop where
  /-- There is no index just when a disputed feature may not be taken over. -/
  index_fails : (∃ e, FeatureIndex.ofConfig c = .error e) ↔ c.allowDuplicateClaims = false ∧
    ∃ feature, ∃ d ∈ c.claimants feature, ∃ d' ∈ c.claimants feature, d.name ≠ d'.name
  /-- The error tells the first dispute in the order of declaration. -/
  index_error : ∀ e, FeatureIndex.ofConfig c = .error e ↔ c.allowDuplicateClaims = false ∧
    ∃ feature first second, FirstDispute c.claims feature first second ∧
      e = .claimedTwice feature first second
  /-- It is the answer to every request. -/
  error_stands : ∀ e, FeatureIndex.ofConfig c = .error e →
    assign c requested = .error e ∧ resolve c requested = .error e
  /-- The last claimant of a feature is its producer. -/
  producer : ∀ index, FeatureIndex.ofConfig c = .ok index → ∀ feature,
    index.producer? feature = (c.claimants feature).getLast?.map (·.name)
  /-- Where nothing may be taken over, it is the only claimant. -/
  only : ∀ index, FeatureIndex.ofConfig c = .ok index → c.allowDuplicateClaims = false →
    ∀ feature, (c.claimants feature).length ≤ 1
  /-- The first requested feature without a claimant is the error, and without such a feature each
  one is assigned once, in the order of the request, to its last claimant. -/
  assigned : ∀ index, FeatureIndex.ofConfig c = .ok index →
    assign c requested =
      match requested.find? fun feature => (c.claimants feature).isEmpty with
      | some feature => .error (.noProducer feature)
      | none => .ok (requested.eraseDups.filterMap fun feature =>
          (c.claimants feature).getLast?.map (Assignment.mk feature))
  /-- No distinct feature is lost on the way, and each goes to a detector that lists it. -/
  paired : ∀ assignments, assign c requested = .ok assignments →
    assignments.map (·.feature) = requested.eraseDups ∧
      ∀ a ∈ assignments, a.detector ∈ c.detectors ∧ a.feature ∈ a.detector.features
  /-- The detectors of a request are those of its assignments, each once and none without need. -/
  needed : ∀ assignments, assign c requested = .ok assignments →
    ∃ detectors, resolve c requested = .ok detectors ∧
      detectors = (assignments.map (·.detector)).eraseDups ∧ detectors.Nodup ∧
      ∀ d ∈ detectors, ∃ feature ∈ requested, (c.claimants feature).getLast? = some d
  /-- Without assignments there are none. -/
  unassigned : ∀ e, assign c requested = .error e → resolve c requested = .error e

theorem claimants_length_le (distinct : (c.detectors.map (·.name)).Nodup)
    (h : FeatureIndex.ofConfig c = .ok index) (off : c.allowDuplicateClaims = false)
    (feature : String) : (c.claimants feature).length ≤ 1 := by
  have hnodup : (c.claimants feature).Nodup := (List.Nodup.of_map _ distinct).filter _
  refine Nat.le_of_not_lt fun hlt => ?_
  obtain ⟨d, d', rest, hclaimants⟩ : ∃ d d' rest, c.claimants feature = d :: d' :: rest := by
    match hc : c.claimants feature with
    | [] | [_] => simp [hc] at hlt
    | d :: d' :: rest => exact ⟨d, d', rest, rfl⟩
  have hd : d ∈ c.claimants feature := by simp [hclaimants]
  have hd' : d' ∈ c.claimants feature := by simp [hclaimants]
  have hne : d ≠ d' := by
    rw [hclaimants] at hnodup
    exact fun heq => (List.nodup_cons.1 hnodup).1 (heq ▸ List.mem_cons_self)
  have hnames : d.name ≠ d'.name := fun hname => hne (List.inj_on_of_nodup_map distinct
    (Config.mem_claimants.1 hd).1 (Config.mem_claimants.1 hd').1 hname)
  obtain ⟨f, first, second, hdispute⟩ :=
    exists_firstDispute_iff.2 ⟨feature, d, hd, d', hd', hnames⟩
  have herror := FeatureIndex.ofConfig_eq_error_iff.2 ⟨off, f, first, second, hdispute, rfl⟩
  rw [h] at herror
  cases herror

theorem assign_eq (distinct : (c.detectors.map (·.name)).Nodup)
    (h : FeatureIndex.ofConfig c = .ok index) (requested : List String) :
    assign c requested =
      match requested.find? fun feature => (c.claimants feature).isEmpty with
      | some feature => .error (.noProducer feature)
      | none => .ok (requested.eraseDups.filterMap fun feature =>
          (c.claimants feature).getLast?.map (Assignment.mk feature)) := by
  have hcases := assign_cases h requested
  cases hassign : assign c requested with
  | error e =>
    rw [hassign] at hcases
    obtain ⟨feature, hfind, rfl⟩ := hcases
    rw [hfind]
  | ok assignments =>
    rw [hassign] at hcases
    obtain ⟨hfeatures, hdetectors⟩ := hcases
    have hlast (a : Assignment) (ha : a ∈ assignments) :=
      detectorFor_eq_last distinct h (hdetectors a ha)
    have hfind : (requested.find? fun feature => (c.claimants feature).isEmpty) = none := by
      refine List.find?_eq_none.2 fun feature hfeature hempty => ?_
      rw [← List.mem_eraseDups, ← hfeatures] at hfeature
      obtain ⟨a, ha, rfl⟩ := List.mem_map.1 hfeature
      have hsome := hlast a ha
      rw [List.isEmpty_iff.1 hempty] at hsome
      cases hsome
    rw [hfind, ← hfeatures, List.filterMap_map]
    have heach : ∀ a ∈ assignments,
        ((fun feature => (c.claimants feature).getLast?.map (Assignment.mk feature)) ∘
          fun a : Assignment => a.feature) a = some a := by
      intro a ha
      simp only [Function.comp_apply, hlast a ha, Option.map_some]
    rw [List.filterMap_congr heach, List.filterMap_some]

/-- **A request resolves by claimants alone.**

If the names of the detectors are told apart, `Resolution` says what becomes of every request. And
whatever the names, the index never leads to a detector that is not there. -/
theorem resolution (c : Config) (requested : List String) :
    ((c.detectors.map (·.name)).Nodup → Resolution c requested) ∧
      ∀ name, assign c requested ≠ .error (.config (.unindexedDetector name)) ∧
        resolve c requested ≠ .error (.config (.unindexedDetector name)) := by
  have hindexed (name : String) :
      assign c requested ≠ .error (.config (.unindexedDetector name)) := by
    intro herror
    rcases assign_eq_error herror with ⟨_, _, _, heq⟩ | ⟨_, heq⟩ <;> cases heq
  refine ⟨fun distinct => ?_, fun name => ⟨hindexed name, fun herror =>
    hindexed name (resolve_eq_error_iff.1 herror)⟩⟩
  have hlast {assignments : List Assignment} (h : assign c requested = .ok assignments)
      {a : Assignment} (ha : a ∈ assignments) :
      (c.claimants a.feature).getLast? = some a.detector := by
    obtain ⟨index, hindex, -, hdetectors⟩ := assign_eq_ok_iff.1 h
    exact detectorFor_eq_last distinct hindex (hdetectors a ha)
  exact {
    index_fails := by
      constructor
      · rintro ⟨e, he⟩
        obtain ⟨off, feature, first, second, hdispute, -⟩ :=
          FeatureIndex.ofConfig_eq_error_iff.1 he
        exact ⟨off, exists_firstDispute_iff.1 ⟨feature, first, second, hdispute⟩⟩
      · rintro ⟨off, hdisputed⟩
        obtain ⟨feature, first, second, hdispute⟩ := exists_firstDispute_iff.2 hdisputed
        exact ⟨_, FeatureIndex.ofConfig_eq_error_iff.2
          ⟨off, feature, first, second, hdispute, rfl⟩⟩
    index_error := fun _ => FeatureIndex.ofConfig_eq_error_iff
    error_stands := fun e he =>
      ⟨assign_of_noIndex he requested, resolve_eq_error_iff.2 (assign_of_noIndex he requested)⟩
    producer := fun _ h => FeatureIndex.producer?_eq h
    only := fun _ h off => claimants_length_le distinct h off
    assigned := fun _ h => assign_eq distinct h requested
    paired := by
      intro assignments h
      obtain ⟨-, -, hfeatures, -⟩ := assign_eq_ok_iff.1 h
      exact ⟨hfeatures, fun a ha => Config.mem_claimants.1 (List.mem_of_getLast? (hlast h ha))⟩
    needed := by
      intro assignments h
      refine ⟨_, resolve_eq_ok h, rfl, nodup_eraseDups _, fun d hd => ?_⟩
      obtain ⟨a, ha, rfl⟩ := List.mem_map.1 (List.mem_eraseDups.1 hd)
      exact ⟨a.feature, feature_mem_of_assign h ha, hlast h ha⟩
    unassigned := fun _ h => resolve_eq_error_iff.2 h }

/-- Casts that a second detector takes over, and flags that only the first one looks at. -/
def takenOver : Config where
  detectors := [
    { name := "flags", kind := Kind.rulesFlag, features := ["hardened", "casts", "hardened"] },
    { name := "casts", kind := Kind.namedCast, features := ["casts"] }]
  allowDuplicateClaims := true

theorem resolution_takenOver :
    (takenOver.detectors.map (·.name)).Nodup ∧
      Resolution takenOver ["casts", "hardened", "casts"] ∧
      resolve takenOver ["casts", "hardened", "casts"] = .ok takenOver.detectors.reverse :=
  have distinct : (takenOver.detectors.map (·.name)).Nodup := by decide
  ⟨distinct, (resolution takenOver ["casts", "hardened", "casts"]).1 distinct, rfl⟩

end Resolver

end FeatureSurvey
