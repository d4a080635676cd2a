import FeatureSurvey.Resolver.Assign

/-!
# `Proofs/Resolver/Claims.lean` — the index, read off the declarations

The index of producers is made by going through all claims in order, with an index that is written
over as it goes. What comes out can be said without going through anything: **the producer of a
feature is the last detector that claims it** (`FeatureIndex.producer?_eq`), and there is an index
unless some feature is disputed and nobody may take it over (`FeatureIndex.ofConfig_eq_error_iff`).

Both are proved of claims as they come. An index `Reads` the claims taken in so far when it gives
each feature its last claimant; one more claim keeps that up (`Reads.claim`), and so do all of them.
A claim is refused when it is the first one to dispute a feature; `FirstDispute` says which one that
is, and there can be only one.
-/

set_option autoImplicit false

namespace FeatureSurvey

/-- The detectors that claim a feature, in the order of declaration. -/
def Config.claimants (c : Config) (feature : String) : List DetectorSpec :=
  c.detectors.filter fun d => d.features.contains feature

theorem Config.mem_claimants {c : Config} {feature : String} {d : DetectorSpec} :
    d ∈ c.claimants feature ↔ d ∈ c.detectors ∧ feature ∈ d.features := by
  simp [claimants]

/-! ## Claims as they come -/

/-- The names under which a feature is claimed, in order. -/
def claimedBy (claims : List (String × String)) (feature : String) : List String :=
  (claims.filter fun claim => claim.2 == feature).map (·.1)

/-- No feature is claimed under two names. -/
def Undisputed (claims : List (String × String)) : Prop :=
  ∀ feature, ∀ a ∈ claimedBy claims feature, ∀ b ∈ claimedBy claims feature, a = b

/-- The first claim that disputes a feature is the one by `second`, and `first` claimed it before
anybody else. -/
def FirstDispute (claims : List (String × String)) (feature first second : String) : Prop :=
  ∃ before behind, claims = before ++ (second, feature) :: behind ∧ Undisputed before ∧
    (claimedBy before feature).head? = some first ∧ first ≠ second

section Claims

variable {claims done before behind : List (String × String)} {name feature first second : String}

theorem mem_claimedBy : name ∈ claimedBy claims feature ↔ (name, feature) ∈ claims := by
  simp [claimedBy]

theorem claimedBy_append (claims more : List (String × String)) (feature : String) :
    claimedBy (claims ++ more) feature = claimedBy claims feature ++ claimedBy more feature := by
  simp [claimedBy]

theorem claimedBy_single (name other feature : String) :
    claimedBy [(name, other)] feature = if other = feature then [name] else [] := by
  by_cases h : other = feature <;> simp [claimedBy, h]

theorem Undisputed.nil : Undisputed [] := by
  intro feature a ha
  cases ha

/-- One more claim, by the only one so far or on a feature nobody has claimed. -/
theorem Undisputed.concat (h : Undisputed claims)
    (hsame : ∀ other ∈ claimedBy claims feature, other = name) :
    Undisputed (claims ++ [(name, feature)]) := by
  have hname (f a : String) (ha : a ∈ claimedBy (claims ++ [(name, feature)]) f) :
      a ∈ claimedBy claims f ∨ (f = feature ∧ a = name) := by
    rw [claimedBy_append, claimedBy_single] at ha
    rcases List.mem_append.1 ha with ha | ha
    · exact .inl ha
    · split at ha
      · rename_i heq
        exact .inr ⟨heq.symm, List.mem_singleton.1 ha⟩
      · cases ha
  intro f a ha b hb
  rcases hname f a ha with holda | ⟨hf, hnewa⟩ <;> rcases hname f b hb with holdb | ⟨hf', hnewb⟩
  · exact h f a holda b holdb
  · subst hf' hnewb
    exact hsame a holda
  · subst hf hnewa
    exact (hsame b holdb).symm
  · exact hnewa.trans hnewb.symm

/-- As long as nothing is disputed, the first claimant of a feature is also the last one. -/
theorem Undisputed.head?_eq_getLast? (h : Undisputed claims) (feature : String) :
    (claimedBy claims feature).head? = (claimedBy claims feature).getLast? := by
  rcases hclaimed : claimedBy claims feature with _ | ⟨a, rest⟩
  · rfl
  · have hall := h feature
    rw [hclaimed] at hall
    have hlast : (a :: rest).getLast (by simp) = a :=
      hall _ (List.getLast_mem _) a List.mem_cons_self
    rw [List.getLast?_eq_some_getLast (by simp), hlast, List.head?_cons]

theorem FirstDispute.not_undisputed (h : FirstDispute claims feature first second) :
    ¬ Undisputed claims := by
  obtain ⟨before, behind, rfl, -, hfirst, hne⟩ := h
  intro hall
  have hbefore : first ∈ claimedBy before feature := List.mem_of_head? hfirst
  refine hne (hall feature first ?_ second ?_)
  · rw [claimedBy_append]
    exact List.mem_append_left _ hbefore
  · exact mem_claimedBy.2 (by simp)

/-- A dispute that is the first one stands nowhere but at its place. -/
theorem FirstDispute.unique {feature' first' second' : String}
    (h : FirstDispute claims feature first second)
    (h' : FirstDispute claims feature' first' second') :
    feature = feature' ∧ first = first' ∧ second = second' := by
  -- of two places the earlier one would lie in the undisputed part before the later one
  have hearlier {xs ys : List (String × String)} {f a b : String} (hys : Undisputed ys)
      (hhead : (claimedBy ys f).head? = some a) (hne : a ≠ b)
      (hxs : Undisputed (ys ++ (b, f) :: xs)) : False :=
    FirstDispute.not_undisputed ⟨ys, xs, rfl, hys, hhead, hne⟩ hxs
  obtain ⟨before, behind, hsplit, hbefore, hhead, hne⟩ := h
  obtain ⟨before', behind', hsplit', hbefore', hhead', hne'⟩ := h'
  rcases List.append_eq_append_iff.1 (hsplit.symm.trans hsplit') with
    ⟨mid, rfl, hmid⟩ | ⟨mid, rfl, hmid⟩
  · cases mid with
    | nil =>
      obtain ⟨⟨rfl, rfl⟩, -⟩ := List.cons.inj hmid |>.imp_left Prod.mk.inj
      rw [List.append_nil, hhead] at hhead'
      exact ⟨rfl, Option.some.inj hhead', rfl⟩
    | cons claim mid =>
      obtain ⟨rfl, -⟩ := List.cons.inj hmid
      exact (hearlier hbefore hhead hne hbefore').elim
  · cases mid with
    | nil =>
      obtain ⟨⟨rfl, rfl⟩, -⟩ := List.cons.inj hmid |>.imp_left Prod.mk.inj
      rw [List.append_nil, hhead'] at hhead
      exact ⟨rfl, (Option.some.inj hhead).symm, rfl⟩
    | cons claim mid =>
      obtain ⟨rfl, -⟩ := List.cons.inj hmid
      exact (hearlier hbefore' hhead' hne' hbefore).elim

end Claims

/-! ## The index, claim by claim -/

namespace FeatureIndex

/-- Each feature has the producer that claimed it last. -/
def Reads (index : FeatureIndex) (claims : List (String × String)) : Prop :=
  ∀ feature, index.producer? feature = (claimedBy claims feature).getLast?

variable {index index' : FeatureIndex} {claims done : List (String × String)}
  {mayTakeOver : Bool} {name feature : String} {e : SurveyError}

theorem Reads.empty : FeatureIndex.empty.Reads [] := fun _ => rfl

/-- A claim written into the index. -/
theorem Reads.insert (h : index.Reads done) (name feature : String) :
    Reads ⟨index.producers.insert feature name⟩ (done ++ [(name, feature)]) := by
  intro other
  rw [producer?, Table.get?_insert, claimedBy_append, claimedBy_single]
  by_cases hother : other = feature
  · rw [if_pos hother, if_pos hother.symm, List.getLast?_concat]
  · rw [if_neg hother, if_neg (Ne.symm hother), List.append_nil]
    exact h other

/-- A claim that the index knows already. -/
theorem Reads.again (h : index.Reads done) (hclaimed : index.producer? feature = some name) :
    index.Reads (done ++ [(name, feature)]) := by
  intro other
  rw [claimedBy_append, claimedBy_single]
  by_cases hother : other = feature
  · rw [if_pos hother.symm, List.getLast?_concat, hother, hclaimed]
  · rw [if_neg (Ne.symm hother), List.append_nil]
    exact h other

theorem Reads.claim (h : index.Reads done)
    (hclaim : claim mayTakeOver index name feature = .ok index') :
    index'.Reads (done ++ [(name, feature)]) := by
  unfold FeatureIndex.claim at hclaim
  cases hproducer : index.producer? feature with
  | none =>
    rw [hproducer] at hclaim
    cases hclaim
    exact h.insert name feature
  | some first =>
    simp only [hproducer] at hclaim
    split at hclaim
    · rename_i heq
      cases hclaim
      exact h.again (heq ▸ hproducer)
    · split at hclaim
      · cases hclaim
        exact h.insert name feature
      · cases hclaim

theorem Reads.claimAll (h : index.Reads done)
    (hclaims : claimAll mayTakeOver index claims = .ok index') : index'.Reads (done ++ claims) := by
  induction claims generalizing index done with
  | nil =>
    cases hclaims
    rw [List.append_nil]
    exact h
  | cons first rest ih =>
    obtain ⟨name, feature⟩ := first
    rw [FeatureIndex.claimAll] at hclaims
    cases hclaim : FeatureIndex.claim mayTakeOver index name feature with
    | error e =>
      rw [hclaim] at hclaims
      cases hclaims
    | ok next =>
      rw [hclaim] at hclaims
      rw [List.append_cons]
      exact ih (h.claim hclaim) hclaims

/-! ## Refused claims -/

/-- A claim is refused if another detector is the producer and may not be replaced. -/
theorem claim_eq_error_iff :
    claim mayTakeOver index name feature = .error e ↔
      mayTakeOver = false ∧ ∃ first, index.producer? feature = some first ∧ first ≠ name ∧
        e = .claimedTwice feature first name := by
  unfold claim
  cases index.producer? feature with
  | none => simp
  | some first =>
    by_cases hsame : first = name
    · simp [hsame]
    · cases mayTakeOver with
      | true => simp [hsame]
      | false => simp only [hsame, if_false, Bool.false_eq_true, Except.error.injEq, true_and,
          Option.some.injEq, exists_eq_left', ne_eq, not_false_eq_true, eq_comm (a := e)]

/-- A claim that is taken in, though nobody may take over, disputes nothing. -/
theorem Reads.undisputed_claim (h : index.Reads done) (hdone : Undisputed done)
    (hclaim : FeatureIndex.claim false index name feature = .ok index') :
    Undisputed (done ++ [(name, feature)]) := by
  refine hdone.concat fun other hother => Decidable.byContradiction fun hne => ?_
  have hproducer : index.producer? feature = some other := by
    rw [h feature, ← hdone.head?_eq_getLast?]
    rcases hclaimed : claimedBy done feature with _ | ⟨a, rest⟩
    · rw [hclaimed] at hother
      cases hother
    · have ha : a ∈ claimedBy done feature := hclaimed ▸ List.mem_cons_self
      rw [List.head?_cons, hdone feature a ha other hother]
  have herror : FeatureIndex.claim false index name feature =
      .error (.claimedTwice feature other name) :=
    claim_eq_error_iff.2 ⟨rfl, other, hproducer, hne, rfl⟩
  rw [hclaim] at herror
  cases herror

/-- Without taking over, all claims are taken in or the first dispute is the error. -/
theorem claimAll_false (h : index.Reads done) (hdone : Undisputed done)
    (claims : List (String × String)) :
    match claimAll false index claims with
    | .ok _ => Undisputed (done ++ claims)
    | .error e => ∃ feature first second,
      FirstDispute (done ++ claims) feature first second ∧
        e = .claimedTwice feature first second := by
  induction claims generalizing index done with
  | nil =>
    rw [claimAll, List.append_nil]
    exact hdone
  | cons first rest ih =>
    obtain ⟨name, feature⟩ := first
    rw [claimAll]
    cases hclaim : claim false index name feature with
    | ok next =>
      have hrest := ih (h.claim hclaim) (h.undisputed_claim hdone hclaim)
      rw [← List.append_cons] at hrest
      exact hrest
    | error e =>
      obtain ⟨-, producer, hproducer, hne, rfl⟩ := claim_eq_error_iff.1 hclaim
      rw [h feature, ← hdone.head?_eq_getLast?] at hproducer
      exact ⟨feature, producer, name, ⟨done, rest, rfl, hdone, hproducer, hne⟩, rfl⟩

theorem claimAll_true (index : FeatureIndex) (claims : List (String × String)) :
    ∃ index', claimAll true index claims = .ok index' := by
  induction claims generalizing index with
  | nil => exact ⟨index, rfl⟩
  | cons first rest ih =>
    obtain ⟨name, feature⟩ := first
    rw [claimAll]
    cases hclaim : claim true index name feature with
    | ok next => exact ih next
    | error e => cases (claim_eq_error_iff.1 hclaim).1

end FeatureIndex

/-! ## The index of a configuration -/

section Config

variable {c : Config} {index : FeatureIndex} {feature first second : String}

theorem mem_claimedBy_claims {name : String} :
    name ∈ claimedBy c.claims feature ↔ ∃ d ∈ c.claimants feature, d.name = name := by
  rw [mem_claimedBy, Config.claims, List.mem_flatMap]
  constructor
  · rintro ⟨d, hd, hclaim⟩
    obtain ⟨f, hf, heq⟩ := List.mem_map.1 hclaim
    obtain ⟨rfl, rfl⟩ := Prod.mk.inj heq
    exact ⟨d, Config.mem_claimants.2 ⟨hd, hf⟩, rfl⟩
  · rintro ⟨d, hd, rfl⟩
    obtain ⟨hd, hf⟩ := Config.mem_claimants.1 hd
    exact ⟨d, hd, List.mem_map.2 ⟨feature, hf, rfl⟩⟩

/-- A detector that lists a feature several times still claims it under one name. -/
theorem getLast?_claimedBy_claims (c : Config) (feature : String) :
    (claimedBy c.claims feature).getLast? = (c.claimants feature).getLast?.map (·.name) := by
  have hone (d : DetectorSpec) : (claimedBy (d.features.map (d.name, ·)) feature).getLast? =
      if d.features.contains feature then some d.name else none := by
    have hreplicate : claimedBy (d.features.map (d.name, ·)) feature =
        List.replicate (d.features.count feature) d.name := by
      rw [List.eq_replicate_iff]
      refine ⟨?_, fun name hname => ?_⟩
      · simp [claimedBy, List.filter_map, Function.comp_def, List.count,
          List.countP_eq_length_filter]
      · obtain ⟨f, -, heq⟩ := List.mem_map.1 (mem_claimedBy.1 hname)
        exact (Prod.mk.inj heq).1.symm
    rw [hreplicate, List.getLast?_replicate]
    by_cases hmem : feature ∈ d.features
    · rw [if_neg (Nat.pos_iff_ne_zero.1 (List.count_pos_iff.2 hmem)), if_pos (by simpa using hmem)]
    · rw [if_pos (List.count_eq_zero.2 hmem), if_neg (by simpa using hmem)]
  unfold Config.claims Config.claimants
  induction c.detectors with
  | nil => rfl
  | cons d rest ih =>
    rw [List.flatMap_cons, claimedBy_append, List.getLast?_append, ih, hone, List.filter_cons]
    split
    · rw [List.getLast?_cons]
      cases (rest.filter fun d => d.features.contains feature).getLast? <;> rfl
    · cases (rest.filter fun d => d.features.contains feature).getLast? <;> rfl

/-- The producer of a feature is the last detector that claims it. -/
theorem FeatureIndex.producer?_eq (h : FeatureIndex.ofConfig c = .ok index) (feature : String) :
    index.producer? feature = (c.claimants feature).getLast?.map (·.name) := by
  have hreads : index.Reads c.claims := Reads.empty.claimAll h
  rw [hreads feature, getLast?_claimedBy_claims]

/-- There is no index just when a feature is disputed that nobody may take over, and the error is
the first dispute. -/
theorem FeatureIndex.ofConfig_eq_error_iff {e : SurveyError} :
    FeatureIndex.ofConfig c = .error e ↔ c.allowDuplicateClaims = false ∧
      ∃ feature first second, FirstDispute c.claims feature first second ∧
        e = .claimedTwice feature first second := by
  unfold FeatureIndex.ofConfig
  cases c.allowDuplicateClaims with
  | true =>
    obtain ⟨index, hindex⟩ := claimAll_true empty c.claims
    simp [hindex]
  | false =>
    have hall := claimAll_false Reads.empty Undisputed.nil c.claims
    rw [List.nil_append] at hall
    cases hindex : claimAll false empty c.claims with
    | ok index =>
      simp only [hindex] at hall
      simp only [reduceCtorEq, false_iff, not_and]
      rintro - ⟨feature, first, second, hdispute, -⟩
      exact hdispute.not_undisputed hall
    | error e' =>
      simp only [hindex] at hall
      obtain ⟨feature, first, second, hdispute, rfl⟩ := hall
      simp only [Except.error.injEq, true_and]
      constructor
      · rintro rfl
        exact ⟨feature, first, second, hdispute, rfl⟩
      · rintro ⟨feature', first', second', hdispute', rfl⟩
        obtain ⟨rfl, rfl, rfl⟩ := hdispute.unique hdispute'
        rfl

/-- A feature is disputed somewhere just when detectors of two names claim one. -/
theorem exists_firstDispute_iff :
    (∃ feature first second, FirstDispute c.claims feature first second) ↔
      ∃ feature, ∃ d ∈ c.claimants feature, ∃ d' ∈ c.claimants feature, d.name ≠ d'.name := by
  have hall := FeatureIndex.claimAll_false FeatureIndex.Reads.empty Undisputed.nil c.claims
  rw [List.nil_append] at hall
  constructor
  · rintro ⟨feature, first, second, hdispute⟩
    obtain ⟨before, behind, hsplit, -, hfirst, hne⟩ := hdispute
    have hfirst' : first ∈ claimedBy c.claims feature := by
      rw [hsplit, claimedBy_append]
      exact List.mem_append_left _ (List.mem_of_head? hfirst)
    have hsecond : second ∈ claimedBy c.claims feature := mem_claimedBy.2 (by simp [hsplit])
    obtain ⟨d, hd, rfl⟩ := mem_claimedBy_claims.1 hfirst'
    obtain ⟨d', hd', rfl⟩ := mem_claimedBy_claims.1 hsecond
    exact ⟨feature, d, hd, d', hd', hne⟩
  · rintro ⟨feature, d, hd, d', hd', hne⟩
    cases hindex : FeatureIndex.claimAll false .empty c.claims with
    | ok index =>
      simp only [hindex] at hall
      exact (hne (hall feature d.name (mem_claimedBy_claims.2 ⟨d, hd, rfl⟩) d'.name
        (mem_claimedBy_claims.2 ⟨d', hd', rfl⟩))).elim
    | error e =>
      simp only [hindex] at hall
      obtain ⟨feature, first, second, hdispute, -⟩ := hall
      exact ⟨feature, first, second, hdispute⟩

end Config

end FeatureSurvey
