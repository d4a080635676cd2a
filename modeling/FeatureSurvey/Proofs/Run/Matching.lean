import FeatureSurvey.Host.Job

/-!
# `Proofs/Run/Matching.lean` — two jobs side by side

Statements about two runs are proved by going through both at once. Two jobs *match* when, started
in related states, they end alike: both succeed with related results or both fail with related
errors, and the states they leave are related again. What relates states, errors and results differs
from one statement to the next, so all three are parameters; the rules follow the way jobs are put
together, whatever the three are.
-/

set_option autoImplicit false

namespace FeatureSurvey

/-- Both outcomes are successes, or both are failures, and they are related. -/
inductive OutcomesMatch {ε ε' α β : Type} (E : ε → ε' → Prop) (R : α → β → Prop) :
    Except ε α → Except ε' β → Prop
  | ok {a : α} {b : β} (h : R a b) : OutcomesMatch E R (.ok a) (.ok b)
  | error {e : ε} {e' : ε'} (h : E e e') : OutcomesMatch E R (.error e) (.error e')

theorem OutcomesMatch.eq {ε α : Type} {r r' : Except ε α} (h : OutcomesMatch Eq Eq r r') :
    r = r' := by
  cases h with
  | ok h => rw [h]
  | error h => rw [h]

theorem OutcomesMatch.of_eq {ε α : Type} {r r' : Except ε α} (h : r = r') :
    OutcomesMatch Eq Eq r r' := by
  subst h
  cases r with
  | ok a => exact .ok rfl
  | error e => exact .error rfl

theorem OutcomesMatch.of_map {ε α β : Type} {R : β → α → Prop} {f : α → β} {r : Except ε α}
    (h : ∀ a, R (f a) a) : OutcomesMatch Eq R (r.map f) r := by
  cases r with
  | ok a => exact .ok (h a)
  | error e => exact .error rfl

theorem OutcomesMatch.map {ε ε' α β α' β' : Type} {E : ε → ε' → Prop} {R : α → β → Prop}
    {R' : α' → β' → Prop} {r : Except ε α} {r' : Except ε' β} {f : α → α'} {g : β → β'}
    (h : OutcomesMatch E R r r') (hR : ∀ a b, R a b → R' (f a) (g b)) :
    OutcomesMatch E R' (r.map f) (r'.map g) := by
  cases h with
  | ok h => exact .ok (hR _ _ h)
  | error h => exact .error h

theorem OutcomesMatch.mono {ε ε' α β : Type} {E : ε → ε' → Prop} {R R' : α → β → Prop}
    {r : Except ε α} {r' : Except ε' β} (h : OutcomesMatch E R r r') (hR : ∀ a b, R a b → R' a b) :
    OutcomesMatch E R' r r' := by
  cases h with
  | ok h => exact .ok (hR _ _ h)
  | error h => exact .error h

theorem OutcomesMatch.mapError {ε ε' η η' α β : Type} {E : ε → ε' → Prop} {E' : η → η' → Prop}
    {R : α → β → Prop} {r : Except ε α} {r' : Except ε' β} {f : ε → η} {g : ε' → η'}
    (h : OutcomesMatch E R r r') (hE : ∀ e e', E e e' → E' (f e) (g e')) :
    OutcomesMatch E' R (r.mapError f) (r'.mapError g) := by
  cases h with
  | ok h => exact .ok h
  | error h => exact .error (hE _ _ h)

/-- Errors are not told apart, but neither is fatal. -/
abbrev NeitherFatal {ε ε' : Type} [HasFatal ε] [HasFatal ε'] (e : ε) (e' : ε') : Prop :=
  isFatal e = false ∧ isFatal e' = false

theorem OutcomesMatch.toOption {ε ε' α : Type} {E : ε → ε' → Prop} {r : Except ε α}
    {r' : Except ε' α} (h : OutcomesMatch E Eq r r') : r.toOption = r'.toOption := by
  cases h with
  | ok h => rw [h]; rfl
  | error h => rfl

theorem OutcomesMatch.of_toOption {ε ε' α : Type} [HasFatal ε] [HasFatal ε'] {r : Except ε α}
    {r' : Except ε' α} (h : r.toOption = r'.toOption) (hr : ∀ e, r = .error e → isFatal e = false)
    (hr' : ∀ e, r' = .error e → isFatal e = false) : OutcomesMatch NeitherFatal Eq r r' := by
  cases r with
  | ok a =>
    cases r' with
    | ok b => exact .ok (Option.some.inj h)
    | error e' => cases h
  | error e =>
    cases r' with
    | ok b => cases h
    | error e' => exact .error ⟨hr e rfl, hr' e' rfl⟩

theorem OutcomesMatch.isFatal_eq_false {ε ε' α β : Type} [HasFatal ε] [HasFatal ε']
    {R : α → β → Prop} {r : Except ε α} {r' : Except ε' β} (h : OutcomesMatch NeitherFatal R r r') :
    (∀ e, r = .error e → isFatal e = false) ∧ ∀ e, r' = .error e → isFatal e = false := by
  cases h with
  | ok => exact ⟨nofun, nofun⟩
  | error h =>
    refine ⟨fun e heq => ?_, fun e heq => ?_⟩
    · exact Except.error.inj heq ▸ h.1
    · exact Except.error.inj heq ▸ h.2

/-- Outcomes that can be caught are matching values. -/
theorem OutcomesMatch.unlessFatal {ε ε' α β : Type} [HasFatal ε] [HasFatal ε'] {R : α → β → Prop}
    {r : Except ε α} {r' : Except ε' β} (h : OutcomesMatch NeitherFatal R r r') :
    OutcomesMatch NeitherFatal (OutcomesMatch NeitherFatal R) (Attempt.unlessFatal r)
      (Attempt.unlessFatal r') := by
  cases h with
  | ok h => exact .ok (.ok h)
  | error h =>
    rw [Attempt.unlessFatal, h.1, Attempt.unlessFatal, h.2]
    exact .ok (.error h)

/-- Started in related states, the jobs end alike and leave related states. -/
def Attempt.Matches {ε ε' S T α β : Type} (I : S → T → Prop) (E : ε → ε' → Prop)
    (R : α → β → Prop) (job : Attempt ε S α) (other : Attempt ε' T β) : Prop :=
  ∀ s t, I s t → OutcomesMatch E R (job.exec s).1 (other.exec t).1 ∧
    I (job.exec s).2 (other.exec t).2

/-- The same for steps, which cannot fail. -/
def StepsMatch {S T α β : Type} (I : S → T → Prop) (R : α → β → Prop) (step : StateM S α)
    (other : StateM T β) : Prop :=
  ∀ s t, I s t → R (step s).1 (other t).1 ∧ I (step s).2 (other t).2

/-- Two jobs that end alike go on alike. -/
theorem Attempt.exec_bind_matches {ε ε' S T α β α' β' : Type} {J : S → T → Prop}
    {E : ε → ε' → Prop} {R : α → β → Prop} {R' : α' → β' → Prop} {job : Attempt ε S α}
    {other : Attempt ε' T β} {next : α → Attempt ε S α'} {next' : β → Attempt ε' T β'} {s : S}
    {t : T} (houtcome : OutcomesMatch E R (job.exec s).1 (other.exec t).1)
    (hstate : J (job.exec s).2 (other.exec t).2)
    (hnext : ∀ a b, R a b →
      OutcomesMatch E R' ((next a).exec (job.exec s).2).1 ((next' b).exec (other.exec t).2).1 ∧
        J ((next a).exec (job.exec s).2).2 ((next' b).exec (other.exec t).2).2) :
    OutcomesMatch E R' ((job >>= next).exec s).1 ((other >>= next').exec t).1 ∧
      J ((job >>= next).exec s).2 ((other >>= next').exec t).2 := by
  rw [exec_bind, exec_bind]
  rcases hjob : job.exec s with ⟨r, s'⟩
  rcases hother : other.exec t with ⟨r', t'⟩
  rw [hjob, hother] at houtcome hstate hnext
  cases houtcome with
  | ok hab => exact hnext _ _ hab
  | error he => exact ⟨.error he, hstate⟩

/-- Last jobs that end in nothing fatal have no part in the outcomes. -/
theorem Attempt.exec_endedBy_matches {ε ε' S T α β : Type} [HasFatal ε] [HasFatal ε']
    {J : S → T → Prop} {F : ε → ε' → Prop} {R : α → β → Prop} {Q : Unit → Unit → Prop}
    {job : Attempt ε S α} {other : Attempt ε' T β} {last : Attempt ε S Unit}
    {last' : Attempt ε' T Unit} {s : S} {t : T}
    (houtcome : OutcomesMatch F R (job.exec s).1 (other.exec t).1)
    (hlast : OutcomesMatch NeitherFatal Q (last.exec (job.exec s).2).1
      (last'.exec (other.exec t).2).1)
    (hstate : J (last.exec (job.exec s).2).2 (last'.exec (other.exec t).2).2) :
    OutcomesMatch F R ((job.endedBy last).exec s).1 ((other.endedBy last').exec t).1 ∧
      J ((job.endedBy last).exec s).2 ((other.endedBy last').exec t).2 := by
  obtain ⟨hordinary, hordinary'⟩ := hlast.isFatal_eq_false
  rw [exec_endedBy_fst hordinary, exec_endedBy_fst hordinary', exec_endedBy, exec_endedBy]
  exact ⟨houtcome, hstate⟩

namespace Attempt.Matches

variable {ε ε' S T α β α' β' : Type} {I : S → T → Prop} {E : ε → ε' → Prop} {R : α → β → Prop}
  {job : Attempt ε S α} {other : Attempt ε' T β}

theorem pure {a : α} {b : β} (h : R a b) :
    Attempt.Matches I E R (Pure.pure a : Attempt ε S α) (Pure.pure b : Attempt ε' T β) :=
  fun _ _ hI => ⟨.ok h, hI⟩

theorem fail {e : ε} {e' : ε'} (h : E e e') :
    Attempt.Matches I E R (Attempt.fail e : Attempt ε S α) (Attempt.fail e' : Attempt ε' T β) :=
  fun _ _ hI => ⟨.error h, hI⟩

theorem ofExcept {r : Except ε α} {r' : Except ε' β} (h : OutcomesMatch E R r r') :
    Attempt.Matches I E R (Attempt.ofExcept r : Attempt ε S α)
      (Attempt.ofExcept r' : Attempt ε' T β) :=
  fun _ _ hI => ⟨h, hI⟩

theorem ask {question : S → α} {question' : T → β}
    (h : ∀ s t, I s t → R (question s) (question' t)) :
    Attempt.Matches I E R (Attempt.ask question : Attempt ε S α)
      (Attempt.ask question' : Attempt ε' T β) :=
  fun s t hI => ⟨.ok (h s t hI), hI⟩

theorem always {act : StateM S α} {act' : StateM T β} (h : StepsMatch I R act act') :
    Attempt.Matches I E R (Attempt.always act : Attempt ε S α)
      (Attempt.always act' : Attempt ε' T β) :=
  fun s t hI => ⟨.ok (h s t hI).1, (h s t hI).2⟩

theorem mapFailure {η η' : Type} {F : η → η' → Prop} {f : ε → η} {g : ε' → η'}
    (h : Attempt.Matches I E R job other) (hE : ∀ e e', E e e' → F (f e) (g e')) :
    Attempt.Matches I F R (job.mapFailure f) (other.mapFailure g) :=
  fun s t hI => ⟨(h s t hI).1.mapError hE, (h s t hI).2⟩

theorem bind {R' : α' → β' → Prop} {next : α → Attempt ε S α'} {next' : β → Attempt ε' T β'}
    (h : Attempt.Matches I E R job other)
    (hnext : ∀ a b, R a b → Attempt.Matches I E R' (next a) (next' b)) :
    Attempt.Matches I E R' (job >>= next) (other >>= next') := by
  intro s t hI
  obtain ⟨houtcome, hI'⟩ := h s t hI
  exact exec_bind_matches houtcome hI' fun a b hab => hnext a b hab _ _ hI'

/-- A result is used in the same way. -/
theorem bind_eq {R' : α' → β' → Prop} {job : Attempt ε S α} {other : Attempt ε' T α}
    {next : α → Attempt ε S α'} {next' : α → Attempt ε' T β'} (h : Attempt.Matches I E Eq job other)
    (hnext : ∀ a, Attempt.Matches I E R' (next a) (next' a)) :
    Attempt.Matches I E R' (job >>= next) (other >>= next') := by
  refine h.bind ?_
  rintro a _ rfl
  exact hnext a

section Fatal

variable [HasFatal ε] [HasFatal ε']

theorem ofExcept_self {r : Except ε α} (h : ∀ e, r = .error e → isFatal e = false) :
    Attempt.Matches I NeitherFatal Eq (Attempt.ofExcept r : Attempt ε S α)
      (Attempt.ofExcept r : Attempt ε T α) :=
  .ofExcept (.of_toOption rfl h h)

theorem caught (h : Attempt.Matches I NeitherFatal R job other) :
    Attempt.Matches I NeitherFatal (OutcomesMatch NeitherFatal R) job.caught other.caught :=
  fun s t hI => ⟨(h s t hI).1.unlessFatal, (h s t hI).2⟩

theorem endedBy {F : ε → ε' → Prop} {Q : Unit → Unit → Prop} {last : Attempt ε S Unit}
    {last' : Attempt ε' T Unit} (h : Attempt.Matches I F R job other)
    (hlast : Attempt.Matches I NeitherFatal Q last last') :
    Attempt.Matches I F R (job.endedBy last) (other.endedBy last') := by
  intro s t hI
  obtain ⟨houtcome, hI'⟩ := h s t hI
  exact exec_endedBy_matches houtcome (hlast _ _ hI').1 (hlast _ _ hI').2

end Fatal

theorem toTask {job : Job S α} {other : Job T β}
    (h : Attempt.Matches I NeitherFatal R job other) :
    Attempt.Matches I NeitherFatal R job.toTask other.toTask :=
  h.mapFailure fun _ _ he => he

end Attempt.Matches

end FeatureSurvey
