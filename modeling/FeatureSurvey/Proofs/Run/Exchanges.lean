import FeatureSurvey.Proofs.Log.Recorded

/-!
# `Proofs/Run/Exchanges.lean` — one instance, asked again and again

In a session a parser or a detector is asked one question after another, and between two of them
anything may happen in the world. A `Round` is such a happening and the question behind it. What
comes of the question is an `Exchange`: its outcome, the steps that were taken for it in the world,
and the session on either side.

What an instance remembers shows in a run of exchanges, and for instances that look something up
once the run has one shape (`Settles`). As long as nothing is kept each exchange stands for itself;
one exchange settles what is kept; and from then on that is what all others go by. **The shape
follows from what a single exchange does**, whatever happens in between (`settles_exchanges`).
-/

set_option autoImplicit false

namespace FeatureSurvey

/-- What happens in the world, and the question that is put after it. -/
structure Round (W Q : Type) where
  happening : W → W
  question : Q

/-- A question that was put, and what came of it. -/
structure Exchange (W Q A : Type) where
  question : Q
  before : Session W
  outcome : Except SurveyError A
  /-- The steps that were taken for it in the world. -/
  steps : List Event
  after : Session W

variable {W Q A κ : Type}

namespace Session

/-- The session in a world whose log is still empty. -/
def recording (s : Session W) : Session (Recorded W) := ⟨⟨s.world, []⟩, s.memory⟩

/-- The world goes its way; the memory is ours. -/
def happen (s : Session W) (happening : W → W) : Session W :=
  { s with world := happening s.world }

@[simp] theorem memory_happen (s : Session W) (happening : W → W) :
    (s.happen happening).memory = s.memory := rfl

@[simp] theorem world_happen (s : Session W) (happening : W → W) :
    (s.happen happening).world = happening s.world := rfl

@[simp] theorem memory_recording (s : Session W) : s.recording.memory = s.memory := rfl

@[simp] theorem world_recording (s : Session W) : s.recording.world = ⟨s.world, []⟩ := rfl

end Session

/-- Put a question in a session. -/
def Exchange.put (ask : Q → Job (Session (Recorded W)) A) (s : Session W) (question : Q) :
    Exchange W Q A :=
  let (outcome, t) := (ask question).exec s.recording
  ⟨question, s, outcome, t.world.log, ⟨t.world.world, t.memory⟩⟩

/-- The exchanges of an instance, round by round. -/
def exchanges (ask : Q → Job (Session (Recorded W)) A) :
    Session W → List (Round W Q) → List (Exchange W Q A)
  | _, [] => []
  | s, round :: rest =>
    let x := Exchange.put ask (s.happen round.happening) round.question
    x :: exchanges ask x.after rest

/-- Exchanges of which one settles something for those behind it; the ones in front of it, or all of
them, wait. -/
inductive Settles (Waits : Exchange W Q A → Prop) (Turns Follows : κ → Exchange W Q A → Prop) :
    List (Exchange W Q A) → Prop
  | none : Settles Waits Turns Follows []
  | waits {x : Exchange W Q A} {rest : List (Exchange W Q A)} (h : Waits x)
      (hrest : Settles Waits Turns Follows rest) : Settles Waits Turns Follows (x :: rest)
  | turns {kept : κ} {x : Exchange W Q A} {rest : List (Exchange W Q A)} (h : Turns kept x)
      (hrest : ∀ y ∈ rest, Follows kept y) : Settles Waits Turns Follows (x :: rest)

theorem Settles.of_mem {Waits : Exchange W Q A → Prop} {Turns Follows : κ → Exchange W Q A → Prop}
    {xs : List (Exchange W Q A)} {x : Exchange W Q A} (h : Settles Waits Turns Follows xs)
    (hx : x ∈ xs) : Waits x ∨ ∃ kept, Turns kept x ∨ Follows kept x := by
  induction h with
  | none => cases hx
  | waits h hrest ih =>
    cases hx with
    | head => exact .inl h
    | tail _ hx => exact ih hx
  | turns h hrest =>
    cases hx with
    | head => exact .inr ⟨_, .inl h⟩
    | tail _ hx => exact .inr ⟨_, .inr (hrest _ hx)⟩

section Exchanges

variable {ask : Q → Job (Session (Recorded W)) A} {s : Session W} {rounds : List (Round W Q)}
  {x : Exchange W Q A}

theorem Exchange.put_eq {question : Q} {outcome : Except SurveyError A} {w : W}
    {steps : List Event} {memory : Memory}
    (h : (ask question).exec s.recording = (outcome, ⟨⟨w, steps⟩, memory⟩)) :
    put ask s question = ⟨question, s, outcome, steps, ⟨w, memory⟩⟩ := by
  simp [put, h]

/-- What holds of every exchange of a settled instance. -/
theorem follows_exchanges {Kept : Session W → Prop} {Follows : Exchange W Q A → Prop}
    (hround : ∀ round ∈ rounds, ∀ t, Kept t → Kept (t.happen round.happening))
    (hput : ∀ t question, Kept t →
      Follows (.put ask t question) ∧ Kept (Exchange.put ask t question).after)
    (h : Kept s) (hx : x ∈ exchanges ask s rounds) : Follows x := by
  induction rounds generalizing s with
  | nil => simp [exchanges] at hx
  | cons round rest ih =>
    have hhappen := hround round List.mem_cons_self s h
    obtain ⟨hfollows, hkept⟩ := hput _ round.question hhappen
    simp only [exchanges, List.mem_cons] at hx
    cases hx with
    | inl hx => exact hx ▸ hfollows
    | inr hx =>
      exact ih (fun other hother => hround other (List.mem_cons_of_mem _ hother)) hkept hx

/-- **From what one exchange does to what all of them do.** -/
theorem settles_exchanges (Open : Session W → Prop) (Kept : κ → Session W → Prop)
    {Waits : Exchange W Q A → Prop} {Turns Follows : κ → Exchange W Q A → Prop}
    (open_round : ∀ round ∈ rounds, ∀ t, Open t → Open (t.happen round.happening))
    (kept_round : ∀ round ∈ rounds, ∀ kept t, Kept kept t → Kept kept (t.happen round.happening))
    (open_put : ∀ t question, Open t →
      (Waits (.put ask t question) ∧ Open (Exchange.put ask t question).after) ∨
      ∃ kept, Turns kept (.put ask t question) ∧ Kept kept (Exchange.put ask t question).after)
    (kept_put : ∀ kept t question, Kept kept t →
      Follows kept (.put ask t question) ∧ Kept kept (Exchange.put ask t question).after)
    (h : Open s) : Settles Waits Turns Follows (exchanges ask s rounds) := by
  induction rounds generalizing s with
  | nil => exact .none
  | cons round rest ih =>
    have hrest : ∀ other ∈ rest, other ∈ round :: rest := fun _ => List.mem_cons_of_mem round
    have hhappen := open_round round List.mem_cons_self s h
    cases open_put _ round.question hhappen with
    | inl hwaits =>
      apply Settles.waits hwaits.1
      exact ih (fun other hother => open_round other (hrest other hother))
        (fun other hother => kept_round other (hrest other hother)) hwaits.2
    | inr hturns =>
      obtain ⟨kept, hturns, hkept⟩ := hturns
      apply Settles.turns hturns
      intro y hy
      exact follows_exchanges (fun other hother => kept_round other (hrest other hother) kept)
        (kept_put kept) hkept hy

/-- A count that goes by the steps of each exchange goes by the steps of all of them. -/
theorem count_exchanges (count : Session W → Nat) (counted : Event → Bool)
    (hround : ∀ t happening, count (Session.happen t happening) = count t)
    (hput : ∀ t question, count (Exchange.put ask t question).after =
      count t + (Exchange.put ask t question).steps.countP counted)
    {done rest : List (Exchange W Q A)} (h : exchanges ask s rounds = done ++ x :: rest) :
    count x.after = count s + ((done ++ [x]).flatMap fun y => y.steps).countP counted := by
  induction rounds generalizing s done with
  | nil => simp [exchanges] at h
  | cons round rounds ih =>
    cases done with
    | nil =>
      simp only [exchanges, List.nil_append, List.cons.injEq] at h
      obtain ⟨rfl, -⟩ := h
      simp [hput, hround]
    | cons y done =>
      simp only [exchanges, List.cons_append, List.cons.injEq] at h
      obtain ⟨rfl, htail⟩ := h
      rw [ih htail, hput, hround]
      simp [Nat.add_assoc]

end Exchanges

/-- What a tool gives where steps are logged: the same, and an event. -/
theorem Tool.exec_run_recorded [Host W] (command : Command) (timeout : Timeout) (r : Recorded W) :
    (Tool.run command timeout).exec r =
      (((Tool.run command timeout).exec r.world).1,
        ⟨((Tool.run command timeout).exec r.world).2,
          r.log ++ [.ran command ((Tool.run command timeout).exec r.world).1]⟩) := rfl

end FeatureSurvey
