import FeatureSurvey.Proofs.Bisect.Log
import FeatureSurvey.Proofs.Data.Table
import FeatureSurvey.Proofs.Log.Keeping
import FeatureSurvey.Proofs.Text.Plain

/-!
# `Proofs/Log/Considerate.lean` — what detectors may do while they look at a source tree

A detector that looks at a source tree starts tools, and the parser of rules copies a file. What is
asked of them is that they are considerate: no command of theirs is one on a working tree, each is
run where we are and names the source tree that it is about, and whatever is written, copied, made
or removed is in a directory that was made for it before (`ChangesOwn`).

The copies of a session are removed when it ends, and that is a change like any other. So the
invariant of a session says of the copies it remembers, too, that they are in directories that were
made in it (`Session.LooksAt`).

**Over kinds that keep this invariant every query is considerate** (`Query.considerate_of_keeps`).
-/

set_option autoImplicit false

namespace FeatureSurvey

/-! ## Where files are changed -/

/-- The path is that of a directory, or of a file or a directory with a plain name right in it. -/
def Path.IsIn (directory path : String) : Prop :=
  path = directory ∨ ∃ name, Text.IsPlain name ∧ path = Path.join directory name

namespace Event

/-- The path at which a step changes files, apart from what a command does. -/
def changes? : Event → Option String
  | .wrote path _ | .appended path _ | .copied _ path _ | .madeDirectories path _
  | .removed path _ => some path
  | .ran _ _ | .madeTemporary _ _ | .noted _ => none

/-- The directory of our own that a step has made. -/
def made? : Event → Option String
  | .madeTemporary _ (.ok directory) => some directory
  | _ => none

end Event

/-- The directories of our own that were made, in this order. -/
def madeIn (es : List Event) : List String := es.filterMap Event.made?

@[simp] theorem madeIn_append (es es' : List Event) :
    madeIn (es ++ es') = madeIn es ++ madeIn es' :=
  List.filterMap_append

/-- Every step changes files in directories of our own only: in those that there are, or in those
made on the way before it. -/
def ChangesOwn (own : List String) : List Event → Prop
  | [] => True
  | e :: es => (∀ path, e.changes? = some path → ∃ directory ∈ own, Path.IsIn directory path) ∧
      ChangesOwn (own ++ e.made?.toList) es

namespace ChangesOwn

variable {own own' : List String} {es es' : List Event}

theorem mono (h : ChangesOwn own es) (hsub : own ⊆ own') : ChangesOwn own' es := by
  induction es generalizing own own' with
  | nil => trivial
  | cons e es ih =>
    refine ⟨fun path hpath => ?_, ih h.2 (List.append_subset.2 ⟨?_, ?_⟩)⟩
    · obtain ⟨directory, hmem, hin⟩ := h.1 path hpath
      exact ⟨directory, hsub hmem, hin⟩
    · exact List.Subset.trans hsub (List.subset_append_left _ _)
    · exact List.subset_append_right _ _

theorem append_iff :
    ChangesOwn own (es ++ es') ↔ ChangesOwn own es ∧ ChangesOwn (own ++ madeIn es) es' := by
  induction es generalizing own with
  | nil => simp [ChangesOwn, madeIn]
  | cons e es ih =>
    have hmade : madeIn (e :: es) = e.made?.toList ++ madeIn es := by
      cases h : e.made? <;> simp [madeIn, h]
    rw [List.cons_append, ChangesOwn, ChangesOwn, ih, hmade, List.append_assoc, and_assoc]

theorem append (h : ChangesOwn own es) (h' : ChangesOwn own es') : ChangesOwn own (es ++ es') :=
  append_iff.2 ⟨h, h'.mono (List.subset_append_left _ _)⟩

/-- Steps that keep to the directories that there are. -/
theorem of_forall (h : ∀ e ∈ es, ∀ path, e.changes? = some path →
    ∃ directory ∈ own, Path.IsIn directory path) : ChangesOwn own es := by
  induction es generalizing own with
  | nil => trivial
  | cons e es ih =>
    obtain ⟨he, hes⟩ := List.forall_mem_cons.1 h
    exact ⟨he, (ih hes).mono (List.subset_append_left _ _)⟩

/-- One more step, which changes what is in a directory that is there. -/
theorem concat {e : Event} {path directory : String} (h : ChangesOwn own es)
    (he : e.changes? = some path) (hmem : directory ∈ own ++ madeIn es)
    (hin : Path.IsIn directory path) : ChangesOwn own (es ++ [e]) := by
  refine append_iff.2 ⟨h, fun other hother => ?_, trivial⟩
  obtain rfl : path = other := Option.some.inj (he.symm.trans hother)
  exact ⟨directory, hmem, hin⟩

end ChangesOwn

/-! ## Considerate steps -/

/-- The command is run where we are, and names the directory it is about. -/
structure Command.IsAbout (dir : String) (command : Command) : Prop where
  here : command.directory = none
  named : dir ∈ command.arguments

/-- What may be left in the log by looking at a directory. -/
structure Considerate (dir : String) (es : List Event) : Prop where
  offTree : ∀ e ∈ es, ¬ e.OnTree
  about : ∀ command outcome, .ran command outcome ∈ es → command.IsAbout dir
  own : ChangesOwn [] es

namespace Considerate

variable {dir : String} {es es' : List Event}

theorem nil : Considerate dir [] :=
  ⟨fun _ he => absurd he List.not_mem_nil, fun _ _ he => absurd he List.not_mem_nil, trivial⟩

theorem append (h : Considerate dir es) (h' : Considerate dir es') :
    Considerate dir (es ++ es') where
  offTree e he := (List.mem_append.1 he).elim (h.offTree e) (h'.offTree e)
  about command outcome he :=
    (List.mem_append.1 he).elim (h.about command outcome) (h'.about command outcome)
  own := h.own.append h'.own

/-- A command that is about the directory, and on no working tree. -/
theorem ran {command : Command} {outcome : Except SurveyError ToolOutput}
    (about : command.IsAbout dir)
    (off : ∀ directory args, command.arguments ≠ "-C" :: directory :: args) :
    Considerate dir [.ran command outcome] where
  offTree e he := by
    obtain rfl := List.mem_singleton.1 he
    rintro ⟨directory, args, hargs⟩
    exact off directory args hargs
  about other outcome' he := by
    cases List.mem_singleton.1 he
    exact about
  own := .of_forall fun e he path hpath => by
    obtain rfl := List.mem_singleton.1 he
    cases hpath

/-- Steps that are no commands. -/
theorem of_own (hcommands : ∀ command outcome, .ran command outcome ∉ es)
    (own : ChangesOwn [] es) : Considerate dir es where
  offTree e he := by
    cases e with
    | ran command outcome => exact absurd he (hcommands command outcome)
    | _ => exact id
  about command outcome he := absurd he (hcommands command outcome)
  own := own

/-- One more step, which changes what is in a directory made before. -/
theorem concat {e : Event} {path directory : String} (h : Considerate dir es)
    (he : e.changes? = some path) (hmem : directory ∈ madeIn es)
    (hin : Path.IsIn directory path) : Considerate dir (es ++ [e]) where
  offTree e' he' := by
    rcases List.mem_append.1 he' with he' | he'
    · exact h.offTree e' he'
    · obtain rfl := List.mem_singleton.1 he'
      cases e' with
      | ran command outcome => cases he
      | _ => exact id
  about command outcome he' := by
    rcases List.mem_append.1 he' with he' | he'
    · exact h.about command outcome he'
    · obtain rfl := List.mem_singleton.1 he'
      cases he
  own := h.own.concat he (by simpa using hmem) hin

end Considerate

/-! ## Sessions and queries -/

section Sessions

variable {W : Type}

/-- Since a moment nothing but what is considerate has been logged, and the copies remembered are in
directories made since. -/
def Session.LooksAt (dir : String) (log : List Event) (s : Session (Recorded W)) : Prop :=
  ∃ es, s.world.log = log ++ es ∧ Considerate dir es ∧
    ∀ name copy, s.memory.copies.get? name = some copy → copy.directory ∈ madeIn es

variable {dir : String} {log : List Event} {s : Session (Recorded W)}

/-- A step of the world that adds something considerate. -/
theorem Session.LooksAt.add (h : s.LooksAt dir log) {r : Recorded W} {es : List Event}
    (hlog : r.log = s.world.log ++ es) (hes : Considerate dir es) :
    ({ s with world := r } : Session (Recorded W)).LooksAt dir log := by
  obtain ⟨before, hbefore, hconsiderate, hcopies⟩ := h
  refine ⟨before ++ es, by rw [hlog, hbefore, List.append_assoc], hconsiderate.append hes, ?_⟩
  intro name copy hcopy
  rw [madeIn_append]
  exact List.mem_append_left _ (hcopies name copy hcopy)

theorem Session.onWorld_keeps {α : Type} {job : Job (Recorded W) α}
    (h : job.Emits fun _ es => Considerate dir es) :
    (Session.onWorld job).Keeps (Session.LooksAt dir log) fun _ => True := by
  intro s hs
  obtain ⟨es, hlog, hes⟩ := h.log s.world
  exact ⟨hs.add hlog hes, fun _ _ => trivial⟩

variable [Host W]

/-- The copies of a session are in directories of its own, so removing them is considerate. -/
theorem Session.LooksAt.removeCopies (h : s.LooksAt dir log) :
    ∃ es, (Session.removeCopies s.memory s.world).log = log ++ es ∧ Considerate dir es := by
  obtain ⟨es, hlog, hes, hcopies⟩ := h
  have hmade : ∀ copy ∈ s.memory.copies.values, copy.directory ∈ madeIn es := by
    intro copy hcopy
    obtain ⟨e, he, rfl⟩ := List.mem_map.1 hcopy
    exact hcopies e.1 e.2 (Table.mem_entries_iff.1 he)
  unfold Session.removeCopies
  generalize s.memory.copies.values = copies at hmade
  generalize s.world = r at hlog
  induction copies generalizing r es with
  | nil => exact ⟨es, hlog, hes⟩
  | cons copy rest ih =>
    obtain ⟨hcopy, hrest⟩ := List.forall_mem_cons.1 hmade
    obtain ⟨_, hremoved, rfl⟩ := removeTree_emits copy.directory r
    let removal : Event := .removed copy.directory (Host.removeTree copy.directory r).1
    have still {directory : String} (h : directory ∈ madeIn es) :
        directory ∈ madeIn (es ++ [removal]) := by
      rw [madeIn_append]
      exact List.mem_append_left _ h
    refine ih (es ++ [removal]) (hes.concat rfl hcopy (.inl rfl))
      (fun name c hc => still (hcopies name c hc)) (fun c hc => still (hrest c hc)) _ ?_
    rw [← List.append_assoc, ← hlog]
    exact hremoved

theorem Session.run_emits {α : Type} {job : Job (Session (Recorded W)) α} {G : α → Prop}
    (h : ∀ log, job.Keeps (Session.LooksAt dir log) G) :
    (Session.run job).Emits fun _ es => Considerate dir es := by
  intro r
  obtain ⟨hlooks, -⟩ := h r.log { world := r } ⟨[], (List.append_nil _).symm, .nil, nofun⟩
  exact hlooks.removeCopies

namespace Bisect.Query

/-- The detectors of the query are considerate. -/
def Considerate (q : Query (Recorded W)) : Prop :=
  ∀ dir, (q.detectIn dir).Emits fun _ es => FeatureSurvey.Considerate dir es

theorem Considerate.discreet {q : Query (Recorded W)} (h : q.Considerate) : q.Discreet :=
  fun dir => (h dir).mono fun _ _ hes => hes.offTree

theorem considerate_of_keeps {q : Query (Recorded W)}
    (h : ∀ dir log, q.kinds.Keeps (Session.LooksAt dir log) (.sourceOnly dir)) :
    q.Considerate := by
  intro dir
  let builder : InstanceBuilder (Session (Recorded W)) := ⟨q.kinds, q.config, .sourceOnly dir⟩
  have hrun : (Session.run (Runner.run builder [q.feature])).Emits
      fun _ es => FeatureSurvey.Considerate dir es :=
    Session.run_emits fun log => Runner.run_keeps (b := builder) (h dir log) [q.feature]
  exact hrun.bind (fun _ _ hes => hes) fun record es hes => .pure (by simpa using hes)

end Bisect.Query

end Sessions

end FeatureSurvey
