import FeatureSurvey.Proofs.Bisect.Restore

/-!
# `Proofs/Bisect/Beside.lean` — a borrowed tree is not worked in

The search beside a borrowed tree asks that tree two things, has a scratch tree added next to it,
and searches there. `Beside` lists the logs that this can leave, one constructor for each way in
which it can end early and one for the search itself. What the search does in between is told by
`Worked`: every command on a tree is one on the scratch tree, and one of those a search needs.

Once the scratch tree has been added, the log ends in one way: the directory of the scratch tree is
removed, the repository is told to forget it, and the directory around it is removed.

**So the borrowed tree itself sees four commands at most, each once** (`search_beside`): what the
two ends mean, the adding, and the forgetting.
-/

set_option autoImplicit false

namespace FeatureSurvey

namespace WorkTree

/-- What a search may ask of a tree or do with it. -/
inductive IsSearchStep : List String → Prop
  | question {args : List String} (h : IsQuestion args) : IsSearchStep args
  | checkout (commit : String) : IsSearchStep (checkingOut commit)
  | clean : IsSearchStep cleaning

/-- What a search leaves in the log while it works in a tree. -/
structure Worked (t : WorkTree) (es : List Event) : Prop where
  /-- A command is one that a search needs, on this tree, or a detector's, which is on no tree and
  names this one. -/
  commands : ∀ command outcome, .ran command outcome ∈ es →
    (∃ args, IsSearchStep args ∧ command = t.command args) ∨
      (∀ directory, ¬ command.OnTreeAt directory) ∧ command.IsAbout t.root
  own : ChangesOwn [] es

theorem Worked.append {t : WorkTree} {es es' : List Event} (h : t.Worked es)
    (h' : t.Worked es') : t.Worked (es ++ es') where
  commands command outcome he :=
    (List.mem_append.1 he).elim (h.commands command outcome) (h'.commands command outcome)
  own := h.own.append h'.own

/-- Commands on the tree, and nothing else. -/
theorem Worked.of_commands {t : WorkTree} {es : List Event}
    (h : ∀ e ∈ es, ∃ args outcome, IsSearchStep args ∧ e = .ran (t.command args) outcome) :
    t.Worked es where
  commands command outcome he := by
    obtain ⟨args, _, hargs, heq⟩ := h _ he
    cases heq
    exact .inl ⟨args, hargs, rfl⟩
  own := .of_forall fun e he path hpath => by
    obtain ⟨_, _, -, rfl⟩ := h e he
    cases hpath

theorem Asked.worked {t : WorkTree} {es : List Event} (h : t.Asked es) : t.Worked es := by
  refine .of_commands fun e he => ?_
  obtain ⟨args, outcome, hargs, rfl⟩ := h e he
  exact ⟨args, outcome, .question hargs, rfl⟩

theorem CheckoutLog.worked {t : WorkTree} {commit : String} {r : Except SurveyError Unit}
    {es : List Event} (h : t.CheckoutLog commit r es) : t.Worked es := by
  refine .of_commands fun e he => ?_
  cases h with
  | refused =>
    obtain rfl := List.mem_singleton.1 he
    exact ⟨_, _, .checkout commit, rfl⟩
  | uncleaned | brought =>
    simp only [List.mem_cons, List.not_mem_nil, or_false] at he
    rcases he with rfl | rfl
    · exact ⟨_, _, .checkout commit, rfl⟩
    · exact ⟨_, _, .clean, rfl⟩

/-- Detectors that look at the tree work in it. -/
theorem worked_of_considerate {t : WorkTree} {es : List Event} (h : Considerate t.root es) :
    t.Worked es where
  commands command outcome he :=
    .inr ⟨fun directory hon => h.offTree _ he ⟨directory, hon⟩, h.about command outcome he⟩
  own := h.own

/-! ## What a tree is told -/

/-- The command, without the directory in front, if it is one on the tree in that directory. -/
def commandAt? (directory : String) : Event → Option (List String)
  | .ran command _ =>
    match command.arguments with
    | "-C" :: dir :: args => if dir = directory then some args else none
    | _ => none
  | _ => none

/-- The commands on the tree in a directory, in the order in which they were run. -/
def commandsAt (directory : String) (es : List Event) : List (List String) :=
  es.filterMap (commandAt? directory)

@[simp] theorem commandAt?_command (t : WorkTree) (args : List String) (directory : String)
    (outcome : Except SurveyError ToolOutput) :
    commandAt? directory (.ran (t.command args) outcome) =
      if t.root = directory then some args else none := rfl

@[simp] theorem commandAt?_removed (directory path : String) (outcome : Except OsError Unit) :
    commandAt? directory (.removed path outcome) = none := rfl

@[simp] theorem commandAt?_madeTemporary (directory front : String)
    (outcome : Except OsError String) :
    commandAt? directory (.madeTemporary front outcome) = none := rfl

theorem commandAt?_eq_some {directory : String} {e : Event} {args : List String}
    (h : commandAt? directory e = some args) : ∃ command outcome,
      e = .ran command outcome ∧ command.arguments = "-C" :: directory :: args := by
  cases e with
  | ran command outcome =>
    simp only [commandAt?] at h
    split at h
    · rename_i dir args' heq
      split at h
      · rename_i hdir
        cases h
        exact ⟨command, outcome, rfl, hdir ▸ heq⟩
      · cases h
    · cases h
  | _ => cases h

/-- Work on one tree is no work on a tree elsewhere. -/
theorem Worked.commandsAt_eq_nil {t : WorkTree} {es : List Event} {directory : String}
    (h : t.Worked es) (apart : t.root ≠ directory) : commandsAt directory es = [] := by
  refine List.filterMap_eq_nil_iff.2 fun e he => ?_
  rcases hcommand : commandAt? directory e with _ | args
  · rfl
  · obtain ⟨command, outcome, rfl, hargs⟩ := commandAt?_eq_some hcommand
    rcases h.commands command outcome he with ⟨args', -, rfl⟩ | ⟨hoff, -⟩
    · rw [commandAt?_command, if_neg apart] at hcommand
      exact hcommand.symm
    · exact absurd ⟨args, hargs⟩ (hoff directory)

/-! ## Making and discarding a scratch tree -/

variable {W : Type} [Host W]

theorem addScratch_emits (t : WorkTree) (dest : String) :
    (t.addScratch dest : Job (Recorded W) WorkTree).Emits fun r es =>
      ∃ outcome, es = [.ran (t.command (addingScratch dest)) outcome] ∧
        match r with
        | .error _ => ¬ Succeeded outcome
        | .ok added => Succeeded outcome ∧ added = t.scratch dest := by
  refine (t.run_emits (addingScratch dest)).bind ?_ ?_
  · rintro e es ⟨outcome, rfl, h⟩
    exact ⟨outcome, rfl, not_succeeded_of_error h⟩
  · rintro stdout es ⟨outcome, rfl, h⟩
    exact .pure ⟨outcome, rfl, succeeded_of_ok h, rfl⟩

/-- A scratch tree is removed, and its repository told to forget it. -/
theorem discard_scratch_emits (t : WorkTree) (dest : String) :
    ((t.scratch dest).discard : Job (Recorded W) Unit).Emits fun _ es =>
      ∃ removal outcome, es = [.removed dest removal, .ran (t.command pruning) outcome] := by
  refine Attempt.Emits.bind (P := fun r es => (∃ removal, es = [.removed dest removal]) ∧
      ∀ e, r ≠ .error e)
    (.always ((removeTree_emits dest).mono fun r es h => ⟨⟨r, h⟩, nofun⟩))
    (fun e _ h => absurd rfl (h.2 e)) ?_
  rintro _ es ⟨⟨removal, rfl⟩, -⟩
  refine (Tool.runChecked_emits (t.command pruning) t.timeout).bind ?_ ?_
  · rintro e es ⟨outcome, rfl, -⟩
    exact ⟨removal, outcome, rfl⟩
  · rintro stdout es ⟨outcome, rfl, -⟩
    exact .pure ⟨removal, outcome, rfl⟩

end WorkTree

namespace Bisect

theorem Visits.worked {t : WorkTree} {history : List String} {es : List Event}
    (h : Visits history (fun _ _ es => t.Worked es) es) : t.Worked es := by
  induction h with
  | done => exact WorkTree.Asked.nil.worked
  | failed _ h => exact h
  | next _ h _ ih => exact h.append ih

open WorkTree (resolving addingScratch pruning)

/-- What the search in a scratch tree leaves in the log, from the adding of the tree on. A tree
that has been added is removed, and then forgotten. -/
inductive InScratch (t : WorkTree) (dest : String) : List Event → Prop
  | notAdded {adding : Except SurveyError ToolOutput} (h : ¬ Succeeded adding) :
      InScratch t dest [.ran (t.command (addingScratch dest)) adding]
  | searched {adding forgetting : Except SurveyError ToolOutput} {removal : Except OsError Unit}
      {inner : List Event} (h : Succeeded adding) (hinner : (t.scratch dest).Worked inner) :
      InScratch t dest ([.ran (t.command (addingScratch dest)) adding] ++ inner ++
        [.removed dest removal, .ran (t.command pruning) forgetting])

/-- What the search beside a borrowed tree leaves in the log. -/
inductive Beside (t : WorkTree) (old new : String) : List Event → Prop
  | oldUnknown {first : Except SurveyError ToolOutput} {e : SurveyError}
      (hold : t.named old first = .error e) :
      Beside t old new [.ran (t.command (resolving old)) first]
  | newUnknown {first second : Except SurveyError ToolOutput} {o : String} {e : SurveyError}
      (hold : t.named old first = .ok o) (hnew : t.named new second = .error e) :
      Beside t old new
        [.ran (t.command (resolving old)) first, .ran (t.command (resolving new)) second]
  | noDirectory {first second : Except SurveyError ToolOutput} {o n : String} {cause : OsError}
      (hold : t.named old first = .ok o) (hnew : t.named new second = .ok n) :
      Beside t old new
        [.ran (t.command (resolving old)) first, .ran (t.command (resolving new)) second,
          .madeTemporary Query.directoryName (.error cause)]
  | tried {first second : Except SurveyError ToolOutput} {o n directory : String}
      {es : List Event} (hold : t.named old first = .ok o) (hnew : t.named new second = .ok n)
      (hes : InScratch t (Path.join directory "tree") es) (removal : Except OsError Unit) :
      Beside t old new
        ([.ran (t.command (resolving old)) first, .ran (t.command (resolving new)) second,
          .madeTemporary Query.directoryName (.ok directory)] ++ es ++
          [.removed directory removal])

theorem InScratch.changesOwn {t : WorkTree} {directory : String} {es : List Event}
    (h : InScratch t (Path.join directory "tree") es) : ChangesOwn [directory] es := by
  have hin : Path.IsIn directory (Path.join directory "tree") :=
    .inr ⟨"tree", ⟨by decide, List.all_eq_true.1 rfl⟩, rfl⟩
  cases h with
  | notAdded => exact ⟨nofun, trivial⟩
  | @searched adding forgetting removal inner _ hinner =>
    have hadding : ChangesOwn [directory]
        [.ran (t.command (addingScratch (Path.join directory "tree"))) adding] :=
      ⟨nofun, trivial⟩
    have hrelease : ChangesOwn [directory]
        [.removed (Path.join directory "tree") removal, .ran (t.command pruning) forgetting] := by
      refine ⟨fun path hpath => ?_, nofun, trivial⟩
      cases hpath
      exact ⟨directory, List.mem_singleton_self directory, hin⟩
    exact (hadding.append (hinner.own.mono (List.nil_subset _))).append hrelease

/-- Nothing outside of our own directories is written, copied, made or removed. -/
theorem Beside.changesOwn {t : WorkTree} {old new : String} {es : List Event}
    (h : Beside t old new es) : ChangesOwn [] es := by
  cases h with
  | oldUnknown => exact ⟨nofun, trivial⟩
  | newUnknown => exact ⟨nofun, nofun, trivial⟩
  | noDirectory => exact ⟨nofun, nofun, nofun, trivial⟩
  | @tried first second o n directory es _ _ hes removal =>
    refine ChangesOwn.append_iff.2
      ⟨ChangesOwn.append_iff.2 ⟨⟨nofun, nofun, nofun, trivial⟩, ?_⟩, ?_⟩
    · exact hes.changesOwn
    · refine ⟨fun path hpath => ?_, trivial⟩
      cases hpath
      exact ⟨directory, by simp [madeIn, Event.made?], .inl rfl⟩

theorem InScratch.commandsAt_isPrefix {t : WorkTree} {dest : String} {es : List Event}
    (h : InScratch t dest es) (apart : dest ≠ t.root) :
    WorkTree.commandsAt t.root es <+: [addingScratch dest, pruning] := by
  cases h with
  | notAdded => simp [WorkTree.commandsAt]
  | searched _ hinner =>
    have hnil := hinner.commandsAt_eq_nil apart
    simp only [WorkTree.commandsAt] at hnil ⊢
    simp [hnil, List.filterMap_cons]

/-- As long as the new directory is not the borrowed tree's own, that tree sees four commands. -/
theorem Beside.commandsAt_isPrefix {t : WorkTree} {old new : String} {es : List Event}
    (h : Beside t old new es)
    (fresh : ∀ directory, .madeTemporary Query.directoryName (.ok directory) ∈ es →
      Path.join directory "tree" ≠ t.root) :
    ∃ dest, WorkTree.commandsAt t.root es <+:
      [resolving old, resolving new, addingScratch dest, pruning] := by
  cases h with
  | oldUnknown | newUnknown | noDirectory =>
    exact ⟨"", by simp [WorkTree.commandsAt, List.filterMap_cons]⟩
  | @tried _ _ _ _ directory _ _ _ hes _ =>
    refine ⟨Path.join directory "tree", ?_⟩
    have hprefix := hes.commandsAt_isPrefix (fresh _ (by simp))
    simp only [WorkTree.commandsAt] at hprefix ⊢
    simpa [List.filterMap_cons] using hprefix

namespace Query

variable {W : Type} [Host W] {q : Query (Recorded W)}

theorem oracle_worked (hq : q.Considerate) (t : WorkTree) (commit : String) :
    (q.oracle t commit).Emits fun _ es => t.Worked es := by
  refine (t.checkout_emits commit).bind (fun _ _ h => h.worked) fun _ _ h => ?_
  exact (hq t.root).mono fun _ _ hes => h.worked.append (WorkTree.worked_of_considerate hes)

theorem searchIn_worked (hq : q.Considerate) (t : WorkTree) (old new : String) :
    (q.searchIn t old new).Emits fun _ es => t.Worked es := by
  refine t.currentRef_asked.bind (fun _ _ h => h.worked) fun ref _ hfirst => ?_
  refine Attempt.Emits.endedBy (P := fun _ es => t.Worked es) ?_ fun _ _ h => ?_
  · refine (t.firstParentRange_asked old new).bind (fun _ _ h => h.worked) fun history _ h => ?_
    refine (findIntroduction_emits fun commit _ => oracle_worked hq t commit).mono ?_
    exact fun _ _ hvisits => h.worked.append hvisits.worked
  · exact (t.checkout_emits ref).mono fun _ _ hlast =>
      hfirst.worked.append (h.append hlast.worked)

/-- The search in a scratch tree, from the adding of the tree on. -/
def searchScratch (q : Query (Recorded W)) (t : WorkTree) (dest old new : String) :
    Job (Recorded W) Outcome := do
  let worktree ← t.addScratch dest
  (q.searchIn worktree old new).endedBy worktree.discard

theorem searchScratch_emits (hq : q.Considerate) (t : WorkTree) (dest old new : String) :
    (q.searchScratch t dest old new).Emits fun _ es => InScratch t dest es := by
  refine (t.addScratch_emits dest).bind ?_ ?_
  · rintro e es ⟨adding, rfl, h⟩
    exact .notAdded h
  · rintro worktree es ⟨adding, rfl, h, rfl⟩
    -- from here on the tree is discarded, whatever happens
    refine (searchIn_worked hq (t.scratch dest) old new).endedBy fun _ inner hinner => ?_
    refine (t.discard_scratch_emits dest).mono ?_
    rintro - es ⟨removal, forgetting, rfl⟩
    rw [← List.append_assoc]
    exact .searched h hinner

theorem searchBeside_emits (hq : q.Considerate) (t : WorkTree) (old new : String) :
    (q.searchBeside t old new).Emits fun _ es => Beside t old new es := by
  refine (t.resolve_emits old).bind ?_ ?_
  · rintro e es ⟨first, rfl, hold⟩
    exact .oldUnknown hold.symm
  rintro o es ⟨first, rfl, hold⟩
  refine (t.resolve_emits new).bind ?_ ?_
  · rintro e es ⟨second, rfl, hnew⟩
    exact .newUnknown hold.symm hnew.symm
  rintro n es ⟨second, rfl, hnew⟩
  refine Attempt.Emits.bind (P := fun r es => es = [] ∧ ∃ root, r = .ok root)
    (.ask fun root => ⟨rfl, root, rfl⟩) ?_ ?_
  · rintro e es ⟨-, root, h⟩
    cases h
  rintro root es ⟨rfl, -⟩
  refine Attempt.Emits.bind (P := fun r es => ∃ made,
      es = [.madeTemporary directoryName made] ∧ r = made.mapError (SurveyError.file root))
    (.step ((makeTemporary_emits directoryName).mono ?_)) ?_ ?_
  · rintro made es rfl
    exact ⟨made, rfl, rfl⟩
  · rintro e es ⟨made, rfl, h⟩
    cases made with
    | error cause => exact .noDirectory hold.symm hnew.symm
    | ok directory => cases h
  rintro directory es ⟨made, rfl, h⟩
  -- from here on the directory is removed, whatever happens
  obtain rfl : made = .ok directory := by
    cases made with
    | error cause => cases h
    | ok directory => exact congrArg _ (Except.ok.inj h).symm
  refine (searchScratch_emits hq t (Path.join directory "tree") o n).guarded fun _ es hes => ?_
  refine (removeTree_emits directory).bind ?_
  rintro removal es' rfl
  refine Emits.pure ?_
  simpa using Beside.tried hold.symm hnew.symm hes removal

/-- **A search leaves a borrowed tree as it is.**

A feature that no detector answers ends the search before anything is done. Else the log is that of
a search beside the tree: no step changes a file but in directories that the search has made before,
and the tree itself is told the four commands that this takes, or as many of them as the search came
to, in this order. -/
theorem search_beside (hq : q.Considerate) {t : WorkTree} (borrowed : t.isOwned = false)
    (old new : String) (r : Recorded W) :
    match Resolver.assign q.config [q.feature] with
    | .error e => (q.search t old new).exec r = (.error e, r)
    | .ok _ =>
      ∃ es, Logged.log ((q.search t old new).exec r).2 = Logged.log r ++ es ∧
        Beside t old new es ∧ ChangesOwn [] es ∧
        ((∀ directory, .madeTemporary directoryName (.ok directory) ∈ es →
            Path.join directory "tree" ≠ t.root) →
          ∃ dest, WorkTree.commandsAt t.root es <+:
            [resolving old, resolving new, addingScratch dest, pruning]) := by
  rw [search_eq]
  cases Resolver.assign q.config [q.feature] with
  | error e => rfl
  | ok assignments =>
    obtain ⟨es, hlog, hbeside⟩ := (searchBeside_emits hq t old new).log r
    simp only [borrowed, Bool.false_eq_true, if_false]
    exact ⟨es, hlog, hbeside, hbeside.changesOwn, hbeside.commandsAt_isPrefix⟩

open Workshop (merging borrowed)

/-- A search for the marker between `r` and `m`, beside the caller's tree. -/
theorem search_beside_borrowed :
    (marker : Query (Recorded (Workshop merging))).Considerate ∧ borrowed.isOwned = false ∧
      ∃ es, Logged.log ((marker.search borrowed "r" "m").exec unlogged).2 =
          Logged.log unlogged ++ es ∧
        Beside borrowed "r" "m" es ∧ ChangesOwn [] es ∧
        ((∀ directory, .madeTemporary directoryName (.ok directory) ∈ es →
            Path.join directory "tree" ≠ borrowed.root) →
          ∃ dest, WorkTree.commandsAt borrowed.root es <+:
            [resolving "r", resolving "m", addingScratch dest, pruning]) :=
  ⟨marker_considerate, rfl, search_beside marker_considerate rfl "r" "m" unlogged⟩

end Query

end Bisect

end FeatureSurvey
