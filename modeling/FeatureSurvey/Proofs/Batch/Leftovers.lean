import FeatureSurvey.Batch.Layout
import FeatureSurvey.Proofs.Sandbox.Directories
import Mathlib.Data.List.Nodup

/-!
# `Proofs/Batch/Leftovers.lean` — what is left in the scratch directories

Whatever a teardown or a reset comes to, **nothing outside the scratch directories changes**, but
that a reset may make the directories on the way to its own (`Torn.outside`, `Refreshed.outside`).

Whether anything is left inside them is a matter of the root. A scratch directory that is not there
need not be removed, and a path that cannot be followed looks just like that. If the root leads
through a place and out of it again by `..`, and the place is missing, then no scratch directory is
found, and the reset makes the way to them as they were: **all that was left over is kept**
(`Refreshed.kept`). If the place is in one of the scratch directories, it goes away with that one,
and **what was left over in those behind it is kept** (`Refreshed.crossed`). In all other cases
(`Layout.Passable`) **a teardown leaves nothing and a reset empty directories** (`Torn.gone`,
`Refreshed.empty`).
-/

set_option autoImplicit false

namespace FeatureSurvey

/-! ## Paths under a root -/

namespace Sandbox

variable {here x : Place} {base name : String}

theorem origin_join (h : Path.IsName name) :
    origin here (Path.join base name) = origin here base := by
  rw [origin, origin, Path.isAbsolute_join h.single]

theorem goalOf_join (h : Path.IsName name) :
    goalOf here (Path.join base name) = goalOf here base ++ [name] := by
  obtain ⟨front, silent, hbase, hsilent, hjoin⟩ := Path.pieces_join base h.single
  rw [goalOf, goalOf, origin_join h, hbase, hjoin, goal_append, goal_append, goal_silent hsilent]
  exact next_name h.telling h.down

theorem exits_join (h : Path.IsName name) :
    exits (origin here (Path.join base name)) (Path.pieces (Path.join base name)) =
      exits (origin here base) (Path.pieces base) := by
  obtain ⟨front, silent, hbase, hsilent, hjoin⟩ := Path.pieces_join base h.single
  rw [origin_join h, hbase, hjoin, exits_append, exits_append, exits_silent hsilent, exits,
    if_neg h.down]
  rfl

theorem mem_wayOf_join (h : Path.IsName name) (hx : x ∈ wayOf here (Path.join base name)) :
    x ∈ wayOf here base ∨ x = goalOf here (Path.join base name) := by
  obtain ⟨front, silent, hbase, hsilent, hjoin⟩ := Path.pieces_join base h.single
  rw [wayOf, hjoin, stops_append, origin_join h, List.mem_append, List.mem_append] at hx
  rcases hx with (hx | hx) | hx
  · left
    rw [wayOf, hbase, stops_append]
    exact List.mem_append_left _ (List.mem_append_left _ hx)
  · left
    rw [wayOf, goalOf, hbase, goal_append, goal_silent hsilent]
    exact List.mem_append_right _ hx
  · exact .inr (List.mem_singleton.1 hx)

end Sandbox

/-! ## The scratch directories -/

namespace Layout

open Sandbox

variable {l : Layout} {here x : Place} {t t' : Tree} {dir : String}

/-- A place in one of the scratch directories. -/
def Inside (l : Layout) (here x : Place) : Prop := ∃ dir ∈ l.scratchDirs, goalOf here dir <+: x

instance (l : Layout) (here x : Place) : Decidable (l.Inside here x) :=
  inferInstanceAs (Decidable (∃ dir ∈ l.scratchDirs, goalOf here dir <+: x))

/-- The places that the root leads through and out of again. -/
def rootExits (l : Layout) (here : Place) : List Place :=
  exits (origin here l.root) (Path.pieces l.root)

/-- Nothing that the root is led out of is missing, or inside a scratch directory. -/
structure Passable (l : Layout) (here : Place) (t : Tree) : Prop where
  there : ∀ x ∈ l.rootExits here, t.entryAt? x ≠ none
  apart : ∀ x ∈ l.rootExits here, ¬ l.Inside here x

/-- Of the scratch directories, in the order in which they are removed, this is the first one that
the root leads into and out of again. -/
structure Crosses (l : Layout) (here : Place) (before : List String) (dir : String)
    (after : List String) : Prop where
  split : l.scratchDirs = before ++ dir :: after
  crossed : ∃ x ∈ l.rootExits here, goalOf here dir <+: x
  first : ∀ other ∈ before, ∀ x ∈ l.rootExits here, ¬ goalOf here other <+: x

/-- The system has refused to remove a scratch directory that is there. -/
def RemovalRefused {W : Type} [Host W] (l : Layout) (e : OsError) (v : W) : Prop :=
  e ≠ .notFound ∧ ∃ dir ∈ l.scratchDirs, ∃ u, Host.removeTree dir u = (.error e, v)

/-- The system has refused to make a directory. -/
def MakingRefused {W : Type} [Host W] (l : Layout) (e : OsError) (v : W) : Prop :=
  ∃ dir ∈ l.packageDirs, ∃ u, Host.makeDirectories dir u = (.error e, v)

/-- A place on the way to one of the directories that are made afresh. -/
def OnWay (l : Layout) (here x : Place) : Prop := ∃ dir ∈ l.packageDirs, x ∈ wayOf here dir

/-- What comes of a teardown. -/
structure Torn (l : Layout) (here : Place) (t : Tree) (r : Except OsError Unit) (t' : Tree) :
    Prop where
  outside : ∀ x, ¬ l.Inside here x → t'.entryAt? x = t.entryAt? x
  missing : r = .ok () → ∀ dir ∈ l.scratchDirs, t'.find here dir = .error .notFound
  gone : r = .ok () → l.Passable here t → ∀ x, l.Inside here x → t'.entryAt? x = none
  /-- When the directory is removed that the root leads into and out of again, those behind it are
  not found any more. -/
  crossed : r = .ok () → (∀ x ∈ l.rootExits here, t.entryAt? x ≠ none) →
    ∀ {before : List String} {dir : String} {after : List String},
      l.Crosses here before dir after →
        (∀ other ∈ before ++ [dir], ∀ x, goalOf here other <+: x → t'.entryAt? x = none) ∧
        ∀ other ∈ after, ∀ x, goalOf here other <+: x → t'.entryAt? x = t.entryAt? x

/-- What comes of a reset. -/
structure Refreshed (l : Layout) (here : Place) (t : Tree) (r : Except OsError Unit) (t' : Tree) :
    Prop where
  outside : ∀ x, ¬ l.Inside here x → t'.entryAt? x = t.entryAt? x ∨
    (t.entryAt? x = none ∧ t'.entryAt? x = some .directory ∧ l.OnWay here x)
  /-- What is made outside is above a directory that is made afresh. -/
  above : l.Passable here t → ∀ x, ¬ l.Inside here x → t'.entryAt? x ≠ t.entryAt? x →
    ∃ dir ∈ l.packageDirs, x <+: goalOf here dir
  there : r = .ok () → ∀ dir ∈ l.packageDirs, t'.kind? here dir = some .directory
  empty : r = .ok () → l.Passable here t → ∀ dir ∈ l.packageDirs, t'.list here dir = .ok []
  missing : r = .ok () → l.Passable here t →
    ∀ dir ∈ [l.extractionDir, l.gitDir], t'.kind? here dir = none
  /-- A place that the root is led out of again is missing, and all that is there is kept. -/
  kept : (∃ x ∈ l.rootExits here, t.entryAt? x = none) →
    ∀ x entry, t.entryAt? x = some entry → t'.entryAt? x = some entry
  /-- If the root leads into a directory and out of it again, then up to this one nothing but
  directories on the way is left, and all that is in those behind it is kept. -/
  crossed : r = .ok () → (∀ x ∈ l.rootExits here, t.entryAt? x ≠ none) →
    ∀ {before : List String} {dir : String} {after : List String},
      l.Crosses here before dir after →
        (∀ other ∈ before ++ [dir], ∀ x, goalOf here other <+: x →
          t'.entryAt? x = none ∨ (t'.entryAt? x = some .directory ∧ l.OnWay here x)) ∧
        ∀ other ∈ after, ∀ x entry, goalOf here other <+: x → t.entryAt? x = some entry →
          t'.entryAt? x = some entry

theorem exists_name (h : dir ∈ l.scratchDirs) :
    ∃ name, Path.IsName name ∧ dir = Path.join l.root name := by
  simp only [scratchDirs, packageDirs, List.mem_append, List.mem_cons, List.not_mem_nil, or_false]
    at h
  rcases h with (rfl | rfl | rfl) | rfl
  · exact ⟨_, by decide, rfl⟩
  · exact ⟨_, by decide, rfl⟩
  · exact ⟨_, by decide, rfl⟩
  · exact ⟨_, by decide, rfl⟩

theorem ne_empty (h : dir ∈ l.scratchDirs) : dir ≠ "" := by
  obtain ⟨name, hname, rfl⟩ := exists_name h
  exact Path.join_ne_empty hname

/-- All scratch directories stand in the same place. -/
theorem exists_goalOf (here : Place) (h : dir ∈ l.scratchDirs) :
    ∃ name, goalOf here dir = goalOf here l.root ++ [name] := by
  obtain ⟨name, hname, rfl⟩ := exists_name h
  exact ⟨name, goalOf_join hname⟩

theorem exits_scratch (h : dir ∈ l.scratchDirs) :
    exits (origin here dir) (Path.pieces dir) = l.rootExits here := by
  obtain ⟨name, hname, rfl⟩ := exists_name h
  exact exits_join hname

theorem Inside.of_goalOf (h : dir ∈ l.scratchDirs) : l.Inside here (goalOf here dir) :=
  ⟨dir, h, List.prefix_refl _⟩

/-- What is inside one scratch directory is inside no other. -/
theorem eq_of_inside {other : String} (hdir : dir ∈ l.scratchDirs) (hother : other ∈ l.scratchDirs)
    (hx : goalOf here dir <+: x) (hx' : goalOf here other <+: x) : dir = other := by
  obtain ⟨name, hname, rfl⟩ := exists_name hdir
  obtain ⟨name', hname', rfl⟩ := exists_name hother
  rw [goalOf_join hname] at hx
  rw [goalOf_join hname'] at hx'
  have hsame := (List.prefix_of_prefix_length_le hx hx' (by simp)).eq_of_length (by simp)
  have hnames : name = name' := by simpa using hsame
  rw [hnames]

theorem nodup_scratchDirs (l : Layout) : l.scratchDirs.Nodup := by
  have hgoal (name : String) (hname : Path.IsName name) :
      goalOf [] (Path.join l.root name) = goalOf [] l.root ++ [name] := goalOf_join hname
  have hsource := hgoal "source_package_downloads" (by decide)
  have hbinary := hgoal "binary_package_downloads" (by decide)
  have hlog := hgoal "build_log_dir" (by decide)
  have hgit := hgoal "git_bisection_repo" (by decide)
  refine List.Nodup.of_map (goalOf []) ?_
  simp [scratchDirs, packageDirs, sourceDir, binaryDir, buildLogDir, gitDir, hgit, hsource, hbinary,
    hlog]

/-- The root can be passed, or a place that it leads out of is missing, or it leads into one of the
scratch directories first. -/
theorem root_cases (l : Layout) (here : Place) (t : Tree) : l.Passable here t ∨
    (∃ x ∈ l.rootExits here, t.entryAt? x = none) ∨
    ∃ before dir after, l.Crosses here before dir after := by
  by_cases hthere : ∃ x ∈ l.rootExits here, t.entryAt? x = none
  · exact .inr (.inl hthere)
  cases hfound : l.scratchDirs.find? fun dir => ∃ x ∈ l.rootExits here, goalOf here dir <+: x with
  | none =>
    refine .inl ⟨fun x hx habsent => hthere ⟨x, hx, habsent⟩, ?_⟩
    rintro x hx ⟨dir, hdir, hbelow⟩
    have hnone := List.find?_eq_none.1 hfound dir hdir
    exact hnone (decide_eq_true ⟨x, hx, hbelow⟩)
  | some dir =>
    obtain ⟨hcrossed, before, after, hsplit, hfirst⟩ := List.find?_eq_some_iff_append.1 hfound
    refine .inr (.inr ⟨before, dir, after, hsplit, of_decide_eq_true hcrossed, ?_⟩)
    intro other hother x hx hbelow
    have hnot := hfirst other hother
    rw [Bool.not_eq_true', decide_eq_false_iff_not] at hnot
    exact hnot ⟨x, hx, hbelow⟩

/-- The way of a passable root keeps out of the scratch directories. -/
theorem Passable.not_inside (h : l.Passable here t) (hx : x ∈ wayOf here l.root) :
    ¬ l.Inside here x := by
  rintro ⟨dir, hdir, hbelow⟩
  obtain ⟨name, hgoal⟩ := exists_goalOf here hdir
  have habove : goalOf here dir <+: goalOf here l.root := by
    rcases List.mem_append.1 hx with hstop | hend
    · refine prefix_goal_of_mem_stops hstop hbelow fun hexit => ?_
      exact h.apart _ hexit (.of_goalOf hdir)
    · rwa [← List.mem_singleton.1 hend]
  -- but the scratch directory is one name longer than the root
  have hlength := habove.length_le
  rw [hgoal, List.length_append, List.length_singleton] at hlength
  omega

/-- On the way to a scratch directory only the directory itself is inside one. -/
theorem Passable.eq_goalOf (h : l.Passable here t) (hdir : dir ∈ l.scratchDirs)
    (hway : x ∈ wayOf here dir) (hx : l.Inside here x) : x = goalOf here dir := by
  obtain ⟨name, hname, rfl⟩ := exists_name hdir
  rcases mem_wayOf_join hname hway with hroot | hgoal
  · exact absurd hx (h.not_inside hroot)
  · exact hgoal

/-- What is not inside a scratch directory is as it was, so the root can still be passed. -/
theorem Passable.of_outside (h : l.Passable here t)
    (houtside : ∀ x, ¬ l.Inside here x → t'.entryAt? x = t.entryAt? x) : l.Passable here t' where
  there x hx := by
    rw [houtside x (h.apart x hx)]
    exact h.there x hx
  apart := h.apart

/-! ## Step by step -/

section Steps

variable {W : Type} {act : String → Attempt OsError W Unit} {dirs : List String}
  {r : Except OsError Unit} {w v : W}

/-- What each step keeps, all of them keep, however they end. -/
theorem forEach_keeps {P : W → Prop}
    (keeps : ∀ dir ∈ dirs, ∀ {w v r}, (act dir).exec w = (r, v) → P w → P v)
    (h : (forEach act dirs).exec w = (r, v)) (hw : P w) : P v := by
  induction dirs generalizing w with
  | nil =>
    cases h
    exact hw
  | cons dir rest ih =>
    rw [forEach] at h
    rcases hact : (act dir).exec w with ⟨e | ⟨⟩, between⟩
    · rw [Attempt.exec_bind_error hact] at h
      cases h
      exact keeps dir List.mem_cons_self hact hw
    · rw [Attempt.exec_bind_ok hact] at h
      exact ih (fun other hother => keeps other (List.mem_cons_of_mem _ hother)) h
        (keeps dir List.mem_cons_self hact hw)

/-- What each step achieves and none undoes, all of them have achieved in the end. -/
theorem forEach_done {P : W → Prop} {Q : String → W → Prop}
    (does : ∀ dir ∈ dirs, ∀ {w v}, (act dir).exec w = (.ok (), v) → P w →
      P v ∧ Q dir v ∧ ∀ other, Q other w → Q other v)
    (h : (forEach act dirs).exec w = (.ok (), v)) (hw : P w) :
    P v ∧ (∀ dir ∈ dirs, Q dir v) ∧ ∀ other, Q other w → Q other v := by
  induction dirs generalizing w with
  | nil =>
    cases h
    exact ⟨hw, nofun, fun _ hdone => hdone⟩
  | cons dir rest ih =>
    rw [forEach] at h
    obtain ⟨⟨⟩, between, hact, hrest⟩ := Attempt.exec_bind_eq_ok h
    obtain ⟨hbetween, hdone, hkept⟩ := does dir List.mem_cons_self hact hw
    obtain ⟨hlast, hothers, hstays⟩ :=
      ih (fun other hother => does other (List.mem_cons_of_mem _ hother)) hrest hbetween
    exact ⟨hlast, List.forall_mem_cons.2 ⟨hstays dir hdone, hothers⟩,
      fun other hother => hstays other (hkept other hother)⟩

/-- What can be done to each directory can be done to all of them. -/
theorem forEach_ok {P : W → Prop}
    (does : ∀ dir ∈ dirs, ∀ w, P w → ((act dir).exec w).1 = .ok () ∧ P ((act dir).exec w).2)
    (hw : P w) : ((forEach act dirs).exec w).1 = .ok () ∧ P ((forEach act dirs).exec w).2 := by
  induction dirs generalizing w with
  | nil => exact ⟨rfl, hw⟩
  | cons dir rest ih =>
    obtain ⟨hok, hbetween⟩ := does dir List.mem_cons_self w hw
    have hdir : (act dir).exec w = (.ok (), ((act dir).exec w).2) := Prod.ext hok rfl
    rw [forEach, Attempt.exec_bind_ok hdir]
    exact ih (fun other hother => does other (List.mem_cons_of_mem _ hother)) hbetween

theorem forEach_append (act : String → Attempt OsError W Unit) (front back : List String) :
    forEach act (front ++ back) = forEach act front >>= fun _ => forEach act back := by
  induction front with
  | nil => rfl
  | cons dir rest ih =>
    rw [List.cons_append, forEach, forEach, ih, bind_assoc]

/-- They fail just as one of them does. -/
theorem forEach_error {e : OsError} (h : (forEach act dirs).exec w = (.error e, v)) :
    ∃ dir ∈ dirs, ∃ u, (act dir).exec u = (.error e, v) := by
  induction dirs generalizing w with
  | nil => cases h
  | cons dir rest ih =>
    rw [forEach] at h
    rcases hact : (act dir).exec w with ⟨e' | ⟨⟩, between⟩
    · rw [Attempt.exec_bind_error hact] at h
      cases h
      exact ⟨dir, List.mem_cons_self, w, hact⟩
    · rw [Attempt.exec_bind_ok hact] at h
      obtain ⟨other, hother, u, hfailed⟩ := ih h
      exact ⟨other, List.mem_cons_of_mem _ hother, u, hfailed⟩

end Steps

section Host

/-- In the worlds of a kind the scratch directories are removed and made in a tree of files, and the
worlds stay of this kind. -/
structure InTree (l : Layout) {W : Type} [Host W] (I : W → Prop) (tree : W → Tree)
    (place : W → Place) : Prop where
  removeTree : ∀ {w v : W} {dir : String} {result : Except OsError Unit}, I w →
    dir ∈ l.scratchDirs → Host.removeTree dir w = (result, v) →
      I v ∧ place v = place w ∧ (tree w).Removal (place w) dir result (tree v)
  makeDirectories : ∀ {w v : W} {dir : String} {result : Except OsError Unit}, I w →
    dir ∈ l.packageDirs → Host.makeDirectories dir w = (result, v) →
      I v ∧ place v = place w ∧ (tree w).Laying (place w) dir result (tree v)

variable {W : Type} [Host W] {I : W → Prop} {tree : W → Tree} {place : W → Place}
  {r : Except OsError Unit} {w v : W}

theorem inTree_of_onTree (laws : Host.OnTree W tree place) (l : Layout) :
    l.InTree (fun _ => True) tree place where
  removeTree _ _ h := ⟨trivial, laws.removeTree h⟩
  makeDirectories _ _ h := ⟨trivial, laws.makeDirectories h⟩

theorem removal_of_removeIfThere (laws : l.InTree I tree place) (hw : I w)
    (hdir : dir ∈ l.scratchDirs) (h : (removeIfThere dir).exec w = (r, v)) :
    I v ∧ place v = place w ∧ ∃ result, (tree w).Removal (place w) dir result (tree v) ∧
      (r = .ok () → result = .ok () ∨ result = .error .notFound) := by
  rcases hremove : Host.removeTree dir w with ⟨result, v'⟩
  obtain ⟨hv, hplace, hremoval⟩ := laws.removeTree hw hdir hremove
  change removeIfThere dir w = _ at h
  rw [removeIfThere, hremove] at h
  split at h
  · rename_i heq
    cases heq
    cases h
    exact ⟨hv, hplace, _, hremoval, fun _ => .inr rfl⟩
  · rename_i heq
    cases heq
    cases h
    exact ⟨hv, hplace, _, hremoval, .inl⟩

theorem cleared_of_removeIfThere (laws : l.InTree I tree place) (hw : I w)
    (hdir : dir ∈ l.scratchDirs) (h : (removeIfThere dir).exec w = (.ok (), v)) :
    I v ∧ place v = place w ∧ (tree w).Cleared (place w) dir (tree v) := by
  obtain ⟨hv, hplace, result, hremoval, hresult⟩ := removal_of_removeIfThere laws hw hdir h
  exact ⟨hv, hplace, hremoval.cleared (hresult rfl)⟩

/-! ## Teardowns -/

section Removals

variable {dirs : List String} (inside : ∀ dir ∈ dirs, dir ∈ l.scratchDirs)

include inside

/-- Removing some of the directories touches nothing that is in none of them. -/
theorem outside_of_removals (laws : l.InTree I tree place) (hw : I w)
    (h : (forEach removeIfThere dirs).exec w = (r, v)) : I v ∧ place v = place w ∧
      ∀ x, (∀ dir ∈ dirs, ¬ goalOf (place w) dir <+: x) →
        (tree v).entryAt? x = (tree w).entryAt? x := by
  refine forEach_keeps (P := fun v => I v ∧ place v = place w ∧
    ∀ x, (∀ dir ∈ dirs, ¬ goalOf (place w) dir <+: x) →
      (tree v).entryAt? x = (tree w).entryAt? x)
    (fun dir hdir v v' r hstep hv => ?_) h ⟨hw, rfl, fun _ _ => rfl⟩
  obtain ⟨hv, hplace, hsame⟩ := hv
  obtain ⟨hv', hplace', result, hremoval, -⟩ :=
    removal_of_removeIfThere laws hv (inside dir hdir) hstep
  rw [hplace] at hremoval
  refine ⟨hv', hplace'.trans hplace, fun x hx => ?_⟩
  rw [hremoval.outside (hx dir hdir)]
  exact hsame x hx

/-- Where none of the directories can be found, nothing is removed. -/
theorem same_of_removals (laws : l.InTree I tree place) (hw : I w)
    (h : (forEach removeIfThere dirs).exec w = (r, v))
    (hmissing : ∀ dir ∈ dirs, ∀ found, (tree w).find (place w) dir ≠ .ok found) :
    (tree v).Same (tree w) := by
  refine (forEach_keeps (P := fun v => I v ∧ place v = place w ∧ (tree v).Same (tree w))
    (fun dir hdir v v' r hstep hv => ?_) h ⟨hw, rfl, fun _ => rfl⟩).2.2
  obtain ⟨hv, hplace, hsame⟩ := hv
  obtain ⟨hv', hplace', result, hremoval, -⟩ :=
    removal_of_removeIfThere laws hv (inside dir hdir) hstep
  rw [hplace] at hremoval
  refine ⟨hv', hplace'.trans hplace, fun x => ?_⟩
  rw [hremoval.same fun found hfound => hmissing dir hdir found ?_, hsame]
  rw [← hsame.find]
  exact hfound

/-- While all is there that the root leads out of, what is removed is gone. -/
theorem gone_of_removals (laws : l.InTree I tree place) (hw : I w) (hground : (tree w).Grounded)
    (there : ∀ x ∈ l.rootExits (place w), (tree w).entryAt? x ≠ none)
    (apart : ∀ dir ∈ dirs, ∀ x ∈ l.rootExits (place w), ¬ goalOf (place w) dir <+: x)
    (h : (forEach removeIfThere dirs).exec w = (.ok (), v)) :
    (tree v).Grounded ∧
      ∀ dir ∈ dirs, ∀ x, goalOf (place w) dir <+: x → (tree v).entryAt? x = none := by
  refine And.imp (fun hv => hv.2.2.1) And.left (forEach_done
    (P := fun v => I v ∧ place v = place w ∧ (tree v).Grounded ∧
      ∀ x ∈ l.rootExits (place w), (tree v).entryAt? x ≠ none)
    (Q := fun dir v => ∀ x, goalOf (place w) dir <+: x → (tree v).entryAt? x = none)
    (fun dir hdir v v' hstep hv => ?_) h ⟨hw, rfl, hground, there⟩)
  obtain ⟨hv, hplace, hground, hthere⟩ := hv
  obtain ⟨hv', hplace', result, hremoval, hresult⟩ :=
    removal_of_removeIfThere laws hv (inside dir hdir) hstep
  rw [hplace] at hplace' hremoval
  have hcleared := hremoval.cleared (hresult rfl)
  have hexits : ∀ y ∈ exits (origin (place w) dir) (Path.pieces dir),
      (tree v).entryAt? y ≠ none := by
    rw [exits_scratch (inside dir hdir)]
    exact hthere
  refine ⟨⟨hv', hplace', hcleared.grounded hground, fun x hx => ?_⟩,
    fun y hy => hcleared.gone hground (ne_empty (inside dir hdir)) hexits hy,
    fun other hgone y hy => hcleared.part.absent (hgone y hy)⟩
  rw [hremoval.outside (apart dir hdir x hx)]
  exact hthere x hx

end Removals

theorem outside_of_teardown (laws : l.InTree I tree place) (hw : I w)
    (h : l.teardown.exec w = (r, v)) : I v ∧ place v = place w ∧
      ∀ x, ¬ l.Inside (place w) x → (tree v).entryAt? x = (tree w).entryAt? x := by
  obtain ⟨hv, hplace, hsame⟩ := outside_of_removals (fun _ hdir => hdir) laws hw h
  exact ⟨hv, hplace, fun x hx => hsame x fun dir hdir hbelow => hx ⟨dir, hdir, hbelow⟩⟩

theorem find_of_teardown (laws : l.InTree I tree place) (hw : I w)
    (h : l.teardown.exec w = (.ok (), v)) :
    ∀ dir ∈ l.scratchDirs, (tree v).find (place w) dir = .error .notFound := by
  refine (forEach_done (P := fun v => I v ∧ place v = place w)
    (Q := fun dir v => (tree v).find (place w) dir = .error .notFound)
    (fun dir hdir v v' hstep hv => ?_) h ⟨hw, rfl⟩).2.1
  obtain ⟨hv, hplace⟩ := hv
  obtain ⟨hv', hplace', hcleared⟩ := cleared_of_removeIfThere laws hv hdir hstep
  rw [hplace] at hplace' hcleared
  exact ⟨⟨hv', hplace'⟩, hcleared.find, fun other hmissing => hcleared.part.find_notFound hmissing⟩

/-- A teardown fails only if the system refuses; that a directory is not there is no failure. -/
theorem refused_of_teardown {e : OsError} (h : l.teardown.exec w = (.error e, v)) :
    l.RemovalRefused e v := by
  obtain ⟨dir, hdir, u, hstep⟩ := forEach_error h
  change removeIfThere dir u = _ at hstep
  rw [removeIfThere] at hstep
  split at hstep
  · cases hstep
  · rename_i result v' hpresent hremove
    cases hstep
    refine ⟨?_, dir, hdir, u, hremove⟩
    rintro rfl
    exact hpresent rfl

/-- If a place that the root leads out of is missing, no scratch directory is found. -/
theorem find_ne_ok {exit : Place} (hexit : exit ∈ l.rootExits here)
    (habsent : t.entryAt? exit = none) (hdir : dir ∈ l.scratchDirs) (found : Place × Entry) :
    t.find here dir ≠ .ok found := by
  intro hfound
  obtain ⟨-, -, hstops⟩ := Tree.find_eq_ok hfound
  rw [← exits_scratch hdir] at hexit
  rw [hstops exit (mem_stops_of_mem_exits hexit)] at habsent
  cases habsent

theorem gone_of_teardown (laws : l.InTree I tree place) (hw : I w) (hground : (tree w).Grounded)
    (hpass : l.Passable (place w) (tree w)) (h : l.teardown.exec w = (.ok (), v)) :
    ∀ x, l.Inside (place w) x → (tree v).entryAt? x = none := by
  rintro x ⟨dir, hdir, hbelow⟩
  refine (gone_of_removals (fun _ h => h) laws hw hground hpass.there ?_ h).2 dir hdir x hbelow
  exact fun dir hdir x hx hbelow => hpass.apart x hx ⟨dir, hdir, hbelow⟩

/-- Up to the directory that the root leads into everything is removed, and then nothing is found
any more. -/
theorem crossed_of_teardown (laws : l.InTree I tree place) (hw : I w) (hground : (tree w).Grounded)
    (there : ∀ x ∈ l.rootExits (place w), (tree w).entryAt? x ≠ none)
    {before after : List String} (hcross : l.Crosses (place w) before dir after)
    (h : l.teardown.exec w = (.ok (), v)) :
    (∀ other ∈ before ++ [dir], ∀ x, goalOf (place w) other <+: x → (tree v).entryAt? x = none) ∧
      ∀ other ∈ after, ∀ x, goalOf (place w) other <+: x →
        (tree v).entryAt? x = (tree w).entryAt? x := by
  obtain ⟨hsplit, ⟨exit, hexit, hbelow⟩, hfirst⟩ := hcross
  have hinside : ∀ other ∈ before ++ dir :: after, other ∈ l.scratchDirs := fun _ h => hsplit ▸ h
  have hbefore : ∀ other ∈ before, other ∈ l.scratchDirs :=
    fun other hother => hinside other (List.mem_append_left _ hother)
  have hfront : ∀ other ∈ before ++ [dir], other ∈ l.scratchDirs := fun other hother =>
    hinside other (List.append_cons before dir after ▸ List.mem_append_left after hother)
  have hafter : ∀ other ∈ after, other ∈ l.scratchDirs :=
    fun other hother => hinside other (List.mem_append_right _ (List.mem_cons_of_mem _ hother))
  have hdir := hinside dir (List.mem_append_right _ List.mem_cons_self)
  -- the teardown in three parts: the directories before, the one that is crossed, those behind
  rw [teardown, hsplit, List.append_cons, forEach_append] at h
  obtain ⟨⟨⟩, u, hu, hlast⟩ := Attempt.exec_bind_eq_ok h
  have hmiddle := hu
  rw [forEach_append] at hmiddle
  obtain ⟨⟨⟩, s, hs, hmiddle⟩ := Attempt.exec_bind_eq_ok hmiddle
  rw [forEach] at hmiddle
  obtain ⟨⟨⟩, s', hstep, hend⟩ := Attempt.exec_bind_eq_ok hmiddle
  obtain rfl : s' = u := congrArg Prod.snd hend
  obtain ⟨hIs, hplace, hsame⟩ := outside_of_removals hbefore laws hw hs
  obtain ⟨hground', hgone⟩ := gone_of_removals hbefore laws hw hground there hfirst hs
  obtain ⟨hIu, hplace', hcleared⟩ := cleared_of_removeIfThere laws hIs hdir hstep
  rw [hplace] at hplace' hcleared
  have hexits : ∀ y ∈ exits (origin (place w) dir) (Path.pieces dir),
      (tree s).entryAt? y ≠ none := by
    rw [exits_scratch hdir]
    intro y hy
    rw [hsame y fun other hother => hfirst other hother y hy]
    exact there y hy
  have hcrossed (x : Place) (hx : goalOf (place w) dir <+: x) : (tree s').entryAt? x = none :=
    hcleared.gone hground' (ne_empty hdir) hexits hx
  have hstill : (tree v).Same (tree s') := by
    refine same_of_removals hafter laws hIu hlast fun other hother found => ?_
    rw [hplace']
    exact find_ne_ok hexit (hcrossed exit hbelow) (hafter other hother) found
  refine ⟨fun other hother x hx => ?_, fun other hother x hx => ?_⟩
  · rw [hstill]
    rcases List.mem_append.1 hother with hother | hother
    · exact hcleared.part.absent (hgone other hother x hx)
    · exact hcrossed x (List.mem_singleton.1 hother ▸ hx)
  · rw [hstill]
    refine (outside_of_removals hfront laws hw hu).2.2 x fun first hfirst hinside => ?_
    -- a directory of the front stands behind it as well, which no list without repetition allows
    have heq := eq_of_inside (hfront first hfirst) (hafter other hother) hinside hx
    have hnodup := l.nodup_scratchDirs
    rw [hsplit, List.append_cons] at hnodup
    exact (List.nodup_append.1 hnodup).2.2 first hfirst other hother heq

theorem torn_of_teardown (laws : l.InTree I tree place) (hw : I w) (hground : (tree w).Grounded)
    (h : l.teardown.exec w = (r, v)) : l.Torn (place w) (tree w) r (tree v) where
  outside := (outside_of_teardown laws hw h).2.2
  missing hok := by
    subst hok
    exact find_of_teardown laws hw h
  gone hok hpass := by
    subst hok
    exact gone_of_teardown laws hw hground hpass h
  crossed hok there _ _ _ hcross := by
    subst hok
    exact crossed_of_teardown laws hw hground there hcross h

/-! ## Resets -/

/-- The second half of a reset. -/
abbrev making (l : Layout) : Attempt OsError W Unit :=
  forEach (fun dir => Attempt.step id (Host.makeDirectories dir)) l.packageDirs

/-- Where the directories can be removed and made, they can be made afresh. -/
theorem exec_reset {P : W → Prop}
    (removes : ∀ dir ∈ l.scratchDirs, ∀ w, P w →
      ((removeIfThere dir).exec w).1 = .ok () ∧ P ((removeIfThere dir).exec w).2)
    (makes : ∀ dir ∈ l.packageDirs, ∀ w, P w →
      (Host.makeDirectories dir w).1 = .ok () ∧ P (Host.makeDirectories dir w).2) (hw : P w) :
    ∃ fresh, l.reset.exec w = (.ok (), fresh) := by
  obtain ⟨hremoved, hbetween⟩ := forEach_ok removes hw
  have htorn : l.teardown.exec w = (.ok (), (l.teardown.exec w).2) := Prod.ext hremoved rfl
  have hstep : ∀ dir ∈ l.packageDirs, ∀ w, P w →
      ((Attempt.step id (Host.makeDirectories dir)).exec w).1 = .ok () ∧
        P ((Attempt.step id (Host.makeDirectories dir)).exec w).2 := by
    intro dir hdir w hw
    obtain ⟨hmade, hafter⟩ := makes dir hdir w hw
    rw [Attempt.exec_step, hmade]
    exact ⟨rfl, hafter⟩
  obtain ⟨hmade, -⟩ := forEach_ok hstep hbetween
  rw [reset, Attempt.exec_bind_ok htorn]
  exact ⟨_, Prod.ext hmade rfl⟩

theorem laying_of_step (laws : l.InTree I tree place) (hw : I w) (hdir : dir ∈ l.packageDirs)
    (h : (Attempt.step id (Host.makeDirectories dir)).exec w = (r, v)) : I v ∧ place v = place w ∧
      ∃ result, (tree w).Laying (place w) dir result (tree v) ∧ (r = .ok () → result = .ok ()) := by
  rw [Attempt.exec_step] at h
  rcases hmake : Host.makeDirectories dir w with ⟨result, v'⟩
  rw [hmake] at h
  cases h
  obtain ⟨hv, hplace, hlaying⟩ := laws.makeDirectories hw hdir hmake
  refine ⟨hv, hplace, result, hlaying, fun hok => ?_⟩
  cases result with
  | error e => cases hok
  | ok => rfl

theorem grown_of_making (laws : l.InTree I tree place) (hw : I w)
    (h : l.making.exec w = (r, v)) :
    I v ∧ (tree w).Grown (l.OnWay (place w)) (tree v) := by
  refine And.imp_right And.right (forEach_keeps (P := fun v => I v ∧ place v = place w ∧
      (tree w).Grown (l.OnWay (place w)) (tree v))
    (fun dir hdir v v' r hstep hv => ?_) h ⟨hw, rfl, .refl _ _⟩)
  obtain ⟨hv, hplace, hgrown⟩ := hv
  obtain ⟨hv', hplace', result, hlaying, -⟩ := laying_of_step laws hv hdir hstep
  rw [hplace] at hplace' hlaying
  exact ⟨hv', hplace', hgrown.trans (hlaying.grown.mono fun x _ hway => ⟨dir, hdir, hway⟩)⟩

theorem kind?_of_making (laws : l.InTree I tree place) (hw : I w)
    (h : l.making.exec w = (.ok (), v)) :
    ∀ dir ∈ l.packageDirs, (tree v).kind? (place w) dir = some .directory := by
  refine (forEach_done (P := fun v => I v ∧ place v = place w)
    (Q := fun dir v => (tree v).kind? (place w) dir = some .directory)
    (fun dir hdir v v' hstep hv => ?_) h ⟨hw, rfl⟩).2.1
  obtain ⟨hv, hplace⟩ := hv
  obtain ⟨hv', hplace', result, hlaying, hresult⟩ := laying_of_step laws hv hdir hstep
  rw [hplace] at hplace' hlaying
  refine ⟨⟨hv', hplace'⟩,
    hlaying.made (hresult rfl) (ne_empty (mem_scratchDirs_of_packageDirs hdir)),
    fun other hother => ?_⟩
  exact Tree.kind?_of_find (hlaying.grown.part.find_ok (Tree.kind?_eq_directory hother))

/-- A reset fails only if the system refuses. -/
theorem refused_of_reset {e : OsError} (h : l.reset.exec w = (.error e, v)) :
    l.RemovalRefused e v ∨ l.MakingRefused e v := by
  rw [reset] at h
  rcases htorn : l.teardown.exec w with ⟨e' | ⟨⟩, between⟩
  · rw [Attempt.exec_bind_error htorn] at h
    cases h
    exact .inl (refused_of_teardown htorn)
  · rw [Attempt.exec_bind_ok htorn] at h
    obtain ⟨dir, hdir, u, hstep⟩ := forEach_error h
    rw [Attempt.exec_step] at hstep
    rcases hmake : Host.makeDirectories dir u with ⟨e' | ⟨⟩, v'⟩
    · rw [hmake] at hstep
      cases hstep
      exact .inr ⟨dir, hdir, u, hmake⟩
    · rw [hmake] at hstep
      cases hstep

/-- A reset adds directories on its way to what a teardown has left, if it does anything more. -/
theorem torn_of_reset (laws : l.InTree I tree place) (hw : I w) (h : l.reset.exec w = (r, v)) :
    ∃ r' between, l.teardown.exec w = (r', between) ∧ (r = .ok () → r' = .ok ()) ∧ I v ∧
      (tree between).Grown (l.OnWay (place w)) (tree v) := by
  rw [reset] at h
  rcases htorn : l.teardown.exec w with ⟨e | ⟨⟩, between⟩
  · obtain ⟨hbetween, -, -⟩ := outside_of_teardown laws hw htorn
    rw [Attempt.exec_bind_error htorn] at h
    cases h
    exact ⟨_, _, rfl, nofun, hbetween, .refl _ _⟩
  · obtain ⟨hbetween, hplace, -⟩ := outside_of_teardown laws hw htorn
    rw [Attempt.exec_bind_ok htorn] at h
    obtain ⟨hv, hgrown⟩ := grown_of_making laws hbetween h
    rw [hplace] at hgrown
    exact ⟨_, _, rfl, fun _ => rfl, hv, hgrown⟩

theorem there_of_reset (laws : l.InTree I tree place) (hw : I w)
    (h : l.reset.exec w = (.ok (), v)) :
    ∀ dir ∈ l.packageDirs, (tree v).kind? (place w) dir = some .directory := by
  obtain ⟨⟨⟩, between, htorn, hmaking⟩ := Attempt.exec_bind_eq_ok h
  obtain ⟨hbetween, hplace, -⟩ := outside_of_teardown laws hw htorn
  rw [← hplace]
  exact kind?_of_making laws hbetween hmaking

/-- After a reset the directories that are made afresh are all that is in the scratch
directories. -/
theorem afresh_of_reset (laws : l.InTree I tree place) (hw : I w) (hground : (tree w).Grounded)
    (hpass : l.Passable (place w) (tree w)) (h : l.reset.exec w = (.ok (), v)) (x : Place)
    (hx : l.Inside (place w) x) : (tree v).entryAt? x =
      if x ∈ l.packageDirs.map (goalOf (place w)) then some .directory else none := by
  split
  · rename_i hmem
    obtain ⟨dir, hdir, rfl⟩ := List.mem_map.1 hmem
    have hmade := Tree.kind?_eq_directory (there_of_reset laws hw h dir hdir)
    obtain ⟨-, hthere, -⟩ := Tree.find_eq_ok hmade
    exact hthere
  · rename_i hmem
    obtain ⟨r', between, htorn, hok, -, hgrown⟩ := torn_of_reset laws hw h
    obtain rfl := hok rfl
    -- what is added is on the way to a directory, and only its end is inside
    rcases hgrown x with hsame | ⟨-, -, dir, hdir, hway⟩
    · exact hsame.trans (gone_of_teardown laws hw hground hpass htorn x hx)
    · have hgoal := hpass.eq_goalOf (mem_scratchDirs_of_packageDirs hdir) hway hx
      exact absurd (List.mem_map.2 ⟨dir, hdir, hgoal.symm⟩) hmem

/-- No directory that is made afresh stands in a scratch directory. -/
theorem not_afresh_inside {dir name : String} (hdir : dir ∈ l.scratchDirs) :
    goalOf here dir ++ [name] ∉ l.packageDirs.map (goalOf here) := by
  intro hmem
  obtain ⟨other, hother, heq⟩ := List.mem_map.1 hmem
  obtain ⟨first, hfirst⟩ := exists_goalOf here hdir
  obtain ⟨second, hsecond⟩ := exists_goalOf here (mem_scratchDirs_of_packageDirs hother)
  have hlength := congrArg List.length heq
  rw [hfirst, hsecond] at hlength
  simp at hlength

theorem not_afresh_gitDir (l : Layout) (here : Place) :
    goalOf here l.gitDir ∉ l.packageDirs.map (goalOf here) := by
  have hgoal (name : String) (hname : Path.IsName name) :
      goalOf here (Path.join l.root name) = goalOf here l.root ++ [name] := goalOf_join hname
  have hgit := hgoal "git_bisection_repo" (by decide)
  have hsource := hgoal "source_package_downloads" (by decide)
  have hbinary := hgoal "binary_package_downloads" (by decide)
  have hlog := hgoal "build_log_dir" (by decide)
  simp [packageDirs, sourceDir, binaryDir, buildLogDir, gitDir, hgit, hsource, hbinary, hlog]

/-- A path that leads into a scratch directory, and not to a directory that is made afresh, leads to
nothing after a reset. -/
theorem kind?_of_reset (laws : l.InTree I tree place) (hw : I w) (hground : (tree w).Grounded)
    (hpass : l.Passable (place w) (tree w)) (h : l.reset.exec w = (.ok (), v)) {path : String}
    (hinside : l.Inside (place w) (goalOf (place w) path))
    (hafresh : goalOf (place w) path ∉ l.packageDirs.map (goalOf (place w))) :
    (tree v).kind? (place w) path = none :=
  Tree.kind?_eq_none ((afresh_of_reset laws hw hground hpass h _ hinside).trans (if_neg hafresh))

theorem refreshed_of_reset (laws : l.InTree I tree place) (hw : I w) (hground : (tree w).Grounded)
    (h : l.reset.exec w = (r, v)) : l.Refreshed (place w) (tree w) r (tree v) where
  outside x hx := by
    obtain ⟨r', between, htorn, -, -, hgrown⟩ := torn_of_reset laws hw h
    have hchange := hgrown x
    rwa [(outside_of_teardown laws hw htorn).2.2 x hx] at hchange
  above hpass x hx hchanged := by
    obtain ⟨r', between, htorn, -, -, hgrown⟩ := torn_of_reset laws hw h
    have hsame := (outside_of_teardown laws hw htorn).2.2
    rcases hgrown x with hkept | ⟨habsent, -, dir, hdir, hway⟩
    · exact absurd (hkept.trans (hsame x hx)) hchanged
    · refine ⟨dir, hdir, Tree.prefix_goalOf_of_absent hway habsent ?_⟩
      rw [exits_scratch (mem_scratchDirs_of_packageDirs hdir)]
      exact (hpass.of_outside hsame).there
  there hok dir hdir := by
    subst hok
    exact there_of_reset laws hw h dir hdir
  empty hok hpass dir hdir := by
    subst hok
    have hscratch := mem_scratchDirs_of_packageDirs hdir
    refine Tree.list_eq_nil (there_of_reset laws hw h dir hdir) fun name => ?_
    have hinside : l.Inside (place w) (goalOf (place w) dir ++ [name]) :=
      ⟨dir, hscratch, List.prefix_append _ _⟩
    exact (afresh_of_reset laws hw hground hpass h _ hinside).trans
      (if_neg (not_afresh_inside hscratch))
  missing hok hpass dir hdir := by
    subst hok
    simp only [List.mem_cons, List.not_mem_nil, or_false] at hdir
    rcases hdir with rfl | rfl
    · have hbinary : l.binaryDir ∈ l.scratchDirs := by simp [scratchDirs, packageDirs]
      have hgoal : goalOf (place w) l.extractionDir =
          goalOf (place w) l.binaryDir ++ ["extraction_root"] :=
        goalOf_join (by decide)
      refine kind?_of_reset laws hw hground hpass h ?_ ?_
      · exact ⟨l.binaryDir, hbinary, hgoal ▸ List.prefix_append _ _⟩
      · rw [hgoal]
        exact not_afresh_inside hbinary
    · exact kind?_of_reset laws hw hground hpass h (.of_goalOf (by simp [scratchDirs]))
        (not_afresh_gitDir l (place w))
  kept hcut x entry hthere := by
    obtain ⟨exit, hexit, habsent⟩ := hcut
    obtain ⟨r', between, htorn, -, -, hgrown⟩ := torn_of_reset laws hw h
    have hsame := same_of_removals (fun _ h => h) laws hw htorn fun dir hdir =>
      find_ne_ok hexit habsent hdir
    exact hgrown.part.present ((hsame x).trans hthere)
  crossed hok there before dir after hcross := by
    obtain ⟨r', between, htorn, hok', -, hgrown⟩ := torn_of_reset laws hw h
    obtain rfl := hok' hok
    obtain ⟨hgone, hkept⟩ := crossed_of_teardown laws hw hground there hcross htorn
    refine ⟨fun other hother x hx => ?_, fun other hother x entry hx hthere => ?_⟩
    · rcases hgrown x with hsame | ⟨-, hmade, hway⟩
      · exact .inl (hsame.trans (hgone other hother x hx))
      · exact .inr ⟨hmade, hway⟩
    · exact hgrown.part.present ((hkept other hother x hx).trans hthere)

/-- **What a teardown and a reset do to the files, for every root and whatever they come to.** All
that is outside the scratch directories stays as it is, but for directories that a reset makes on
its way. A teardown that succeeds leaves nothing to find there, and another one changes nothing.
Either fails only if the system refuses to remove what is there or to make a directory.

If the root can be passed, nothing is left in the scratch directories: a reset makes empty
directories, whatever was in them before. If it cannot, since a place that it leads out of is
missing, everything is kept. And if a place that it leads out of is in a scratch directory, then
this one is emptied and those before it, and what is in those behind it is kept. There is no other
root (`root_cases`). -/
theorem reset_teardown (laws : Host.OnTree W tree place) (l : Layout) {w : W}
    (hground : (tree w).Grounded) :
    (∀ r v, l.teardown.exec w = (r, v) → l.Torn (place w) (tree w) r (tree v) ∧
      (∀ e, r = .error e → l.RemovalRefused e v) ∧
      (r = .ok () → ∀ r' v', l.teardown.exec v = (r', v') → (tree v').Same (tree v))) ∧
    (∀ r v, l.reset.exec w = (r, v) → l.Refreshed (place w) (tree w) r (tree v) ∧
      ∀ e, r = .error e → l.RemovalRefused e v ∨ l.MakingRefused e v) ∧
    ∀ w' v v', l.Passable (place w) (tree w) → place w' = place w → (tree w').Grounded →
      (∀ x, ¬ l.Inside (place w) x → (tree w').entryAt? x = (tree w).entryAt? x) →
      l.reset.exec w = (.ok (), v) → l.reset.exec w' = (.ok (), v') →
      ∀ x, l.Inside (place w) x → (tree v').entryAt? x = (tree v).entryAt? x := by
  have laws := inTree_of_onTree laws l
  refine ⟨fun r v h => ⟨torn_of_teardown laws trivial hground h, ?_, ?_⟩,
    fun r v h => ⟨refreshed_of_reset laws trivial hground h, ?_⟩, ?_⟩
  · rintro e rfl
    exact refused_of_teardown h
  · rintro rfl r' v' hagain
    refine same_of_removals (fun _ h => h) laws trivial hagain fun dir hdir found hfound => ?_
    rw [(outside_of_teardown laws trivial h).2.1, find_of_teardown laws trivial h dir hdir]
      at hfound
    cases hfound
  · rintro e rfl
    exact refused_of_reset h
  · intro w' v v' hpass hplace hground' houtside h h' x hx
    rw [afresh_of_reset laws trivial hground hpass h x hx]
    rw [← hplace] at hpass houtside hx ⊢
    exact afresh_of_reset laws trivial hground' (hpass.of_outside houtside) h' x hx

end Host

/-! ## A root that leads through another place -/

/-- A file is left over from an earlier package, and besides there are directories of these
names. -/
def leftOver (besides : List String) : World where
  tree := ⟨[(["scratch"], .directory), (["scratch", "binary_package_downloads"], .directory),
    (["scratch", "binary_package_downloads", "old.deb"], .file ByteArray.empty false)] ++
      besides.map fun name => ([name], .directory)⟩

theorem leftOver_grounded (besides : List String) : (leftOver besides).tree.Grounded := by
  refine Tree.grounded_of_entries fun e he => ?_
  rcases List.mem_append.1 he with he | he
  · simp only [List.mem_cons, List.not_mem_nil, or_false] at he
    rcases he with rfl | rfl | rfl <;> rfl
  · obtain ⟨name, -, rfl⟩ := List.mem_map.1 he
    rfl

def roundabout : Layout := ⟨"/build/../scratch"⟩

theorem binaryDir_mem (l : Layout) : l.binaryDir ∈ l.packageDirs := by simp [packageDirs]

theorem reset_teardown_roundabout : Host.OnTree World World.tree World.here ∧
    (leftOver ["build"]).tree.Grounded ∧ roundabout.Passable [] (leftOver ["build"]).tree ∧
    (roundabout.reset.exec (leftOver ["build"])).1 = .ok () ∧
    (roundabout.reset.exec (leftOver ["build"])).2.tree.list [] roundabout.binaryDir = .ok [] := by
  have hexits : roundabout.rootExits [] = [["build"]] := by decide +kernel
  have hpass : roundabout.Passable [] (leftOver ["build"]).tree := by
    constructor
    · rw [hexits]
      intro x hx
      rw [List.mem_singleton.1 hx]
      nofun
    · rw [hexits]
      decide +kernel
  have hok : (roundabout.reset.exec (leftOver ["build"])).1 = .ok () := by decide +kernel
  refine ⟨World.onTree, leftOver_grounded _, hpass, hok, ?_⟩
  obtain ⟨-, hreset, -⟩ := reset_teardown World.onTree roundabout (leftOver_grounded ["build"])
  rcases hrun : roundabout.reset.exec (leftOver ["build"]) with ⟨r, v⟩
  rw [hrun] at hok
  exact (hreset r v hrun).1.empty hok hpass _ (binaryDir_mem roundabout)

/-- A reset that succeeds need not leave empty directories: the place that the root leads through is
not there before, and what is left over is. -/
theorem reset_not_empty : ¬ ∀ (l : Layout) (w v : World), w.tree.Grounded →
    l.reset.exec w = (.ok (), v) → ∀ dir ∈ l.packageDirs, v.tree.list w.here dir = .ok [] := by
  intro hempty
  obtain ⟨hok, hleft⟩ : (roundabout.reset.exec (leftOver [])).1 = .ok () ∧
      (roundabout.reset.exec (leftOver [])).2.tree.list [] roundabout.binaryDir =
        .ok ["old.deb"] := by
    decide +kernel
  rcases hrun : roundabout.reset.exec (leftOver []) with ⟨r, v⟩
  rw [hrun] at hok hleft
  obtain rfl : r = .ok () := hok
  have hnone := hempty roundabout (leftOver []) v (leftOver_grounded []) hrun _
    (binaryDir_mem roundabout)
  cases hleft.symm.trans hnone

end Layout

end FeatureSurvey
