import FeatureSurvey.Batch.Run
import FeatureSurvey.Proofs.Batch.ScratchHost

/-!
# `Proofs/Batch/Turns.lean` — the turns of a batch

A batch gives one package after another its turn. A `Turn` begins with fresh directories and ends
with their removal, and what becomes of the package in between does not matter to either. The next
turn begins in the world that the last one left, so that nothing stands between two turns
(`Batch.Turns`).

How many turns there are depends on how they end, as packages that give no record do not count
(`Sufficient`). **A batch gives the turns that it takes to have the records it wants, and hands back
the records of these turns** (`Batch.run_turns`). It fails only where the directories cannot be
made, or where a package ends in a fatal failure, and then it is over at once (`Batch.Ends`).
-/

set_option autoImplicit false

namespace FeatureSurvey

/-- A package that had its turn, and what became of it. -/
structure Turn (W : Type) where
  package : PackageInfo
  /-- The world in which it was processed. -/
  fresh : W
  outcome : Except Failure PackageRecord

namespace Turn

variable {W : Type}

/-- The records of turns, in their order. -/
def records (turns : List (Turn W)) : List PackageRecord :=
  turns.filterMap fun turn => turn.outcome.toOption

@[simp] theorem records_nil : records ([] : List (Turn W)) = [] := rfl

theorem records_cons_ok {turn : Turn W} {record : PackageRecord} (h : turn.outcome = .ok record)
    (turns : List (Turn W)) : records (turn :: turns) = record :: records turns := by
  simp [records, h, Except.toOption]

theorem records_cons_error {turn : Turn W} {e : Failure} (h : turn.outcome = .error e)
    (turns : List (Turn W)) : records (turn :: turns) = records turns := by
  simp [records, h, Except.toOption]

/-- The turn leads from one world to another. The directories are made before the package is
processed, and they are removed behind it, however that ends and however far the removal comes. -/
structure Leads [Host W] (b : Batch W) (turn : Turn W) (before after : W) : Prop where
  reset : b.layout.reset.exec before = (.ok (), turn.fresh)
  process : ((b.process turn.package).exec turn.fresh).1 = turn.outcome
  ordinary : ∀ e, turn.outcome = .error e → isFatal e = false
  teardown : (b.layout.teardown.exec ((b.process turn.package).exec turn.fresh).2).2 = after

end Turn

open Turn (records)

/-- As many turns from the front of the list as it takes to have the records that are wanted; if
they cannot be had, a turn for each package. -/
structure Sufficient {W : Type} (wanted : Option Nat) (packages : List PackageInfo)
    (turns : List (Turn W)) : Prop where
  inOrder : turns.map Turn.package <+: packages
  enough : turns.map Turn.package = packages ∨ wanted = some (records turns).length
  /-- Fewer turns would not have been enough. -/
  least : ∀ n, wanted = some n → ∀ k < turns.length, (records (turns.take k)).length < n

namespace Sufficient

variable {W : Type} {wanted : Option Nat} {packages : List PackageInfo} {turns : List (Turn W)}

theorem none_wanted : Sufficient (some 0) packages ([] : List (Turn W)) where
  inOrder := List.nil_prefix
  enough := .inr rfl
  least _ _ _ hk := absurd hk (Nat.not_lt_zero _)

theorem no_packages : Sufficient wanted [] ([] : List (Turn W)) where
  inOrder := List.nil_prefix
  enough := .inl rfl
  least _ _ _ hk := absurd hk (Nat.not_lt_zero _)

/-- A turn without a record leaves as many records to be had as before. -/
theorem cons_error {turn : Turn W} {e : Failure} (h : turn.outcome = .error e)
    (positive : wanted ≠ some 0) (hrest : Sufficient wanted packages turns) :
    Sufficient wanted (turn.package :: packages) (turn :: turns) where
  inOrder := (List.prefix_cons_inj _).2 hrest.inOrder
  enough := by
    rw [Turn.records_cons_error h]
    exact hrest.enough.imp_left fun heq => by rw [List.map_cons, heq]
  least n hn k hk := by
    cases k with
    | zero =>
      rw [List.take_zero, Turn.records_nil]
      exact Nat.pos_of_ne_zero fun h0 => positive (h0 ▸ hn)
    | succ k =>
      rw [List.take_succ_cons, Turn.records_cons_error h]
      exact hrest.least n hn k (Nat.lt_of_succ_lt_succ hk)

/-- A turn with a record leaves one record less to be had. -/
theorem cons_ok {turn : Turn W} {record : PackageRecord} (h : turn.outcome = .ok record)
    (positive : wanted ≠ some 0) (hrest : Sufficient (wanted.map (· - 1)) packages turns) :
    Sufficient wanted (turn.package :: packages) (turn :: turns) where
  inOrder := (List.prefix_cons_inj _).2 hrest.inOrder
  enough := by
    rw [Turn.records_cons_ok h, List.length_cons]
    refine hrest.enough.imp (fun heq => by rw [List.map_cons, heq]) fun heq => ?_
    obtain ⟨n, rfl, hn⟩ := Option.map_eq_some_iff.1 heq
    have hpositive : n ≠ 0 := fun h0 => positive (congrArg some h0)
    rw [← hn, Nat.sub_add_cancel (Nat.pos_of_ne_zero hpositive)]
  least n hn k hk := by
    subst hn
    have hpositive : 0 < n := Nat.pos_of_ne_zero fun h0 => positive (congrArg some h0)
    cases k with
    | zero => exact hpositive
    | succ k =>
      rw [List.take_succ_cons, Turn.records_cons_ok h, List.length_cons]
      have hless := hrest.least (n - 1) rfl k (Nat.lt_of_succ_lt_succ hk)
      omega

/-- One more turn brings one more record at most. -/
theorem length_records_concat (turns : List (Turn W)) (turn : Turn W) :
    (records (turns ++ [turn])).length ≤ (records turns).length + 1 := by
  rw [records, List.filterMap_append, List.length_append]
  exact Nat.add_le_add_left (List.length_filterMap_le _ _) _

theorem length_records_le (h : Sufficient wanted packages turns) {n : Nat}
    (hn : wanted = some n) : (records turns).length ≤ n := by
  rcases List.eq_nil_or_concat turns with rfl | ⟨before, last, rfl⟩
  · exact Nat.zero_le n
  · -- all but the last turn have less than is wanted
    have hbefore := h.least n hn before.length (by simp)
    rw [List.concat_eq_append, List.take_left] at hbefore
    have hlast := length_records_concat before last
    rw [List.concat_eq_append]
    omega

theorem eq_nil_of_none_wanted (h : Sufficient (some 0) packages turns) : turns = [] := by
  cases turns with
  | nil => rfl
  | cons turn turns => exact absurd (h.least 0 rfl 0 (Nat.succ_pos _)) (Nat.not_lt_zero _)

theorem eq_nil_of_no_packages (h : Sufficient wanted [] turns) : turns = [] :=
  List.map_eq_nil_iff.1 (List.prefix_nil.1 h.inOrder)

end Sufficient

namespace Batch

variable {W : Type} [Host W] {b : Batch W} {w : W}

/-- The turns of a batch, from the first world to the last. -/
inductive Turns (b : Batch W) : W → List (Turn W) → W → Prop
  | none {w : W} : Turns b w [] w
  | turn {w between last : W} {turn : Turn W} {turns : List (Turn W)}
      (h : turn.Leads b w between) (hrest : Turns b between turns last) :
      Turns b w (turn :: turns) last

/-- The next package ends the batch. It was processed like any other, but its failure is fatal: the
world is left as it is, and no other package has its turn. -/
structure Halts (b : Batch W) (wanted : Option Nat) (packages : List PackageInfo)
    (turns : List (Turn W)) (last : W) (next : PackageInfo) (e : Failure) (w : W) : Prop where
  inOrder : ∃ rest, turns.map Turn.package ++ next :: rest = packages
  wanting : ∀ n, wanted = some n → (records turns).length < n
  process : ∃ fresh, b.layout.reset.exec last = (.ok (), fresh) ∧
    (b.process next).exec fresh = (.error e, w)
  fatal : isFatal e = true

/-- How a batch ends, behind its turns: with their records, before a turn for which the directories
cannot be made, or with a fatal failure. -/
inductive Ends (b : Batch W) (wanted : Option Nat) (packages : List PackageInfo)
    (turns : List (Turn W)) (last : W) : Except Failure (List PackageRecord) × W → Prop
  | finished (h : Sufficient wanted packages turns) :
      Ends b wanted packages turns last (.ok (records turns), last)
  | stopped {next : PackageInfo} {rest : List PackageInfo} {e : OsError} {w : W}
      (hpackages : turns.map Turn.package ++ next :: rest = packages)
      (hwanted : ∀ n, wanted = some n → (records turns).length < n)
      (hreset : b.layout.reset.exec last = (.error e, w)) :
      Ends b wanted packages turns last
        (.error ⟨[s!"Failed to prepare scratch directories under {b.layout.root}"], .os e⟩, w)
  | halted {next : PackageInfo} {e : Failure} {w : W}
      (h : b.Halts wanted packages turns last next e w) :
      Ends b wanted packages turns last (.error e, w)

/-! ## One turn -/

theorem processFresh_stopped {w' : W} {e : OsError}
    (h : b.layout.reset.exec w = (.error e, w')) (info : PackageInfo) :
    (b.processFresh info).exec w =
      (.error ⟨[s!"Failed to prepare scratch directories under {b.layout.root}"], .os e⟩, w') := by
  refine Attempt.exec_bind_error ?_
  rw [Task.within, Attempt.exec_mapFailure, Attempt.exec_mapFailure, h]
  rfl

theorem processFresh_eq {fresh : W} (h : b.layout.reset.exec w = (.ok (), fresh))
    (info : PackageInfo) : (b.processFresh info).exec w =
      ((b.process info).caught >>= fun record =>
        Attempt.always b.layout.teardown.outcome >>= fun _ => pure record).exec fresh := by
  refine Attempt.exec_bind_ok (a := ()) ?_
  rw [Task.within, Attempt.exec_mapFailure, Attempt.exec_mapFailure, h]
  rfl

/-- With fresh directories a package has its turn, unless it ends in a fatal failure. -/
theorem processFresh_turn {fresh : W} (h : b.layout.reset.exec w = (.ok (), fresh))
    (info : PackageInfo) :
    (∃ (turn : Turn W) (after : W), turn.Leads b w after ∧ turn.package = info ∧
      (b.processFresh info).exec w = (.ok turn.outcome, after)) ∨
    ∃ e v, (b.process info).exec fresh = (.error e, v) ∧ isFatal e = true ∧
      (b.processFresh info).exec w = (.error e, v) := by
  rw [processFresh_eq h]
  rcases hprocess : (b.process info).exec fresh with ⟨outcome, v⟩
  have turn (hordinary : ∀ e, outcome = .error e → isFatal e = false) :
      ∃ (turn : Turn W) (after : W), turn.Leads b w after ∧ turn.package = info ∧
        ((b.process info).caught >>= fun record =>
          Attempt.always b.layout.teardown.outcome >>= fun _ => pure record).exec fresh =
            (.ok turn.outcome, after) := by
    have hcaught : (b.process info).caught.exec fresh = (.ok outcome, v) := by
      rw [Attempt.exec_caught, hprocess, Attempt.unlessFatal_eq_ok hordinary]
    refine ⟨⟨info, fresh, outcome⟩, (b.layout.teardown.exec v).2, ⟨h, ?_, hordinary, ?_⟩, rfl, ?_⟩
    · exact congrArg Prod.fst hprocess
    · rw [hprocess]
    · exact Attempt.exec_bind_ok hcaught
  rcases outcome with e | record
  · by_cases hfatal : isFatal e = true
    · refine .inr ⟨e, v, rfl, hfatal, Attempt.exec_bind_error ?_⟩
      rw [Attempt.exec_caught, hprocess, Attempt.unlessFatal, if_pos hfatal]
    · refine .inl (turn fun e' he' => ?_)
      cases he'
      exact Bool.eq_false_iff.2 hfatal
  · refine .inl (turn fun e he => ?_)
    cases he

theorem processAll_cons {wanted : Option Nat} (positive : wanted ≠ some 0) (info : PackageInfo)
    (rest : List PackageInfo) : b.processAll wanted (info :: rest) = (do
      match ← b.processFresh info with
      | .ok record => return record :: (← b.processAll (wanted.map (· - 1)) rest)
      | .error _ => b.processAll wanted rest) := by
  rcases wanted with _ | _ | n
  · rfl
  · exact absurd rfl positive
  · rfl

/-! ## All turns -/

/-- A turn without a record stands in front of a batch. -/
theorem Ends.cons_error {wanted : Option Nat} {packages : List PackageInfo}
    {turns : List (Turn W)} {last : W} {result : Except Failure (List PackageRecord) × W}
    (h : b.Ends wanted packages turns last result) {turn : Turn W} {e : Failure}
    (houtcome : turn.outcome = .error e) (positive : wanted ≠ some 0) :
    b.Ends wanted (turn.package :: packages) (turn :: turns) last result := by
  cases h with
  | finished h =>
    rw [← Turn.records_cons_error houtcome]
    exact .finished (h.cons_error houtcome positive)
  | stopped hpackages hwanted hstuck =>
    refine .stopped (congrArg (turn.package :: ·) hpackages) ?_ hstuck
    rw [Turn.records_cons_error houtcome]
    exact hwanted
  | halted h =>
    obtain ⟨rest, hrest⟩ := h.inOrder
    refine .halted ⟨⟨rest, congrArg (turn.package :: ·) hrest⟩, ?_, h.process, h.fatal⟩
    rw [Turn.records_cons_error houtcome]
    exact h.wanting

/-- A turn with a record stands in front of a batch that wants one record less. -/
theorem Ends.cons_ok {wanted : Option Nat} {packages rest : List PackageInfo}
    {turns : List (Turn W)} {between last : W}
    (h : b.Ends (wanted.map (· - 1)) packages turns last
      ((b.processAll (wanted.map (· - 1)) rest).exec between))
    {turn : Turn W} {record : PackageRecord} (houtcome : turn.outcome = .ok record)
    (positive : wanted ≠ some 0) :
    b.Ends wanted (turn.package :: packages) (turn :: turns) last
      ((do return record :: (← b.processAll (wanted.map (· - 1)) rest) :
        Task W (List PackageRecord)).exec between) := by
  have hwanting (hless : ∀ n, wanted.map (· - 1) = some n → (records turns).length < n) (n : Nat)
      (hn : wanted = some n) : (records (turn :: turns)).length < n := by
    have hrest := hless (n - 1) (by rw [hn]; rfl)
    rw [Turn.records_cons_ok houtcome, List.length_cons]
    omega
  generalize hexec : (b.processAll (wanted.map (· - 1)) rest).exec between = result at h
  cases h with
  | finished h =>
    rw [Attempt.exec_bind_ok hexec, Attempt.exec_pure, ← Turn.records_cons_ok houtcome]
    exact .finished (h.cons_ok houtcome positive)
  | stopped hpackages hwanted hstuck =>
    rw [Attempt.exec_bind_error hexec]
    exact .stopped (congrArg (turn.package :: ·) hpackages) (hwanting hwanted) hstuck
  | halted h =>
    rw [Attempt.exec_bind_error hexec]
    obtain ⟨after, hafter⟩ := h.inOrder
    exact .halted ⟨⟨after, congrArg (turn.package :: ·) hafter⟩, hwanting h.wanting, h.process,
      h.fatal⟩

/-- The batch gives its turns, and ends in one of three ways. -/
theorem processAll_turns (wanted : Option Nat) (packages : List PackageInfo) (w : W) :
    ∃ turns last, b.Turns w turns last ∧
      b.Ends wanted packages turns last ((b.processAll wanted packages).exec w) := by
  induction packages generalizing wanted w with
  | nil =>
    refine ⟨[], w, .none, ?_⟩
    have hdone : b.processAll wanted [] = pure [] := by
      rcases wanted with _ | _ | n <;> rfl
    rw [hdone]
    exact .finished .no_packages
  | cons info rest ih =>
    by_cases hzero : wanted = some 0
    · subst hzero
      exact ⟨[], w, .none, .finished .none_wanted⟩
    have hpositive : ∀ n, wanted = some n → 0 < n := fun n hn =>
      Nat.pos_of_ne_zero fun h0 => hzero (h0 ▸ hn)
    rcases hreset : b.layout.reset.exec w with ⟨e | ⟨⟩, fresh⟩
    · -- no directories, so the package has no turn
      refine ⟨[], w, .none, ?_⟩
      rw [processAll_cons hzero, Attempt.exec_bind_error (processFresh_stopped hreset info)]
      exact .stopped rfl hpositive hreset
    rcases processFresh_turn hreset info with
      ⟨turn, between, hturn, rfl, hfresh⟩ | ⟨e, v, hprocess, hfatal, hfresh⟩
    · rw [processAll_cons hzero, Attempt.exec_bind_ok hfresh]
      rcases houtcome : turn.outcome with e | record
      · obtain ⟨turns, last, hturns, hends⟩ := ih wanted between
        refine ⟨turn :: turns, last, .turn hturn hturns, ?_⟩
        exact hends.cons_error houtcome hzero
      · obtain ⟨turns, last, hturns, hends⟩ := ih (wanted.map (· - 1)) between
        refine ⟨turn :: turns, last, .turn hturn hturns, ?_⟩
        exact hends.cons_ok houtcome hzero
    · -- the package ends the batch, and has no turn either
      refine ⟨[], w, .none, ?_⟩
      rw [processAll_cons hzero, Attempt.exec_bind_error hfresh]
      exact .halted ⟨⟨rest, rfl⟩, hpositive, ⟨fresh, hreset, hprocess⟩, hfatal⟩

/-- **A batch whose directories can be made gives the turns it takes.**

It hands back the records of these turns, and there are never more of them than were wanted. Only a
package that ends in a fatal failure keeps it from that: then the turns are those of the packages
before it, and they were not enough yet. -/
theorem run_turns (resets : ∀ turns last, b.Turns w turns last →
      ∃ fresh, b.layout.reset.exec last = (.ok (), fresh)) (packages : List PackageInfo) :
    ∃ turns last, b.Turns w turns last ∧
      ((b.run packages).exec w = (.ok (records turns), last) ∧
        Sufficient b.options.count (packages.drop b.options.startOffset) turns ∧
        (∀ n, b.options.count = some n → (records turns).length ≤ n) ∧
        (b.options.count = some 0 ∨ packages.length ≤ b.options.startOffset → turns = []) ∨
      ∃ next e v, (b.run packages).exec w = (.error e, v) ∧
        b.Halts b.options.count (packages.drop b.options.startOffset) turns last next e v) := by
  obtain ⟨turns, last, hturns, hends⟩ := processAll_turns (b := b) b.options.count
    (packages.drop b.options.startOffset) w
  refine ⟨turns, last, hturns, ?_⟩
  rw [run]
  generalize (b.processAll b.options.count (packages.drop b.options.startOffset)).exec w = result
    at hends
  cases hends with
  | finished h =>
    refine .inl ⟨rfl, h, fun n hn => h.length_records_le hn, ?_⟩
    rintro (hzero | hpast)
    · rw [hzero] at h
      exact h.eq_nil_of_none_wanted
    · rw [List.drop_eq_nil_of_le hpast] at h
      exact h.eq_nil_of_no_packages
  | stopped _ _ hstuck =>
    obtain ⟨fresh, hreset⟩ := resets turns last hturns
    cases hreset.symm.trans hstuck
  | halted h => exact .inr ⟨_, _, _, rfl, h⟩

/-- Everything can be fetched but one package, whose fetching leaves something behind. -/
def shelfTool (l : Layout) : ScratchTool l := fun command scratch =>
  match command.arguments, command.directory with
  | ["missing"], some dir => (.exited ⟨some 1, "", "not found"⟩, scratch.fill dir ["missing.part"])
  | [name], some dir => (.exited ⟨some 0, "", ""⟩, scratch.fill dir [name])
  | _, _ => (.notStarted .notFound, scratch)

/-- A batch that passes one package over and wants one record. -/
def shelf : Batch (ScratchHost ⟨"scratch"⟩ (shelfTool ⟨"scratch"⟩)) where
  configs := ⟨{}, {}, {}, {}⟩
  bisection := {}
  kinds := .empty
  layout := ⟨"scratch"⟩
  provider := ScratchHost.provider
  options := { startOffset := 1, count := some 1 }
  git := "git"

def shelfPackages : List PackageInfo :=
  ["first", "missing", "wanted", "never"].map fun name =>
    { name, rank := 0, source := name, version := "1" }

theorem run_turns_shelf :
    (∀ turns last, shelf.Turns {} turns last →
      ∃ fresh, shelf.layout.reset.exec last = (.ok (), fresh)) ∧
    (∃ turns last, shelf.Turns {} turns last ∧
      ((shelf.run shelfPackages).exec {} = (.ok (records turns), last) ∧
        Sufficient (some 1) (shelfPackages.drop 1) turns ∧
        (∀ n, some 1 = some n → (records turns).length ≤ n) ∧
        (some 1 = some 0 ∨ shelfPackages.length ≤ 1 → turns = []) ∨
      ∃ next e v, (shelf.run shelfPackages).exec {} = (.error e, v) ∧
        shelf.Halts (some 1) (shelfPackages.drop 1) turns last next e v)) ∧
    ((shelf.run shelfPackages).exec {}).1.toOption.map (·.map (·.name)) = some ["wanted"] := by
  have hresets (turns : List (Turn (ScratchHost ⟨"scratch"⟩ (shelfTool ⟨"scratch"⟩)))) (last)
      (_ : shelf.Turns {} turns last) : ∃ fresh, shelf.layout.reset.exec last = (.ok (), fresh) :=
    ScratchHost.exec_reset last
  exact ⟨hresets, run_turns hresets shelfPackages, by decide +kernel⟩

end Batch

end FeatureSurvey
