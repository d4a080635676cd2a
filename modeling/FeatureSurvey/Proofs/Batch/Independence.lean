import FeatureSurvey.Json.Printer
import FeatureSurvey.Proofs.Batch.TreeHost
import FeatureSurvey.Proofs.Batch.Sessions
import FeatureSurvey.Proofs.Batch.Turns
import FeatureSurvey.Proofs.Bisect.SameAnswer
import FeatureSurvey.Proofs.Git.Failing

/-!
# `Proofs/Batch/Independence.lean` — packages do not influence each other

Everything that a batch does for a package, it does in its scratch directories, and these are made
afresh before. So if they are empty then, what becomes of a package is a matter of the package. It
is the same at any place of any list, whatever the packages before it left behind and however they
ended, and the same as if there were no other package (`Batch.run_independent`).

For this a batch has to be `Confined`: its host keeps to the laws of a view, and providers and
detectors keep to what they can see there. Nothing is asked about what they do, but that they end in
nothing fatal. The records are compared up to the time at which they were collected.

That the scratch directories can be made afresh is not enough. The root has to be one that can be
passed (`Layout.Passable`). **Under a root that leads into a scratch directory and out of it again,
a package gets what an earlier one has left** (`Batch.run_dependent`).
-/

set_option autoImplicit false

namespace FeatureSurvey

open HostView
open Sandbox (Place Tree Entry goalOf)

/-! ## Working trees -/

namespace WorkTree

variable {W : Type} [Host W] {l : Layout} {V : HostView W l} {t : WorkTree}

section Commands

variable (laws : V.Laws) (limit : V.Limit t.timeout)

include laws limit

theorem run_same (arguments : List String) :
    Attempt.Matches V.Same NeitherFatal Eq (t.run arguments : Job W String) (t.run arguments) :=
  runChecked_matches laws limit (.inl rfl) (.inl rfl) rfl

theorem runForLine_same (arguments : List String) :
    Attempt.Matches V.Same NeitherFatal Eq (t.runForLine arguments : Job W String)
      (t.runForLine arguments) := by
  refine (run_same laws limit arguments).bind_eq fun stdout => ?_
  exact .ofExcept_self fun e he => isFatal_of_oneLine he

theorem rootCommit_same (revision : String) :
    Attempt.Matches V.Same NeitherFatal Eq (t.rootCommit revision : Job W String)
      (t.rootCommit revision) := by
  refine (run_same laws limit _).bind_eq fun stdout => ?_
  cases (Text.lines stdout).getLast? with
  | some line => exact .pure rfl
  | none => exact .fail ⟨rfl, rfl⟩

theorem currentRef_same :
    Attempt.Matches V.Same NeitherFatal Eq (t.currentRef : Job W String) t.currentRef := by
  refine (run_same laws limit _).caught.bind ?_
  rintro _ _ (@⟨stdout, _, rfl⟩ | _)
  · dsimp only
    split
    · exact runForLine_same laws limit _
    · exact .pure rfl
  · exact runForLine_same laws limit _

theorem isAncestor_same (ancestor descendant : String) :
    Attempt.Matches V.Same NeitherFatal Eq (t.isAncestor ancestor descendant : Job W Bool)
      (t.isAncestor ancestor descendant) := by
  refine (run_matches laws limit (.inl rfl) (.inl rfl) rfl).bind_eq fun output => ?_
  split
  · exact .pure rfl
  · split
    · exact .pure rfl
    · exact .fail ⟨rfl, rfl⟩

theorem firstParentRange_same (old new : String) :
    Attempt.Matches V.Same NeitherFatal Eq (t.firstParentRange old new : Job W (List String))
      (t.firstParentRange old new) := by
  refine (runForLine_same laws limit _).bind_eq fun first => ?_
  refine (runForLine_same laws limit _).bind_eq fun last => ?_
  refine (isAncestor_same laws limit first last).bind_eq fun related => ?_
  have hlist : Attempt.Matches V.Same NeitherFatal Eq (do
      let stdout ← t.run ["rev-list", "--first-parent", "--reverse", s!"{first}..{last}"]
      return first :: listed stdout : Job W (List String)) (do
      let stdout ← t.run ["rev-list", "--first-parent", "--reverse", s!"{first}..{last}"]
      return first :: listed stdout) := by
    refine (run_same laws limit _).bind_eq fun stdout => ?_
    exact .pure rfl
  cases related with
  | true => exact hlist
  | false => exact Attempt.Matches.bind (R := Eq) (.fail ⟨rfl, rfl⟩) fun _ _ _ => hlist

theorem checkout_same (commit : String) :
    Attempt.Matches V.Same NeitherFatal Eq (t.checkout commit : Job W Unit) (t.checkout commit) :=
  (run_same laws limit _).bind fun _ _ _ => (run_same laws limit _).bind fun _ _ _ => .pure rfl

theorem commitDate_same (commit : String) :
    Attempt.Matches V.Same NeitherFatal Eq (t.commitDate commit : Job W Date)
      (t.commitDate commit) := by
  refine (runForLine_same laws limit _).bind_eq fun line => ?_
  exact .ofExcept_self fun e he => isFatal_of_date he

end Commands

end WorkTree

/-! ## Searches -/

namespace Bisect.Query

variable {W : Type} [Host W] {l : Layout} {V : HostView W l}

theorem search_same (laws : V.Laws) (q : Query W) {t : WorkTree} (owned : t.isOwned = true)
    (limit : V.Limit t.timeout) (confined : V.Confines q.kinds q.config (.sourceOnly t.root))
    (old new : String) :
    Attempt.Matches V.Same NeitherFatal Eq (q.search t old new) (q.search t old new) := by
  have hdetect : Attempt.Matches V.Same NeitherFatal Eq (q.detectIn t.root)
      (q.detectIn t.root) := by
    refine (confined.run laws [q.feature]).bind_eq fun record => ?_
    exact .pure rfl
  have horacle (commit : String) :
      Attempt.Matches V.Same NeitherFatal Eq (q.oracle t commit) (q.oracle t commit) :=
    (WorkTree.checkout_same laws limit commit).bind fun _ _ _ => hdetect
  refine Attempt.Matches.bind (R := Eq) (.ofExcept_self fun e he => ?_) fun _ _ _ => ?_
  · exact SurveyError.isFatal_of_isConfiguration (Resolver.isConfiguration_of_assign he)
  rw [if_pos owned]
  refine (WorkTree.currentRef_same laws limit).bind_eq fun ref => ?_
  refine Attempt.Matches.endedBy ?_ (WorkTree.checkout_same laws limit ref)
  refine (WorkTree.firstParentRange_same laws limit old new).bind_eq fun history => ?_
  exact findIntroduction_matches fun commit _ => horacle commit

end Bisect.Query

/-! ## Confined batches -/

/-- A record, up to the time at which it was collected. -/
def PackageRecord.undated (r : PackageRecord) : PackageRecord := { r with collected := "" }

namespace Batch

variable {W : Type} [Host W]

/-- What a batch does, it does in its scratch directories. -/
structure Confined (b : Batch W) (V : HostView W b.layout) : Prop where
  laws : V.Laws
  source : ∀ info, Attempt.Matches V.Same NeitherFatal Eq (b.provider.source info b.layout)
    (b.provider.source info b.layout)
  binary : ∀ info, Attempt.Matches V.Same NeitherFatal Eq (b.provider.binary info b.layout)
    (b.provider.binary info b.layout)
  buildLog : ∀ info, Attempt.Matches V.Same NeitherFatal Eq (b.provider.buildLog info b.layout)
    (b.provider.buildLog info b.layout)
  creationDate : ∀ info, Attempt.Matches V.Same NeitherFatal Eq (b.provider.creationDate info)
    (b.provider.creationDate info)
  /-- The detectors for whatever may be fetched. -/
  detects : ∀ {info : PackageInfo} {w v : W} {a : Artifacts}, V.Fresh w →
    (b.fetch info).exec w = (.ok a, v) →
      V.Confines b.kinds (b.configs.select a.binary.isSome a.buildLog.isSome) a.inputs
  searches : V.Confines b.kinds b.bisection (.sourceOnly b.layout.gitDir)
  limit : V.Limit b.gitTimeout

namespace Confined

variable {b : Batch W} {V : HostView W b.layout} {w v : W}

section Searches

variable {tree : WorkTree} (cloned : tree = ⟨b.layout.gitDir, b.git, b.gitTimeout, .cloned⟩)

include cloned

theorem introduction_same (h : b.Confined V) (first head feature : String) :
    Attempt.Matches V.Same NeitherFatal Eq (b.introduction tree first head feature)
      (b.introduction tree first head feature) := by
  subst cloned
  let q : Bisect.Query W := { kinds := b.kinds, config := b.bisection, feature }
  refine (q.search_same h.laws rfl h.limit h.searches first head).caught.bind ?_
  rintro _ _ (@⟨found, _, rfl⟩ | _)
  · rcases found with ⟨commit | reason, asked⟩
    · refine (WorkTree.commitDate_same h.laws h.limit commit).caught.bind ?_
      rintro _ _ (@⟨date, _, rfl⟩ | _)
      · exact .pure rfl
      · exact .pure rfl
    · exact .pure rfl
  · exact .pure rfl

theorem introductions_same (h : b.Confined V) (first head : String)
    (found : Table FeatureIntroduction) (features : List String) :
    Attempt.Matches V.Same NeitherFatal Eq (b.introductions tree first head found features)
      (b.introductions tree first head found features) := by
  induction features generalizing found with
  | nil => exact .pure rfl
  | cons feature rest ih =>
    refine (h.introduction_same cloned first head feature).bind ?_
    rintro (_ | i) _ rfl
    · exact ih found
    · exact ih (found.insert feature i)

theorem searchClone_same (h : b.Confined V) (url : String) :
    Attempt.Matches V.Same NeitherFatal Eq (b.searchClone url tree) (b.searchClone url tree) := by
  have limit : V.Limit tree.timeout := by
    rw [cloned]
    exact h.limit
  refine (WorkTree.runForLine_same h.laws limit _).bind_eq fun head => ?_
  refine (WorkTree.rootCommit_same h.laws limit head).bind_eq fun first => ?_
  refine (WorkTree.commitDate_same h.laws limit first).bind_eq fun creation => ?_
  refine (h.introductions_same cloned first head ∅ b.bisection.featuresSelected).bind_eq
    fun features => ?_
  exact .pure rfl

end Searches

/-- The clone is removed at the end, and whether that succeeds is all that may differ. -/
theorem searchRepository_same (h : b.Confined V) (hwv : V.Same w v) (url : String) :
    OutcomesMatch NeitherFatal Eq ((b.searchRepository url).exec w).1
        ((b.searchRepository url).exec v).1 ∧
      V.BothClear ((b.searchRepository url).exec w).2 ((b.searchRepository url).exec v).2 := by
  have hclone : Attempt.Matches V.Same NeitherFatal
      (fun tree tree' => tree = tree' ∧ tree = ⟨b.layout.gitDir, b.git, b.gitTimeout, .cloned⟩)
      (WorkTree.clone b.git url b.layout.gitDir b.gitTimeout : Job W WorkTree)
      (WorkTree.clone b.git url b.layout.gitDir b.gitTimeout) :=
    (runChecked_matches h.laws h.limit (.inl rfl) (.inl rfl) rfl).bind fun _ _ _ => .pure ⟨rfl, rfl⟩
  obtain ⟨houtcome, hcloned⟩ := hclone w v hwv
  refine Attempt.exec_bind_matches (J := V.BothClear) houtcome hcloned.clear ?_
  rintro tree _ ⟨rfl, htree⟩
  obtain ⟨hfound, hsearched⟩ := h.searchClone_same htree url _ _ hcloned
  -- from here on only `Clear` is kept: one removal may fail where the other does not
  have hdiscard {w : W} (hw : V.Clear w) : V.Clear (tree.discard.exec w).2 := by
    have hgit : b.layout.gitDir ∈ b.layout.scratchDirs := by simp [Layout.scratchDirs]
    obtain ⟨hsettled, hown, -⟩ := h.laws.removeTree hw.settled hgit rfl
    rw [htree]
    exact ⟨hsettled, hown.trans hw.own⟩
  have hdone (w : W) : (tree.discard.exec w).1 = .ok () := by
    rw [htree]
    rfl
  refine Attempt.exec_endedBy_matches (Q := Eq) hfound ?_
    ⟨hdiscard hsearched.clear.1, hdiscard hsearched.clear.2⟩
  rw [hdone, hdone]
  exact .ok rfl

theorem bisectionData_same (h : b.Confined V) (hwv : V.Same w v) (info : PackageInfo) :
    OutcomesMatch NeitherFatal Eq ((b.bisectionData info).exec w).1
        ((b.bisectionData info).exec v).1 ∧
      V.BothClear ((b.bisectionData info).exec w).2 ((b.bisectionData info).exec v).2 := by
  unfold bisectionData
  cases info.repository with
  | none => exact ⟨.ok rfl, hwv.clear⟩
  | some url =>
    dsimp only
    split
    · exact ⟨.ok rfl, hwv.clear⟩
    · obtain ⟨houtcome, hclear⟩ := h.searchRepository_same hwv url
      refine Attempt.exec_bind_matches (J := V.BothClear) houtcome.unlessFatal hclear ?_
      intro r r' hr
      exact ⟨.ok hr.toOption, hclear⟩

/-! ## One package -/

theorem fetch_same (h : b.Confined V) (info : PackageInfo) :
    Attempt.Matches V.Same NeitherFatal Eq (b.fetch info) (b.fetch info) := by
  have hpossible {α : Type} {task : Task W (Option α)}
      (htask : Attempt.Matches V.Same NeitherFatal Eq task task) :
      Attempt.Matches V.Same NeitherFatal Eq (ifPossible task) (ifPossible task) := by
    refine htask.caught.bind fun r r' hr => .pure ?_
    rw [hr.toOption]
  refine (h.source info).bind_eq fun source => ?_
  refine (h.binary info).bind_eq fun binary => ?_
  refine (hpossible (h.buildLog info)).bind_eq fun buildLog => ?_
  refine (hpossible (h.creationDate info)).bind_eq fun creationDate => ?_
  exact .pure rfl

theorem detect_same (h : b.Confined V) {info : PackageInfo} {a : Artifacts} {fresh fetched : W}
    (hfresh : V.Fresh fresh) (hfetch : (b.fetch info).exec fresh = (.ok a, fetched)) :
    Attempt.Matches V.Same NeitherFatal Eq (b.detect info a) (b.detect info a) := by
  have hrun := (h.detects hfresh hfetch).run h.laws []
  exact hrun.toTask.mapFailure fun _ _ he => he

/-- What becomes of a package is the same in all worlds in which its turn may begin, and it is
nothing fatal. -/
theorem process_same (h : b.Confined V) (hw : V.Fresh w) (hv : V.Fresh v) (info : PackageInfo) :
    OutcomesMatch NeitherFatal (fun r r' => r.undated = r'.undated) ((b.process info).exec w).1
        ((b.process info).exec v).1 ∧
      V.BothClear ((b.process info).exec w).2 ((b.process info).exec v).2 := by
  obtain ⟨houtcome, hfetched⟩ := h.fetch_same info w v (hw.alike hv)
  have hdetects : OutcomesMatch NeitherFatal (fun a a' => a = a' ∧
      Attempt.Matches V.Same NeitherFatal Eq (b.detect info a) (b.detect info a))
      ((b.fetch info).exec w).1 ((b.fetch info).exec v).1 := by
    rcases hfetch : (b.fetch info).exec w with ⟨r, w'⟩
    rw [hfetch] at houtcome
    generalize ((b.fetch info).exec v).1 = r' at houtcome
    cases houtcome with
    | error he => exact .error he
    | ok heq => exact .ok ⟨heq, h.detect_same hw hfetch⟩
  refine Attempt.exec_bind_matches (J := V.BothClear) hdetects hfetched.clear ?_
  rintro a _ ⟨rfl, hdetect⟩
  obtain ⟨houtcome, hdetected⟩ := hdetect _ _ hfetched
  refine Attempt.exec_bind_matches (J := V.BothClear) houtcome hdetected.clear ?_
  rintro record _ rfl
  obtain ⟨hfound, hclear⟩ := h.bisectionData_same hdetected info
  refine Attempt.exec_bind_matches (J := V.BothClear) (hfound.mapError fun _ _ he => he) hclear ?_
  rintro bisection _ rfl
  refine Attempt.exec_bind_matches (R := fun _ _ => True) (.ok trivial) hclear fun _ _ _ => ?_
  refine ⟨.ok ?_, hclear⟩
  simp only [PackageRecord.undated]

end Confined

/-! ## All packages -/

section Options

variable (b : Batch W) {options : BatchOptions}

theorem introductions_withOptions (tree : WorkTree) (first head : String)
    (found : Table FeatureIntroduction) (features : List String) :
    ({ b with options } : Batch W).introductions tree first head found features =
      b.introductions tree first head found features := by
  induction features generalizing found with
  | nil => rfl
  | cons feature rest ih =>
    rw [introductions, introductions]
    simp only [ih]
    rfl

theorem searchRepository_withOptions (url : String) :
    ({ b with options } : Batch W).searchRepository url = b.searchRepository url := by
  unfold searchRepository searchClone
  simp only [introductions_withOptions]
  rfl

/-- Which packages are processed does not matter to how they are. -/
theorem process_withOptions (options : BatchOptions)
    (h : options.skipBisect = b.options.skipBisect) (info : PackageInfo) :
    ({ b with options } : Batch W).process info = b.process info := by
  have hbisection : ({ b with options } : Batch W).bisectionData info = b.bisectionData info := by
    unfold bisectionData
    simp only [h, searchRepository_withOptions]
  unfold process
  rw [hbisection]
  rfl

end Options

/-- The same batch from the beginning of a list to its end. -/
def unlimited (b : Batch W) : Batch W :=
  { b with options := { b.options with startOffset := 0, count := none } }

/-- The same batch, passing over so many packages at the start. -/
def startingAt (b : Batch W) (offset : Nat) : Batch W :=
  { b with options := { b.options with startOffset := offset } }

/-- What becomes of a package in a world, but for the time. -/
def solo (b : Batch W) (fresh : W) (info : PackageInfo) : Option PackageRecord :=
  ((b.process info).exec fresh).1.toOption.map PackageRecord.undated

theorem solo_unlimited (b : Batch W) (fresh : W) : b.unlimited.solo fresh = b.solo fresh := by
  funext info
  have hprocess : b.unlimited.process info = b.process info :=
    b.process_withOptions b.unlimited.options rfl info
  rw [solo, hprocess, solo]

theorem solo_startingAt (b : Batch W) (offset : Nat) (fresh : W) :
    (b.startingAt offset).solo fresh = b.solo fresh := by
  funext info
  have hprocess : (b.startingAt offset).process info = b.process info :=
    b.process_withOptions (b.startingAt offset).options rfl info
  rw [solo, hprocess, solo]

/-- The batch hands back these records, but for the times at which they were collected. -/
def HandsBack (b : Batch W) (w : W) (packages : List PackageInfo) (records : List PackageRecord) :
    Prop :=
  ∃ found last, (b.run packages).exec w = (.ok found, last) ∧
    found.map PackageRecord.undated = records.map PackageRecord.undated

namespace Confined

variable {b : Batch W} {V : HostView W b.layout} {w fresh : W}

theorem unlimited (h : b.Confined V) : b.unlimited.Confined V :=
  ⟨h.laws, h.source, h.binary, h.buildLog, h.creationDate, h.detects, h.searches, h.limit⟩

theorem startingAt (h : b.Confined V) (offset : Nat) : (b.startingAt offset).Confined V :=
  ⟨h.laws, h.source, h.binary, h.buildLog, h.creationDate, h.detects, h.searches, h.limit⟩

theorem solo_fresh (h : b.Confined V) (hw : V.Fresh w) (hfresh : V.Fresh fresh)
    (info : PackageInfo) : b.solo w info = b.solo fresh info := by
  obtain ⟨houtcome, -⟩ := h.process_same hw hfresh info
  rw [solo, solo]
  generalize ((b.process info).exec w).1 = r at houtcome
  generalize ((b.process info).exec fresh).1 = r' at houtcome
  cases houtcome with
  | ok heq => exact congrArg some heq
  | error => rfl

section Turns

variable (h : b.Confined V)
  (passable : ∀ w, V.Clear w → b.layout.Passable V.here (V.tree w))

include h passable

/-- A turn begins with what a reset leaves, and it ends with nothing of our own. -/
theorem leads {after : W} {turn : Turn W} (hw : V.Clear w) (hturn : turn.Leads b w after) :
    V.Fresh turn.fresh ∧ V.Clear after := by
  obtain ⟨hreset, -, -, hteardown⟩ := hturn
  have hfresh := fresh_of_reset h.laws hw (passable w hw) hreset
  obtain ⟨-, hprocessed, -⟩ := h.process_same hfresh hfresh turn.package
  rw [← hteardown]
  exact ⟨hfresh, clear_of_teardown h.laws hprocessed⟩

/-- What becomes of a package at its turn is what would become of it in any fresh world. -/
theorem turns (hfresh : V.Fresh fresh) {last : W} {turns : List (Turn W)} (hw : V.Clear w)
    (hturns : b.Turns w turns last) :
    (∀ turn ∈ turns,
      turn.outcome.toOption.map PackageRecord.undated = b.solo fresh turn.package) ∧
      V.Clear last := by
  induction hturns with
  | none => exact ⟨fun _ hturn => absurd hturn List.not_mem_nil, hw⟩
  | turn hturn _ ih =>
    obtain ⟨hbegin, hbetween⟩ := h.leads passable hw hturn
    obtain ⟨hrest, hlast⟩ := ih hbetween
    refine ⟨List.forall_mem_cons.2 ⟨?_, hrest⟩, hlast⟩
    rw [← h.solo_fresh hbegin hfresh, solo, hturn.process]

variable (resets : ∀ w, V.Clear w → ∃ fresh, b.layout.reset.exec w = (.ok (), fresh))

include resets

/-- Every turn can begin and none ends the batch, so it hands back the records of its turns. -/
theorem exists_turns (hw : V.Clear w) (packages : List PackageInfo) :
    ∃ turns last, b.Turns w turns last ∧
      (b.run packages).exec w = (.ok (Turn.records turns), last) ∧
      Sufficient b.options.count (packages.drop b.options.startOffset) turns := by
  obtain ⟨fresh, hreset⟩ := resets w hw
  have hfresh := fresh_of_reset h.laws hw (passable w hw) hreset
  obtain ⟨turns, last, hturns, hends⟩ := processAll_turns (b := b) b.options.count
    (packages.drop b.options.startOffset) w
  obtain ⟨-, hlast⟩ := h.turns passable hfresh hw hturns
  refine ⟨turns, last, hturns, ?_⟩
  rw [run]
  generalize (b.processAll b.options.count (packages.drop b.options.startOffset)).exec w = result
    at hends
  cases hends with
  | finished hsufficient => exact ⟨rfl, hsufficient⟩
  | stopped _ _ hstuck =>
    obtain ⟨next, hreset⟩ := resets last hlast
    cases hreset.symm.trans hstuck
  | @halted next e v hhalts =>
    -- no package ends in a fatal failure
    obtain ⟨begun, hreset, hprocess⟩ := hhalts.process
    have hbegun := fresh_of_reset h.laws hlast (passable last hlast) hreset
    obtain ⟨houtcome, -⟩ := h.process_same hbegun hbegun next
    have hordinary := houtcome.isFatal_eq_false.1 e (congrArg Prod.fst hprocess)
    cases hordinary.symm.trans hhalts.fatal

/-- Without a limit, every package has its turn. -/
theorem handsBack (hfresh : V.Fresh fresh) (unlimited : b.options.count = none) (hw : V.Clear w)
    (packages : List PackageInfo) :
    ∃ found last, (b.run packages).exec w = (.ok found, last) ∧
      found.map PackageRecord.undated =
        (packages.drop b.options.startOffset).filterMap (b.solo fresh) := by
  obtain ⟨turns, last, hturns, hrun, hsufficient⟩ := h.exists_turns passable resets hw packages
  refine ⟨_, last, hrun, ?_⟩
  have hall : turns.map Turn.package = packages.drop b.options.startOffset := by
    refine hsufficient.enough.resolve_right ?_
    rw [unlimited]
    exact nofun
  rw [← hall, Turn.records, List.map_filterMap, List.filterMap_map]
  exact List.filterMap_congr (h.turns passable hfresh hw hturns).1

end Turns

end Confined

/-- **Under a root that can be passed, what becomes of a package does not depend on the packages
before it.**

Each turn of a batch ends as if its package were the only one, in whatever state the scratch
directories are then. So where no number of records is wanted, a list may be cut anywhere, and each
part be given to the batch by itself. -/
theorem run_independent {b : Batch W} {V : HostView W b.layout} (confined : b.Confined V)
    (passable : ∀ w, V.Clear w → b.layout.Passable V.here (V.tree w))
    (resets : ∀ w, V.Clear w → ∃ fresh, b.layout.reset.exec w = (.ok (), fresh)) {w : W}
    (clear : V.Clear w) (packages : List PackageInfo) :
    ∃ turns last, b.Turns w turns last ∧
      (b.run packages).exec w = (.ok (Turn.records turns), last) ∧
      Sufficient b.options.count (packages.drop b.options.startOffset) turns ∧
      (∀ turn ∈ turns, ∀ v, V.Clear v →
        b.unlimited.HandsBack v [turn.package] turn.outcome.toOption.toList) ∧
      (b.options.count = none → ∀ xs ys, xs ++ ys = packages → ∀ v u, V.Clear v → V.Clear u →
        ∃ before after, b.HandsBack v xs before ∧
          (b.startingAt (b.options.startOffset - xs.length)).HandsBack u ys after ∧
          b.HandsBack w packages (before ++ after)) := by
  obtain ⟨fresh, hreset⟩ := resets w clear
  have hfresh := fresh_of_reset confined.laws clear (passable w clear) hreset
  obtain ⟨turns, last, hturns, hrun, hsufficient⟩ :=
    confined.exists_turns passable resets clear packages
  refine ⟨turns, last, hturns, hrun, hsufficient, fun turn hturn v hv => ?_, ?_⟩
  · obtain ⟨found, last, hrun, hfound⟩ :=
      confined.unlimited.handsBack passable resets hfresh rfl hv [turn.package]
    refine ⟨found, last, hrun, hfound.trans ?_⟩
    show List.filterMap (b.unlimited.solo fresh) [turn.package] = _
    rw [solo_unlimited, List.filterMap_cons,
      ← (confined.turns passable hfresh clear hturns).1 turn hturn]
    cases turn.outcome.toOption <;> rfl
  · rintro hcount xs ys rfl v u hv hu
    obtain ⟨before, _, hbefore, hxs⟩ :=
      confined.handsBack passable resets hfresh hcount hv xs
    obtain ⟨after, _, hafter, hys⟩ :=
      (confined.startingAt (b.options.startOffset - xs.length)).handsBack passable resets hfresh
        hcount hu ys
    obtain ⟨found, _, hfound, hall⟩ :=
      confined.handsBack passable resets hfresh hcount clear (xs ++ ys)
    refine ⟨before, after, ⟨before, _, hbefore, rfl⟩, ⟨after, _, hafter, rfl⟩, found, _, hfound, ?_⟩
    rw [hall, List.map_append, hxs, hys, solo_startingAt, List.drop_append, List.filterMap_append]
    rfl

/-! ## A batch that fetches -/

/-- What a record says. -/
def reported (r : PackageRecord) : String × String := (r.name, Json.compact r.detected)

/-- What the records say, by the names of the packages. -/
def answers (b : Batch W) (w : W) (packages : List PackageInfo) : Option (List (String × String)) :=
  ((b.run packages).exec w).1.toOption.map (List.map reported)

theorem HandsBack.answers {b : Batch W} {w : W} {packages : List PackageInfo}
    {records : List PackageRecord} (h : b.HandsBack w packages records) :
    b.answers w packages = some (records.map reported) := by
  obtain ⟨found, last, hrun, hfound⟩ := h
  have hreported (records : List PackageRecord) :
      (records.map PackageRecord.undated).map reported = records.map reported := by
    rw [List.map_map]
    rfl
  rw [Batch.answers, hrun, ← hreported records, ← hfound, hreported]
  rfl

/-- What is left next to the build log of a package that has been guarded. -/
def guardMark (l : Layout) : Place := goalOf [] l.buildLogDir ++ ["guarded"]

/-- Sources come with rules, and every package but one leaves a mark, which the makefiles go by. One
package cannot be fetched, and leaves a clone besides. -/
def fetchTool (l : Layout) : TreeTool := fun line content =>
  let file := Entry.file ByteArray.empty false
  let debian := goalOf [] l.sourceDir ++ ["debian"]
  let rules := [(debian, .directory), (debian ++ ["rules"], file)]
  let mark := (guardMark l, file)
  match line.program, line.words with
  | "fetch", [.text "broken"] =>
    (.exited ⟨some 1, "", "not found"⟩,
      [mark, (goalOf [] l.gitDir, .directory), (goalOf [] l.gitDir ++ ["HEAD"], file)])
  | "fetch", [.text "plain"] => (.exited ⟨some 0, "", ""⟩, rules)
  | "fetch", [.text _] => (.exited ⟨some 0, "", ""⟩, mark :: rules)
  | "make", [_, _, _, _, .own (.ready _), .text "print-CFLAGS"] =>
    let flag := if (content (guardMark l)).isSome then " -fstack-protector" else ""
    (.exited ⟨some 0, "CFLAGS = -O2" ++ flag ++ "\n", ""⟩, [])
  | _, _ => (.notStarted .notFound, [])

def guardConfig : Config where
  detectors := [
    { name := "protector", kind := "rules-flag", parser := some "rules", features := ["protector"]
      options := .ofList [("variable", "CFLAGS"), ("flag", "-fstack-protector")] }]
  parsers := [{ name := "rules", kind := "rules-variable" }]
  featuresSelected := ["protector"]

def fetchBatch (l : Layout) : Batch (TreeHost l (fetchTool l)) where
  configs := ⟨guardConfig, guardConfig, guardConfig, guardConfig⟩
  bisection := {}
  kinds := BuiltIn.registry
  layout := l
  provider := TreeHost.provider
  git := "git"

def buildTree : Tree := ⟨[(["build"], .directory), (["scratch"], .directory)]⟩

def buildStart {l : Layout} : TreeHost l (fetchTool l) := { tree := buildTree }

def buildPackages (names : List String) : List PackageInfo :=
  names.map fun name => { name, rank := 0, source := name, version := "1" }

abbrev fetchView (l : Layout) : HostView (TreeHost l (fetchTool l)) l :=
  TreeHost.view l (fetchTool l) buildTree

theorem buildTree_grounded : buildTree.Grounded := by
  refine Tree.grounded_of_entries fun e he => ?_
  simp only [buildTree, List.mem_cons, List.not_mem_nil, or_false] at he
  rcases he with rfl | rfl <;> rfl

section Fetch

variable {l : Layout} (site : l.Site buildTree)

include site

theorem fetchBatch_confined
    (rules : Standstill.Plain (Path.join l.sourceDir RulesParser.defaultRulesFile)) :
    (fetchBatch l).Confined (fetchView l) := by
  have hlaws : (fetchView l).Laws := TreeHost.laws site _
  have hminute : (fetchView l).Limit (.ofSeconds 60) := by
    show ((Timeout.ofSeconds 60).deadline? 0).isSome = true
    decide
  have hlimit : (fetchView l).Limit (.ofSeconds defaultToolTimeout) := by
    show ((Timeout.ofSeconds defaultToolTimeout).deadline? 0).isSome = true
    decide
  have hsource : l.sourceDir ∈ l.scratchDirs := by simp [Layout.scratchDirs, Layout.packageDirs]
  have hgit : l.gitDir ∈ l.scratchDirs := by simp [Layout.scratchDirs]
  have hplain {dir : String} (hdir : dir ∈ l.scratchDirs) :
      ∀ given ∈ [none, some dir, none], ∀ path ∈ given, Standstill.Plain path := by
    simpa using site.plain dir hdir
  refine ⟨hlaws, fun info => ?_, fun _ => .pure rfl, fun _ => .pure rfl, fun _ => .pure rfl, ?_, ?_,
    hlimit⟩
  · exact (runChecked_matches hlaws hminute (.inl rfl) (.inl rfl) rfl).toTask.bind
      fun _ _ _ => .pure rfl
  · intro info w v a _ hfetch
    obtain ⟨source, fetched, hfetched, hrest⟩ := Attempt.exec_bind_eq_ok hfetch
    obtain ⟨-, _, -, hdone⟩ := Attempt.exec_bind_eq_ok hfetched
    have hdone : (Except.ok l.sourceDir, _) = (.ok source, fetched) := hdone
    cases hdone
    have hrest : (Except.ok (⟨l.sourceDir, none, none, none⟩ : Artifacts), _) = (.ok a, v) := hrest
    cases hrest
    have hglobs : ∀ d ∈ guardConfig.detectors, ∀ glob ∈ Patterns.includesOrDefault
        (((d.option? "include").map Patterns.listedIncludes).getD []), Standstill.Plain glob := by
      decide +kernel
    have hpatterns : ∀ d ∈ guardConfig.detectors, ∀ defaults ∈ [Patterns.namedCasts,
        Patterns.smartPointers], ∀ e ∈ (Patterns.withOptions defaults d.options).entries,
          Standstill.Plain e.2 := by
      decide +kernel
    refine BuiltIn.registry_confined hlaws hlimit fun a h => h.plain (hplain hsource) ?_ hglobs
      hpatterns
    intro p hp dir hdir
    obtain rfl := List.mem_singleton.1 hp
    obtain rfl := Option.mem_some_iff.1 hdir
    exact rules
  · exact BuiltIn.registry_confined hlaws hlimit fun a h => h.plain (hplain hgit)
      (List.forall_mem_nil _) (List.forall_mem_nil _) (List.forall_mem_nil _)

theorem fetchView_clear
    (empty : ∀ x ∈ l.scratchDirs.map (goalOf []), buildTree.entryAt? x = none) :
    (fetchView l).Clear buildStart where
  settled := ⟨fun _ hheld => absurd rfl hheld, site.grounded, fun _ _ => rfl,
    fun x hx => .inl (empty x hx)⟩
  own := rfl

end Fetch

/-! ### A root that can be passed -/

theorem roundabout_site : Layout.roundabout.Site buildTree where
  grounded := buildTree_grounded
  way := by decide +kernel
  short := by decide +kernel
  noNul := by decide +kernel
  plain := by decide +kernel

theorem roundabout_passable (w : TreeHost Layout.roundabout (fetchTool Layout.roundabout))
    (hw : (fetchView Layout.roundabout).Clear w) : Layout.roundabout.Passable [] w.tree := by
  have hexits : Layout.roundabout.rootExits [] = [["build"]] := by decide +kernel
  have hbase : Layout.roundabout.Passable [] buildTree := by
    constructor
    · rw [hexits]
      decide +kernel
    · rw [hexits]
      decide +kernel
  exact hbase.of_outside hw.settled.2.outside

def passing : Batch (TreeHost Layout.roundabout (fetchTool Layout.roundabout)) :=
  fetchBatch Layout.roundabout

def passed : List PackageInfo := buildPackages ["guarded", "broken", "plain"]

theorem run_independent_roundabout : passing.Confined (fetchView _) ∧
    (fetchView passing.layout).Clear buildStart ∧
    (∃ turns last, passing.Turns buildStart turns last ∧
      (passing.run passed).exec buildStart = (.ok (Turn.records turns), last) ∧
      Sufficient none passed turns ∧
      (∀ turn ∈ turns, ∀ v, (fetchView passing.layout).Clear v →
        passing.unlimited.HandsBack v [turn.package] turn.outcome.toOption.toList) ∧
      (passing.options.count = none → ∀ xs ys, xs ++ ys = passed → ∀ v u,
        (fetchView passing.layout).Clear v → (fetchView passing.layout).Clear u →
        ∃ before after, passing.HandsBack v xs before ∧
          (passing.startingAt (0 - xs.length)).HandsBack u ys after ∧
          passing.HandsBack buildStart passed (before ++ after))) ∧
    passing.answers buildStart passed =
      some [("guarded", "\x7b\"protector\":true\x7d"),
        ("plain", "\x7b\"protector\":false\x7d")] := by
  have hconfined : passing.Confined (fetchView _) :=
    fetchBatch_confined roundabout_site (by decide +kernel)
  have hclear : (fetchView Layout.roundabout).Clear buildStart :=
    fetchView_clear roundabout_site (by decide +kernel)
  exact ⟨hconfined, hclear, run_independent hconfined roundabout_passable
    (fun _ hw => TreeHost.exec_reset roundabout_site hw) hclear passed, by decide +kernel⟩

/-! ### A root that leads through a scratch directory -/

/-- A root that leads through the directory of the source. -/
def crossing : Layout := ⟨"/scratch/source_package_downloads/.."⟩

theorem crossing_site : crossing.Site buildTree where
  grounded := buildTree_grounded
  way := by decide +kernel
  short := by decide +kernel
  noNul := by decide +kernel
  plain := by decide +kernel

/-- That the directories can be made afresh is not enough. Here the directory of the source is
removed first, after which the others are not found, so the mark of the first package is still there
for the second. -/
theorem run_dependent : ¬ ∀ (l : Layout) (tool : TreeTool) (b : Batch (TreeHost l tool))
    (V : HostView (TreeHost l tool) b.layout), b.Confined V →
    (∀ w, V.Clear w → ∃ fresh, b.layout.reset.exec w = (.ok (), fresh)) →
    b.options.count = none → b.options.startOffset = 0 → ∀ w, V.Clear w → ∀ xs ys,
      ∃ before after, b.HandsBack w xs before ∧ b.HandsBack w ys after ∧
        b.HandsBack w (xs ++ ys) (before ++ after) := by
  intro hindependent
  have hconfined : (fetchBatch crossing).Confined (fetchView crossing) :=
    fetchBatch_confined crossing_site (by decide +kernel)
  obtain ⟨before, after, hguarded, hplain, hboth⟩ := hindependent crossing _ (fetchBatch crossing)
    (fetchView crossing) hconfined (fun _ hw => TreeHost.exec_reset crossing_site hw) rfl rfl
    buildStart (fetchView_clear crossing_site (by decide +kernel)) (buildPackages ["guarded"])
    (buildPackages ["plain"])
  have halone : (fetchBatch crossing).answers buildStart (buildPackages ["plain"]) =
      some [("plain", "\x7b\"protector\":false\x7d")] := by
    decide +kernel
  have htogether : (fetchBatch crossing).answers buildStart
      (buildPackages ["guarded"] ++ buildPackages ["plain"]) =
        some ([("guarded", "\x7b\"protector\":true\x7d")] ++
          [("plain", "\x7b\"protector\":true\x7d")]) := by
    decide +kernel
  have hafter := Option.some.inj (hplain.answers.symm.trans halone)
  have hall := Option.some.inj (hboth.answers.symm.trans htogether)
  rw [List.map_append, hafter] at hall
  -- the last record would have to say both
  exact absurd (List.append_inj_right' hall rfl) (by decide)

end Batch

end FeatureSurvey
