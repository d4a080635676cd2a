import FeatureSurvey.Proofs.Bisect.Restore
import FeatureSurvey.Proofs.Git.Range
import FeatureSurvey.Proofs.Run.Failing
import FeatureSurvey.Proofs.Run.Matching

/-!
# `Proofs/Bisect/SameAnswer.lean` — the answer does not depend on the tree

A search moves a tree from commit to commit while it goes on, and a tree of our own is searched in
another way than one that is borrowed. Neither should be seen in the answer. If `git` does what its
manual says and the detectors answer by the commit that they look at, then **either search has the
answer of the search that looks at no tree at all** (`search_sameAnswer`): it takes the range and
asks, instead of a tree, the function that tells the detectors' answers.

Two jobs `Agrees` when they have the same outcome, from whatever states they are started in, as
long as the states satisfy the invariant of each. The invariant of a search in a tree is that the
tree is there.

Searches go alike if their oracles do, which is an induction over the halving
(`findIntroduction_matches`).
-/

set_option autoImplicit false

namespace FeatureSurvey

/-! ## Jobs that agree -/

/-- The same outcome, on states of two kinds, with an invariant of each that is kept. -/
def Attempt.Agrees {ε S T α : Type} (I : S → Prop) (J : T → Prop) (job : Attempt ε S α)
    (other : Attempt ε T α) : Prop :=
  ∀ s t, I s → J t →
    (job.exec s).1 = (other.exec t).1 ∧ I (job.exec s).2 ∧ J (other.exec t).2

/-- To agree is to match, with an invariant of each state as what relates the two. -/
theorem Attempt.agrees_iff_matches {ε S T α : Type} {I : S → Prop} {J : T → Prop}
    {job : Attempt ε S α} {other : Attempt ε T α} :
    Attempt.Agrees I J job other ↔
      Attempt.Matches (fun s t => I s ∧ J t) Eq Eq job other := by
  constructor
  · rintro h s t ⟨hs, ht⟩
    obtain ⟨heq, hafter⟩ := h s t hs ht
    exact ⟨.of_eq heq, hafter⟩
  · intro h s t hs ht
    obtain ⟨houtcome, hafter⟩ := h s t ⟨hs, ht⟩
    exact ⟨houtcome.eq, hafter⟩

/-! ## Working in a tree -/

namespace Repository

variable {W : Type} [Host W] {R : Repository W} {w : W} {t : WorkTree}

/-- Whether on a branch or on none, a tree says where it stands. -/
theorem exec_currentRef (hR : R.Answers) (hW : R.Works) (ht : R.isTree w t) :
    ∃ ref w', t.currentRef.exec w = (.ok ref, w') ∧ R.Unmoved w w' := by
  rcases hrun : (t.run WorkTree.askingBranch).exec w with ⟨r, w₁⟩
  have hunmoved : R.Unmoved w w₁ := by
    have hattempt := WorkTree.exec_run t WorkTree.askingBranch w
    rw [hrun] at hattempt
    exact (Prod.mk.inj hattempt).2 ▸ hR.unmoved ht .branch rfl
  -- whatever came of it, `HEAD` still means the commit it meant
  obtain ⟨c, hc⟩ := hW.head ht
  obtain ⟨ht₁, hmeans⟩ := hunmoved t ht
  obtain ⟨w₂, hhead, hunmoved₂⟩ := exec_resolve hR hW ht₁ ((hmeans "HEAD").trans hc)
  have hordinary : ∀ e, r = .error e → isFatal e = false := by
    rintro e rfl
    exact WorkTree.isFatal_of_run (hW.deadline ht) (congrArg Prod.fst hrun)
  have hanswer : (t.run WorkTree.askingBranch).caught.exec w = (.ok r, w₁) := by
    rw [Attempt.exec_caught, hrun, Attempt.unlessFatal_eq_ok hordinary]
  rw [WorkTree.askingBranch] at hanswer
  rw [WorkTree.currentRef, Attempt.exec_bind_ok hanswer]
  cases r with
  | error e => exact ⟨c, w₂, hhead, hunmoved.trans hunmoved₂⟩
  | ok stdout =>
    by_cases hblank : Text.isBlankText stdout
    · simp only [hblank, if_true]
      exact ⟨c, w₂, hhead, hunmoved.trans hunmoved₂⟩
    · simp only [hblank]
      exact ⟨Text.trim stdout, w₁, rfl, hunmoved⟩

theorem exec_checkout (hW : R.Works) (ht : R.isTree w t) {c : String} (hc : c ∈ R.graph.commits) :
    ∃ w', (t.checkout c).exec w = (.ok (), w') ∧ R.isTree w' t ∧ R.standsAt w' t c ∧
      R.isClean w' t := by
  obtain ⟨output₁, w₁, hattempt₁, hstatus₁, ht₁, hstands₁⟩ := hW.checkout ht hc
  obtain ⟨output₂, w₂, hattempt₂, hstatus₂, ht₂, hstands₂, hclean₂⟩ := hW.clean ht₁ hstands₁
  refine ⟨w₂, ?_, ht₂, hstands₂, hclean₂⟩
  refine (Attempt.exec_bind_ok (WorkTree.run_of_attempt hattempt₁ hstatus₁)).trans ?_
  exact Attempt.exec_bind_ok (WorkTree.run_of_attempt hattempt₂ hstatus₂)

/-- The way to any revision leaves the tree there, and nothing fatal comes of it. -/
theorem Works.checkout_fails (hW : R.Works) (t : WorkTree) (revision : String) :
    (t.checkout revision).Fails (fun w => R.isTree w t) fun e => isFatal e = false := by
  have hrun {args : List String}
      (hargs : args = WorkTree.cleaning ∨ ∃ revision, args = WorkTree.checkingOut revision) :
      (t.run args : Job W String).Fails (fun w => R.isTree w t) fun e => isFatal e = false := by
    intro w ht
    refine ⟨?_, fun e he => WorkTree.isFatal_of_run (hW.deadline ht) he⟩
    rw [WorkTree.exec_run]
    exact hW.stays ht hargs
  exact (hrun (.inr ⟨revision, rfl⟩)).bind fun _ => (hrun (.inl rfl)).bind fun _ => .pure _

end Repository

namespace Bisect

section Search

variable {S T : Type} {history : List String} {oracle : Oracle S} {oracle' : Oracle T}

section Matches

variable {I : S → T → Prop} {E : SurveyError → SurveyError → Prop}

theorem narrow_matches
    (h : ∀ commit ∈ history, Attempt.Matches I E Eq (oracle commit) (oracle' commit))
    (lo hi evaluations : Nat) (within : hi < history.length) :
    Attempt.Matches I E Eq (narrow history oracle lo hi evaluations within)
      (narrow history oracle' lo hi evaluations within) := by
  induction lo, hi, evaluations, within using narrow.induct with
  | case1 lo hi evaluations within apart mid ihlo ihhi =>
    rw [narrow, narrow, dif_pos apart, dif_pos apart]
    have mem : history.get ⟨mid, by omega⟩ ∈ history := List.get_mem _ _
    refine (h _ mem).bind_eq fun present => ?_
    cases present with
    | true => exact ihlo
    | false => exact ihhi
  | case2 lo hi evaluations within apart =>
    rw [narrow, narrow, dif_neg apart, dif_neg apart]
    exact .pure rfl

theorem findIntroduction_matches
    (h : ∀ commit ∈ history, Attempt.Matches I E Eq (oracle commit) (oracle' commit)) :
    Attempt.Matches I E Eq (findIntroduction history oracle)
      (findIntroduction history oracle') := by
  cases history with
  | nil => exact .pure rfl
  | cons oldest rest =>
    rw [findIntroduction, findIntroduction]
    have newest := List.getLast_mem (List.cons_ne_nil oldest rest)
    refine (h _ newest).bind_eq fun present => ?_
    cases present with
    | false => exact .pure rfl
    | true =>
      by_cases alone : rest.isEmpty
      · simp only [alone, if_true]
        exact .pure rfl
      · simp only [alone]
        refine (h oldest List.mem_cons_self).bind_eq fun present => ?_
        cases present with
        | true => exact .pure rfl
        | false => exact narrow_matches h _ _ _ _

end Matches

theorem findIntroduction_agrees {I : S → Prop} {J : T → Prop}
    (h : ∀ commit ∈ history, Attempt.Agrees I J (oracle commit) (oracle' commit)) :
    Attempt.Agrees I J (findIntroduction history oracle) (findIntroduction history oracle') :=
  Attempt.agrees_iff_matches.2 (findIntroduction_matches fun commit hcommit =>
    Attempt.agrees_iff_matches.1 (h commit hcommit))

end Search

/-! ## Searches in a tree -/

variable {W : Type} [Host W]

/-- The detectors answer by the commit they look at, and leave the tree where it is. -/
structure Query.Judges (q : Query W) (R : Repository W)
    (answer : String → Except SurveyError Bool) : Prop where
  answers : ∀ {w : W} {t : WorkTree} {c : String}, R.isTree w t → c ∈ R.graph.commits →
    R.standsAt w t c → R.isClean w t → ((q.detectIn t.root).exec w).1 = answer c
  stays : ∀ {w : W} {t : WorkTree} {c : String}, R.isTree w t → c ∈ R.graph.commits →
    R.standsAt w t c → R.isClean w t → R.isTree ((q.detectIn t.root).exec w).2 t

/-- The search that looks at no tree, but for the range. -/
def idealSearch (answer : String → Except SurveyError Bool) (t : WorkTree) (old new : String) :
    Job W Outcome := do
  let history ← t.firstParentRange old new
  findIntroduction history fun commit => Attempt.ofExcept (answer commit)

/-- What there is to be found from one commit to another. -/
def found (R : Repository W) (answer : String → Except SurveyError Bool) (o n : String) :
    Except SurveyError Outcome :=
  (R.between o n).bind fun history =>
    ((findIntroduction history fun commit => Attempt.ofExcept (answer commit) :
      Job Unit Outcome).exec ()).1

section Trees

variable {R : Repository W} {q : Query W} {answer : String → Except SurveyError Bool} {w : W}
  {t : WorkTree} {old new o n : String}

theorem Query.Judges.oracle_agrees (hq : q.Judges R answer) (hW : R.Works) {c : String}
    (hc : c ∈ R.graph.commits) :
    Attempt.Agrees (fun w => R.isTree w t) (fun _ : Unit => True) (q.oracle t c)
      (Attempt.ofExcept (answer c)) := by
  intro w _ ht _
  obtain ⟨w', hcheckout, ht', hstands, hclean⟩ := Repository.exec_checkout hW ht hc
  have horacle : (q.oracle t c).exec w = (q.detectIn t.root).exec w' :=
    Attempt.exec_bind_ok hcheckout
  rw [horacle]
  exact ⟨hq.answers ht' hc hstands hclean, hq.stays ht' hc hstands hclean, trivial⟩

theorem exec_idealSearch (hR : R.Answers) (hW : R.Works) (ht : R.isTree w t)
    (hold : R.means w t old = some o) (hnew : R.means w t new = some n) :
    ((idealSearch answer t old new).exec w).1 = found R answer o n := by
  obtain ⟨w', hrange, -⟩ := Repository.exec_firstParentRange hR hW ht hold hnew
  rw [found]
  rcases hbetween : R.between o n with e | history <;> rw [hbetween] at hrange
  · rw [idealSearch, Attempt.exec_bind_error hrange]
    rfl
  · rw [idealSearch, Attempt.exec_bind_ok hrange]
    have hsame (commit : String) (_ : commit ∈ history) :
        Attempt.Agrees (fun _ : W => True) (fun _ : Unit => True)
          (Attempt.ofExcept (answer commit)) (Attempt.ofExcept (answer commit)) :=
      fun _ _ _ _ => ⟨rfl, trivial, trivial⟩
    exact (findIntroduction_agrees hsame w' () trivial trivial).1

/-- The search has the outcome wanted, and when the tree has been put back it is still there. -/
theorem exec_searchIn (hR : R.Answers) (hW : R.Works) (hq : q.Judges R answer)
    (ht : R.isTree w t) (hold : R.means w t old = some o) (hnew : R.means w t new = some n) :
    ((q.searchIn t old new).exec w).1 = found R answer o n ∧
      R.isTree ((q.searchIn t old new).exec w).2 t := by
  obtain ⟨ref, w₁, href, hunmoved⟩ := Repository.exec_currentRef hR hW ht
  obtain ⟨ht₁, hmeans⟩ := hunmoved t ht
  obtain ⟨w₂, hrange, hunmoved₂⟩ := Repository.exec_firstParentRange hR hW ht₁
    ((hmeans old).trans hold) ((hmeans new).trans hnew)
  let search : Job W Outcome := do
    let history ← t.firstParentRange old new
    findIntroduction history (q.oracle t)
  have hsearch : (search.exec w₁).1 = found R answer o n ∧ R.isTree (search.exec w₁).2 t := by
    rw [found]
    rcases hbetween : R.between o n with e | history <;> rw [hbetween] at hrange
    · rw [Attempt.exec_bind_error hrange]
      exact ⟨rfl, (hunmoved₂ t ht₁).1⟩
    · rw [Attempt.exec_bind_ok hrange]
      have hmem := Repository.mem_commits_of_between (hR.commits ht hold) (hR.commits ht hnew)
        hbetween
      have hsame (commit : String) (h : commit ∈ history) :=
        hq.oracle_agrees hW (t := t) (hmem commit h)
      obtain ⟨houtcome, hthere, -⟩ :=
        findIntroduction_agrees hsame w₂ () (hunmoved₂ t ht₁).1 trivial
      exact ⟨houtcome, hthere⟩
  -- the way back comes after the outcome and does not change it
  obtain ⟨hthere, hordinary⟩ := hW.checkout_fails t ref _ hsearch.2
  have hexec : (q.searchIn t old new).exec w = (search.endedBy (t.checkout ref)).exec w₁ :=
    Attempt.exec_bind_ok href
  rw [hexec]
  refine ⟨(Attempt.exec_endedBy_fst hordinary).trans hsearch.1, ?_⟩
  rw [Attempt.exec_endedBy]
  exact hthere

/-- A scratch tree is discarded without a fatal failure. -/
theorem discard_scratch_ordinary (hW : R.Works) {dest : String} (ht : R.isTree w (t.scratch dest))
    {e : SurveyError} (h : (((t.scratch dest).discard : Job W Unit).exec w).1 = .error e) :
    isFatal e = false := by
  have hdiscard : ((t.scratch dest).discard : Job W Unit).exec w =
      ((t.run WorkTree.pruning >>= fun _ => pure ()) : Job W Unit).exec
        (Host.removeTree dest w).2 :=
    Attempt.exec_bind_ok rfl
  rw [hdiscard, Attempt.exec_bind] at h
  rcases hrun : (t.run WorkTree.pruning).exec (Host.removeTree dest w).2 with ⟨e' | stdout, w'⟩ <;>
    rw [hrun] at h <;> cases h
  exact WorkTree.isFatal_of_run (hW.inTime ht) (congrArg Prod.fst hrun)

/-- A borrowed tree settles what the ends mean, and lends its repository for the rest. -/
theorem exec_searchBeside (hR : R.Answers) (hW : R.Works) (hq : q.Judges R answer)
    (ht : R.isTree w t) (hold : R.means w t old = some o) (hnew : R.means w t new = some n) :
    ((q.searchBeside t old new).exec w).1 = found R answer o n := by
  have ho := hR.commits ht hold
  have hn := hR.commits ht hnew
  obtain ⟨w₁, h₁, hunmoved⟩ := Repository.exec_resolve hR hW ht hold
  obtain ⟨ht₁, hmeans⟩ := hunmoved t ht
  obtain ⟨w₂, h₂, hunmoved₂⟩ := Repository.exec_resolve hR hW ht₁ ((hmeans new).trans hnew)
  obtain ⟨directory, w₃, hmade, output, w₄, hattempt, hstatus, ht₄⟩ :=
    hW.scratch Query.directoryName (hunmoved₂ t ht₁).1
  have hstep : (Attempt.step (.file (Host.temporaryRoot w₂))
      (Host.makeTemporary Query.directoryName) : Job W String).exec w₂ = (.ok directory, w₃) := by
    rw [Attempt.exec_step, hmade]
    rfl
  have hadded : (t.addScratch (Path.join directory "tree")).exec w₃ =
      (.ok (t.scratch (Path.join directory "tree")), w₄) :=
    Attempt.exec_bind_ok (WorkTree.run_of_attempt hattempt hstatus)
  -- in the scratch tree the ends are given by their full names, which mean the same there
  obtain ⟨hsearch, ht₅⟩ :=
    exec_searchIn hR hW hq ht₄ (hW.fullName ht₄ ho) (hW.fullName ht₄ hn)
  rw [Query.searchBeside, Attempt.exec_bind_ok h₁, Attempt.exec_bind_ok h₂,
    Attempt.exec_bind_ok (Attempt.exec_ask _ w₂), Attempt.exec_bind_ok hstep,
    Attempt.exec_guarded, Attempt.exec_bind_ok hadded]
  exact (Attempt.exec_endedBy_fst fun e he => discard_scratch_ordinary hW ht₅ he).trans hsearch

/-- **The answer does not depend on the tree.**

Given two trees of one repository, one of our own and one borrowed, in whatever worlds, on whatever
refs and with whatever files in them: if the ends of the search mean the same commits in both, the
two searches have the same outcome, and it is that of the search that looks at no tree. -/
theorem Query.search_sameAnswer (hR : R.Answers) (hW : R.Works) (hq : q.Judges R answer)
    {assignments : List Assignment}
    (resolved : Resolver.assign q.config [q.feature] = .ok assignments)
    (ht : R.isTree w t) (owned : t.isOwned = true) (hold : R.means w t old = some o)
    (hnew : R.means w t new = some n) {w' : W} {t' : WorkTree} (ht' : R.isTree w' t')
    (borrowed : t'.isOwned = false) (hold' : R.means w' t' old = some o)
    (hnew' : R.means w' t' new = some n) :
    ((q.search t old new).exec w).1 = ((q.search t' old new).exec w').1 ∧
      ((q.search t old new).exec w).1 = ((idealSearch answer t old new).exec w).1 ∧
      ((q.search t' old new).exec w').1 = ((idealSearch answer t' old new).exec w').1 := by
  have hin : ((q.search t old new).exec w).1 = found R answer o n := by
    rw [Query.search_eq, resolved]
    simp only [owned, if_true]
    exact (exec_searchIn hR hW hq ht hold hnew).1
  have hbeside : ((q.search t' old new).exec w').1 = found R answer o n := by
    rw [Query.search_eq, resolved]
    simp only [borrowed, Bool.false_eq_true, if_false]
    exact exec_searchBeside hR hW hq ht' hold' hnew'
  refine ⟨hin.trans hbeside.symm, hin.trans ?_, hbeside.trans ?_⟩
  · exact (exec_idealSearch hR hW ht hold hnew).symm
  · exact (exec_idealSearch hR hW ht' hold' hnew').symm

end Trees

/-! ## Looking for a marker -/

section Marker

open Query (marker)
open Workshop (merging workshop cloned borrowed markers repository)

/-- The detector that the query comes to in a tree. -/
def markerDetector (dir : String) : SourcePatternDetector where
  name := "markers"
  sourceDir := dir
  patterns := Patterns.withOptions Patterns.namedCasts (Table.ofList [("pattern.marker", "marker")])
  tool := "grep"
  timeout := .ofSeconds defaultToolTimeout

def markerBuilder (dir : String) : InstanceBuilder (Session (Workshop merging)) where
  kinds := BuiltIn.registry
  config := markers
  inputs := .sourceOnly dir

def markerRun (dir : String) : PreparedRun (Session (Workshop merging)) where
  detectors := [⟨"markers", fun feature => Session.onWorld ((markerDetector dir).detect feature)⟩]
  plan := [("marker", ⟨0, by simp⟩)]

def markerAnswer (commit : String) : Except SurveyError Bool :=
  .ok (decide (commit = "a" ∨ commit = "m"))

theorem prepare_marker (dir : String) (s : Session (Workshop merging)) :
    (Runner.prepare (markerBuilder dir) ["marker"]).exec s = (.ok (markerRun dir, []), s) := rfl

theorem grep_marker {w : Workshop merging} {dir c : String} (h : w.trees dir = some ⟨c, []⟩) :
    w.grep ((markerDetector dir).command "marker").arguments =
      if c = "a" ∨ c = "m" then Workshop.printed ["int x; // marker"] else Workshop.silent 1 := by
  have hgrep : w.grep ((markerDetector dir).command "marker").arguments =
      Workshop.lookUp merging "marker" (w.trees dir) := rfl
  rw [hgrep, h]
  by_cases hc : c = "a" ∨ c = "m"
  · simp only [Workshop.lookUp, merging, hc, if_true]
    rfl
  · simp only [Workshop.lookUp, merging, hc, if_false]
    rfl

theorem detect_marker {w : Workshop merging} {dir c : String} (h : w.trees dir = some ⟨c, []⟩) :
    ∃ value, ((markerDetector dir).detect "marker").exec w = (.ok value, w) ∧
      value.isPresent = decide (c = "a" ∨ c = "m") := by
  have hrun : (Tool.run ((markerDetector dir).command "marker") (markerDetector dir).timeout :
      Job (Workshop merging) ToolOutput).exec w =
        (.ok (w.grep ((markerDetector dir).command "marker").arguments), w) := by
    have hlimit : (Timeout.deadline? 0 (.ofSeconds defaultToolTimeout)).isSome = true := by decide
    rw [Tool.exec_run, Workshop.run_grep rfl, Tool.judge]
    exact congrArg (·, w) (if_pos hlimit)
  rw [grep_marker h] at hrun
  by_cases hc : c = "a" ∨ c = "m"
  · rw [if_pos hc] at hrun
    exact ⟨.ofCount 1, Attempt.exec_bind_ok hrun, by simp only [hc]; rfl⟩
  · rw [if_neg hc] at hrun
    exact ⟨.ofCount 0, Attempt.exec_bind_ok hrun, by simp only [hc]; rfl⟩

theorem detectIn_marker {w : Workshop merging} {dir c : String} (h : w.trees dir = some ⟨c, []⟩) :
    (marker.detectIn dir).exec w = (markerAnswer c, w) := by
  obtain ⟨value, hdetect, hpresent⟩ := detect_marker h
  have hvalue : (Session.onWorld ((markerDetector dir).detect "marker")).exec { world := w } =
      (.ok value, { world := w }) := by
    rw [Session.exec_onWorld, hdetect]
  have hrun : (Runner.run (markerBuilder dir) ["marker"]).exec { world := w } =
      (.ok (ResultRecord.empty.insert "marker" value), { world := w }) :=
    (Attempt.exec_bind_ok (prepare_marker dir _)).trans (Attempt.exec_bind_ok hvalue)
  have hsession : (Session.run (Runner.run (markerBuilder dir) ["marker"])).exec w =
      (.ok (ResultRecord.empty.insert "marker" value), w) := by
    rw [Session.exec_run, hrun]
    rfl
  refine (Attempt.exec_bind_ok hsession).trans ?_
  rw [markerAnswer, ← hpresent]
  rfl

theorem detectIn_of_clean {w : Workshop merging} {t : WorkTree} {c : String}
    (hstands : (repository merging).standsAt w t c) (hclean : (repository merging).isClean w t) :
    (marker.detectIn t.root).exec w = (markerAnswer c, w) := by
  obtain ⟨⟨head, extra⟩, hstanding, rfl⟩ := hstands
  obtain ⟨standing, hstanding', hextra⟩ := hclean
  obtain rfl := Option.some.inj (hstanding.symm.trans hstanding')
  obtain rfl : extra = [] := hextra
  exact detectIn_marker hstanding

theorem marker_judges : marker.Judges (repository merging) markerAnswer where
  answers _ _ hstands hclean := by
    rw [detectIn_of_clean hstands hclean]
  stays ht _ hstands hclean := by
    rw [detectIn_of_clean hstands hclean]
    exact ht

/-- From `r` to `m`, the clone that stands on `m` and the tree that stands on `b` tell the same. -/
theorem search_sameAnswer_marker :
    ((marker.search cloned "r" "m").exec workshop).1 =
        ((marker.search borrowed "r" "m").exec workshop).1 ∧
      ((marker.search cloned "r" "m").exec workshop).1 =
        ((idealSearch markerAnswer cloned "r" "m").exec workshop).1 ∧
      ((marker.search borrowed "r" "m").exec workshop).1 =
        ((idealSearch markerAnswer borrowed "r" "m").exec workshop).1 := by
  obtain ⟨assignments, resolved⟩ : ∃ assignments,
      Resolver.assign markers ["marker"] = .ok assignments := ⟨_, rfl⟩
  exact Query.search_sameAnswer (Workshop.repository_answers merging)
    (Workshop.repository_works merging) marker_judges resolved Workshop.cloned_isTree rfl
    (show (repository merging).means workshop cloned "r" = some "r" from rfl)
    (show (repository merging).means workshop cloned "m" = some "m" from rfl)
    Workshop.borrowed_isTree rfl
    (show (repository merging).means workshop borrowed "r" = some "r" from rfl)
    (show (repository merging).means workshop borrowed "m" = some "m" from rfl)

end Marker

end Bisect

end FeatureSurvey
