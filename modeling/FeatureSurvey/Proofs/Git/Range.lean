import FeatureSurvey.Proofs.Git.Workshop

/-!
# `Proofs/Git/Range.lean` — the commits that a search goes through

`firstParentRange` asks a tree for the commits from one end of a search to the other. It asks
whether the older end is an ancestor of the newer one, and puts it in front of the range.

**What comes of it is a line of first parents just when the older end is on the line of the newer
one** (`firstParentRange_isLine_iff`), and that is not what it has asked. Where two lines are
merged, a commit of the line that was merged in is an ancestor of the merge, so it passes; but the
range behind it is that of the other line (`firstParentRange_not_isLine`).
-/

set_option autoImplicit false

namespace FeatureSurvey

open Text (onLines)

namespace Repository

variable {W : Type} {R : Repository W} {w w' : W} {t : WorkTree}

/-- What a range comes to when no command fails. -/
def between (R : Repository W) (o n : String) : Except SurveyError (List String) :=
  if o ∈ R.graph.ancestors n then .ok (o :: R.graph.range o n)
  else .error (.config (.unrelatedEnds o n))

theorem mem_commits_of_between {o n : String} {history : List String} (ho : o ∈ R.graph.commits)
    (hn : n ∈ R.graph.commits) (h : R.between o n = .ok history) :
    ∀ commit ∈ history, commit ∈ R.graph.commits := by
  rw [between] at h
  split at h
  · cases h
    intro commit hcommit
    rcases List.mem_cons.1 hcommit with rfl | hcommit
    · exact ho
    · exact CommitGraph.mem_commits_of_mem_range hn hcommit
  · cases h

/-! ## Reading what is printed -/

theorem oneLine_onLines {c : String} (command : Command) (h : c ∈ R.graph.commits) :
    WorkTree.oneLine command (onLines [c]) = .ok c := by
  have hplain := R.graph.plain c h
  have hline : onLines [c] = c ++ "\n" := by simp [onLines]
  have hempty : c.isEmpty = false := by
    have hne := hplain.ne_nil
    simpa [String.isEmpty_iff] using hne
  have hfeed : Text.contains c "\n" = false := Text.occursIn_newline (hplain.not_mem rfl)
  simp [WorkTree.oneLine, hline, hplain.trim_append_newline, hempty, hfeed]

theorem listed_onLines {names : List String} (h : ∀ name ∈ names, Text.IsPlain name) :
    WorkTree.listed (onLines names) = names := by
  have htrim : names.map Text.trim = names := by
    conv => rhs; rw [← List.map_id names]
    exact List.map_congr_left fun name hname => (h name hname).trim_eq
  rw [WorkTree.listed, Text.lines_onLines h, htrim]
  refine List.filter_eq_self.2 fun name hname => ?_
  have hne := (h name hname).ne_nil
  simpa [String.isEmpty_iff] using hne

/-! ## What the questions answer -/

variable [Host W]

theorem resolve_eq_ok (hR : R.Answers) (ht : R.isTree w t) {revision c : String}
    (h : (t.resolve revision).exec w = (.ok c, w')) :
    R.means w t revision = some c ∧ R.Unmoved w w' := by
  obtain ⟨stdout, between, hrun, hline⟩ := Attempt.exec_bind_eq_ok h
  obtain ⟨output, hattempt, hstatus, rfl⟩ := WorkTree.run_eq_ok hrun
  obtain ⟨c', hmeans, hprinted⟩ := hR.revision ht hattempt hstatus
  rw [Attempt.exec_ofExcept, hprinted, oneLine_onLines _ (hR.commits ht hmeans)] at hline
  obtain ⟨hc, rfl⟩ := Prod.mk.inj hline
  cases hc
  exact ⟨hmeans, hR.unmoved ht (.revision revision) hattempt⟩

theorem isAncestor_eq_ok (hR : R.Answers) (ht : R.isTree w t) {a d : String}
    (ha : a ∈ R.graph.commits) (hd : d ∈ R.graph.commits) {answer : Bool}
    (h : (t.isAncestor a d).exec w = (.ok answer, w')) :
    (answer = true ↔ a ∈ R.graph.ancestors d) ∧ R.Unmoved w w' := by
  obtain ⟨output, between, hattempt, hanswer⟩ := Attempt.exec_bind_eq_ok h
  obtain ⟨hyes, hno⟩ := hR.ancestry ht ha hd hattempt
  have hunmoved := hR.unmoved ht (.ancestry a d) hattempt
  split at hanswer
  · rename_i hstatus
    cases hanswer
    exact ⟨by simp [hyes hstatus], hunmoved⟩
  · split at hanswer
    · rename_i hstatus
      cases hanswer
      exact ⟨by simp [hno hstatus], hunmoved⟩
    · cases hanswer

/-- A range that is handed back has the older end in front, and this is an ancestor. -/
theorem firstParentRange_eq_ok (hR : R.Answers) (ht : R.isTree w t) {old new : String}
    {history : List String} (h : (t.firstParentRange old new).exec w = (.ok history, w')) :
    ∃ o n, R.means w t old = some o ∧ R.means w t new = some n ∧ o ∈ R.graph.ancestors n ∧
      history = o :: R.graph.range o n := by
  obtain ⟨o, w₁, hold, h⟩ := Attempt.exec_bind_eq_ok h
  obtain ⟨hold, h₁⟩ := resolve_eq_ok hR ht hold
  obtain ⟨n, w₂, hnew, h⟩ := Attempt.exec_bind_eq_ok h
  obtain ⟨hnew, h₂⟩ := resolve_eq_ok hR (h₁ t ht).1 hnew
  rw [(h₁ t ht).2] at hnew
  have hunmoved := h₁.trans h₂
  have ho := hR.commits ht hold
  have hn := hR.commits ht hnew
  obtain ⟨answer, w₃, hanswer, h⟩ := Attempt.exec_bind_eq_ok h
  obtain ⟨hancestor, h₃⟩ := isAncestor_eq_ok hR (hunmoved t ht).1 ho hn hanswer
  cases answer with
  | false => cases h
  | true =>
    obtain ⟨stdout, w₄, hrun, h⟩ := Attempt.exec_bind_eq_ok h
    obtain ⟨output, hattempt, hstatus, rfl⟩ := WorkTree.run_eq_ok hrun
    have hprinted := hR.range ((hunmoved.trans h₃) t ht).1 ho hn hattempt hstatus
    cases h
    refine ⟨o, n, hold, hnew, hancestor.1 rfl, ?_⟩
    rw [hprinted, listed_onLines fun c hc =>
      R.graph.plain c (CommitGraph.mem_commits_of_mem_range hn hc)]

theorem exec_resolve (hR : R.Answers) (hW : R.Works) (ht : R.isTree w t) {revision c : String}
    (h : R.means w t revision = some c) :
    ∃ w', (t.resolve revision).exec w = (.ok c, w') ∧ R.Unmoved w w' := by
  obtain ⟨output, w', hattempt, hstatus, -⟩ := hW.revision ht h
  obtain ⟨c', hmeans, hprinted⟩ := hR.revision ht hattempt hstatus
  obtain rfl := Option.some.inj (h.symm.trans hmeans)
  refine ⟨w', ?_, hR.unmoved ht (.revision revision) hattempt⟩
  have hrun := WorkTree.run_of_attempt hattempt hstatus
  rw [hprinted] at hrun
  refine (Attempt.exec_bind_ok hrun).trans ?_
  rw [Attempt.exec_ofExcept, oneLine_onLines _ (hR.commits ht h)]

theorem exec_isAncestor (hR : R.Answers) (hW : R.Works) (ht : R.isTree w t) {a d : String}
    (ha : a ∈ R.graph.commits) (hd : d ∈ R.graph.commits) :
    ∃ w', (t.isAncestor a d).exec w = (.ok (decide (a ∈ R.graph.ancestors d)), w') ∧
      R.Unmoved w w' := by
  obtain ⟨output, w', hattempt, hstatus⟩ := hW.ancestry ht ha hd
  obtain ⟨hyes, hno⟩ := hR.ancestry ht ha hd hattempt
  refine ⟨w', ?_, hR.unmoved ht (.ancestry a d) hattempt⟩
  refine (Attempt.exec_bind_ok hattempt).trans ?_
  rcases hstatus with hstatus | hstatus
  · simp [hstatus, hyes hstatus]
  · simp [hstatus, hno hstatus]

theorem exec_firstParentRange (hR : R.Answers) (hW : R.Works) (ht : R.isTree w t)
    {old new o n : String} (hold : R.means w t old = some o) (hnew : R.means w t new = some n) :
    ∃ w', (t.firstParentRange old new).exec w = (R.between o n, w') ∧ R.Unmoved w w' := by
  have ho := hR.commits ht hold
  have hn := hR.commits ht hnew
  obtain ⟨w₁, h₁, hunmoved⟩ := exec_resolve hR hW ht hold
  obtain ⟨ht₁, hmeans⟩ := hunmoved t ht
  obtain ⟨w₂, h₂, hunmoved₂⟩ := exec_resolve hR hW ht₁ ((hmeans new).trans hnew)
  replace hunmoved := hunmoved.trans hunmoved₂
  obtain ⟨w₃, h₃, hunmoved₃⟩ := exec_isAncestor hR hW (hunmoved t ht).1 ho hn
  replace hunmoved := hunmoved.trans hunmoved₃
  rw [WorkTree.firstParentRange, Attempt.exec_bind_ok h₁, Attempt.exec_bind_ok h₂,
    Attempt.exec_bind_ok h₃, between]
  by_cases hancestor : o ∈ R.graph.ancestors n
  · -- the third question was answered with yes, so the range is asked for
    obtain ⟨output, w₄, hattempt, hstatus, -⟩ := hW.range (hunmoved t ht).1 ho hn
    have hprinted := hR.range (hunmoved t ht).1 ho hn hattempt hstatus
    have hlisted : WorkTree.listed output.stdout = R.graph.range o n := by
      rw [hprinted, listed_onLines fun c hc =>
        R.graph.plain c (CommitGraph.mem_commits_of_mem_range hn hc)]
    have hrun := WorkTree.run_of_attempt hattempt hstatus
    refine ⟨w₄, ?_, hunmoved.trans (hR.unmoved (hunmoved t ht).1 (.range o n) hattempt)⟩
    simp only [hancestor, decide_true, Bool.not_true, Bool.false_eq_true, if_false, if_true]
    refine (Attempt.exec_bind_ok hrun).trans ?_
    rw [hlisted]
    rfl
  · refine ⟨w₃, ?_, hunmoved⟩
    simp only [hancestor, decide_false, Bool.not_false, if_true, if_false]
    exact Attempt.exec_bind_error (Attempt.exec_fail _ w₃)

/-- **What is handed back is a line of first parents just when its front is on the line.**

In any case it begins and ends with the two ends, the older of which is an ancestor of the newer,
and all of it but the front is a line. -/
theorem firstParentRange_isLine_iff (hR : R.Answers) (ht : R.isTree w t) {old new : String}
    {history : List String} (h : ((t.firstParentRange old new).exec w).1 = .ok history) :
    ∃ o n, R.means w t old = some o ∧ R.means w t new = some n ∧
      o ∈ R.graph.ancestors n ∧
      history.head? = some o ∧ history.getLast? = some n ∧
      history.tail = R.graph.range o n ∧ R.graph.IsLine history.tail ∧
      (R.graph.IsLine history ↔ o ∈ R.graph.firstParentLine n) := by
  have hexec : (t.firstParentRange old new).exec w =
      (.ok history, ((t.firstParentRange old new).exec w).2) := Prod.ext h rfl
  obtain ⟨o, n, hold, hnew, hancestor, rfl⟩ := firstParentRange_eq_ok hR ht hexec
  exact ⟨o, n, hold, hnew, hancestor, rfl, CommitGraph.getLast?_cons_range hancestor, rfl,
    CommitGraph.range_isLine, CommitGraph.cons_range_isLine_iff hancestor⟩

/-- On a history without merges, nothing but lines is handed back. -/
theorem firstParentRange_isLine_of_linear (hR : R.Answers) (ht : R.isTree w t)
    (linear : ∀ c, (R.graph.parents c).length ≤ 1) {old new : String} {history : List String}
    (h : (t.firstParentRange old new).exec w = (.ok history, w')) : R.graph.IsLine history := by
  obtain ⟨o, n, -, -, hancestor, rfl⟩ := firstParentRange_eq_ok hR ht h
  rw [CommitGraph.cons_range_isLine_iff hancestor]
  exact (CommitGraph.mem_firstParentLine_iff_of_linear linear).2 hancestor

/-! ## Behind a merge -/

open Workshop (merging workshop cloned diamond repository cloned_isTree)

theorem exec_firstParentRange_b_m :
    ((cloned.firstParentRange "b" "m").exec workshop).1 = .ok ["b", "a", "m"] := by
  have hold : (repository merging).means workshop cloned "b" = some "b" := rfl
  have hnew : (repository merging).means workshop cloned "m" = some "m" := rfl
  obtain ⟨w', h, -⟩ := exec_firstParentRange (Workshop.repository_answers merging)
    (Workshop.repository_works merging) cloned_isTree hold hnew
  rw [h, between]
  show (if "b" ∈ diamond.ancestors "m" then Except.ok ("b" :: diamond.range "b" "m") else _) = _
  rw [if_pos Workshop.b_mem_ancestors_m, Workshop.range_b_m]

theorem firstParentRange_isLine_iff_b_m :
    ((cloned.firstParentRange "b" "m").exec workshop).1 = .ok ["b", "a", "m"] ∧
      ∃ o n, (repository merging).means workshop cloned "b" = some o ∧
        (repository merging).means workshop cloned "m" = some n ∧
        o ∈ (repository merging).graph.ancestors n ∧
        ["b", "a", "m"].head? = some o ∧ ["b", "a", "m"].getLast? = some n ∧
        ["b", "a", "m"].tail = (repository merging).graph.range o n ∧
        (repository merging).graph.IsLine ["b", "a", "m"].tail ∧
        ((repository merging).graph.IsLine ["b", "a", "m"] ↔
          o ∈ (repository merging).graph.firstParentLine n) :=
  ⟨exec_firstParentRange_b_m, firstParentRange_isLine_iff (Workshop.repository_answers merging)
    cloned_isTree exec_firstParentRange_b_m⟩

/-- The tree answers truthfully, `b` is not on the line of `m`, and the range is handed back all
the same: `b` is not the first parent of `a`. -/
theorem firstParentRange_not_isLine :
    (repository merging).Answers ∧ (repository merging).isTree workshop cloned ∧
      "b" ∉ diamond.firstParentLine "m" ∧
      ((cloned.firstParentRange "b" "m").exec workshop).1 = .ok ["b", "a", "m"] ∧
      ¬ diamond.IsLine ["b", "a", "m"] := by
  refine ⟨Workshop.repository_answers merging, cloned_isTree, ?_, exec_firstParentRange_b_m, ?_⟩
  · rw [Workshop.firstParentLine_m]
    decide
  · intro h
    have hfirst : diamond.firstParent? "a" = some "b" := (List.isChain_cons_cons.1 h).1
    exact absurd hfirst (by decide)

end Repository

end FeatureSurvey
