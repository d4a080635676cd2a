import FeatureSurvey.Proofs.Bisect.Questions

/-!
# `Proofs/Bisect/LinearScan.lean` — halving finds what looking through finds

A history could be looked through commit by commit, oldest first (`scan`). That finds the first
commit that has the thing, wherever it may have gone later, and takes as many questions as there
are commits. A search takes few, so it has to rely on something: that the thing stays once it is
there (`Lasting`), and that the oracle tells the truth about it and never fails (`Oracle.Tells`).

**Then the two agree** (`findIntroduction_eq_scan`). The reason is in the protocol of the search:
a commit is named on the word of two neighbours, and under a lasting thing there is one pair of
neighbours at most of which only the later one has it.
-/

set_option autoImplicit false

namespace FeatureSurvey.Bisect

/-- Look at one commit after another, oldest first, for the first that has the thing. -/
def scan (present : String → Bool) : List String → Verdict
  | [] => .notFound .emptyHistory
  | oldest :: rest =>
    if present oldest then .notFound .presentAtOldest
    else
      match rest.find? present with
      | some commit => .introduced commit
      | none => .notFound .absentAtNewest

/-- The thing stays once it is there. -/
def Lasting (present : String → Bool) (history : List String) : Prop :=
  history.Pairwise fun earlier later => present earlier = true → present later = true

/-- The oracle says of each commit of the history whether the thing is there, and never fails. -/
def Oracle.Tells {S : Type} (oracle : Oracle S) (present : String → Bool) (history : List String) :
    Prop :=
  ∀ commit ∈ history, ∀ s, ((oracle commit).exec s).1 = .ok (present commit)

/-- The commit stands at a position, has the thing, and no commit before that position has it. -/
def FirstAt (present : String → Bool) (history : List String) (i : Nat) (commit : String) : Prop :=
  history[i]? = some commit ∧ present commit = true ∧
    ∀ j < i, ∀ earlier, history[j]? = some earlier → present earlier = false

section Scan

variable {present : String → Bool} {history : List String}

theorem scan_eq_empty_iff : scan present history = .notFound .emptyHistory ↔ history = [] := by
  cases history with
  | nil => simp [scan]
  | cons oldest rest =>
    simp only [scan]
    split
    · simp
    · split <;> simp

theorem scan_eq_absent_iff :
    scan present history = .notFound .absentAtNewest ↔
      history ≠ [] ∧ ∀ commit ∈ history, present commit = false := by
  cases history with
  | nil => simp [scan]
  | cons oldest rest =>
    simp only [scan]
    split
    · rename_i holdest
      simp [holdest]
    · rename_i holdest
      have hfalse : present oldest = false := by simpa using holdest
      split
      · rename_i commit hfound
        have hcommit := List.find?_some hfound
        have hmem := List.mem_of_find?_eq_some hfound
        simp only [reduceCtorEq, false_iff, not_and, not_forall]
        intro _
        exact ⟨commit, List.mem_cons_of_mem _ hmem, by simp [hcommit]⟩
      · rename_i hnone
        simpa [hfalse] using hnone

theorem scan_eq_oldest_iff :
    scan present history = .notFound .presentAtOldest ↔
      ∃ oldest, FirstAt present history 0 oldest := by
  cases history with
  | nil => simp [scan, FirstAt]
  | cons oldest rest =>
    simp only [scan, FirstAt]
    split
    · rename_i holdest
      simp [holdest]
    · rename_i holdest
      have hfalse : present oldest = false := by simpa using holdest
      split <;> simp [hfalse]

theorem scan_eq_introduced_iff {commit : String} :
    scan present history = .introduced commit ↔ ∃ i, FirstAt present history (i + 1) commit := by
  cases history with
  | nil => simp [scan, FirstAt]
  | cons oldest rest =>
    by_cases holdest : present oldest = true
    · -- the first commit stands before every other
      simp only [scan, holdest, if_true, reduceCtorEq, false_iff, not_exists]
      intro i hi
      have := hi.2.2 0 (Nat.succ_pos i) oldest rfl
      rw [holdest] at this
      cases this
    · have hfalse : present oldest = false := by simpa using holdest
      have hscan : scan present (oldest :: rest) = .introduced commit ↔
          rest.find? present = some commit := by
        simp only [scan, hfalse, Bool.false_eq_true, if_false]
        cases rest.find? present <;> simp
      rw [hscan, List.find?_eq_some_iff_getElem]
      constructor
      · rintro ⟨hcommit, i, hi, rfl, hbefore⟩
        refine ⟨i, List.getElem?_eq_getElem hi, hcommit, ?_⟩
        intro j hj earlier hearlier
        cases j with
        | zero =>
          obtain rfl : oldest = earlier := by simpa using hearlier
          exact hfalse
        | succ j =>
          obtain ⟨hj', rfl⟩ := List.getElem?_eq_some_iff.1 hearlier
          simpa using hbefore j (Nat.lt_of_succ_lt_succ hj)
      · rintro ⟨i, hi, hcommit, hbefore⟩
        obtain ⟨hi', rfl⟩ := List.getElem?_eq_some_iff.1 hi
        have hrest : i < rest.length := Nat.lt_of_succ_lt_succ hi'
        refine ⟨hcommit, i, hrest, rfl, ?_⟩
        intro j hj
        have within : j < rest.length := hj.trans hrest
        have habsent := hbefore (j + 1) (Nat.succ_lt_succ hj) rest[j]
          (List.getElem?_eq_getElem (Nat.succ_lt_succ within))
        simp [habsent]

/-- If a later position is without the thing, so is an earlier one. -/
theorem Lasting.absent (h : Lasting present history) {i j : Nat} {earlier later : String}
    (hle : i ≤ j) (hearlier : history[i]? = some earlier) (hlater : history[j]? = some later)
    (habsent : present later = false) : present earlier = false := by
  rcases Nat.lt_or_eq_of_le hle with hlt | rfl
  · obtain ⟨hi, rfl⟩ := List.getElem?_eq_some_iff.1 hearlier
    obtain ⟨hj, rfl⟩ := List.getElem?_eq_some_iff.1 hlater
    have himp := List.pairwise_iff_getElem.1 h i j hi hj hlt
    by_contra hpresent
    have := himp (by simpa using hpresent)
    rw [habsent] at this
    cases this
  · rw [hearlier] at hlater
    cases hlater
    exact habsent

theorem FailsLast.error_mem {qs : List Question} {e : SurveyError}
    (h : FailsLast qs (.error e)) : ∃ i, (i, .error e) ∈ qs := by
  generalize hr : (Except.error e : Except SurveyError Verdict) = r at h
  induction h with
  | ended => cases hr
  | failed position e =>
    cases hr
    exact ⟨position, List.mem_singleton_self _⟩
  | answered _ ih =>
    obtain ⟨i, hi⟩ := ih hr
    exact ⟨i, List.mem_cons_of_mem _ hi⟩

/-- A protocol in which every answer is true ends as the scan does. -/
theorem Protocol.eq_scan {qs : List Question} {v : Except SurveyError Verdict}
    (h : Protocol history qs v) (lasting : Lasting present history)
    (truthful : ∀ q ∈ qs, ∃ commit, history[q.1]? = some commit ∧ q.2 = .ok (present commit)) :
    v = .ok (scan present history) := by
  have said {i : Nat} {answer : Bool} (hmem : (i, .ok answer) ∈ qs) :
      ∃ commit, history[i]? = some commit ∧ present commit = answer := by
    obtain ⟨commit, hi, heq⟩ := truthful _ hmem
    exact ⟨commit, hi, (Except.ok.inj heq).symm⟩
  rcases v with e | verdict
  · -- no answer is a failure
    obtain ⟨i, hi⟩ := h.failsLast.error_mem
    obtain ⟨_, _, heq⟩ := truthful _ hi
    cases heq
  · rw [Except.ok.injEq, eq_comm]
    have hwitnesses {commit : String} (hverdict : verdict = .introduced commit) :
        ∃ i, history[i + 1]? = some commit ∧ (i + 1, .ok true) ∈ qs ∧ (i, .ok false) ∈ qs := by
      subst hverdict
      exact h.witnesses
    cases h with
    | empty size => exact scan_eq_empty_iff.2 (List.length_eq_zero_iff.1 size)
    | @absent last size =>
      obtain ⟨newest, hnewest, habsent⟩ := said List.mem_cons_self
      refine scan_eq_absent_iff.2 ⟨List.ne_nil_of_length_eq_add_one size, ?_⟩
      intro commit hcommit
      obtain ⟨i, hi, rfl⟩ := List.getElem_of_mem hcommit
      exact lasting.absent (by omega) (List.getElem?_eq_getElem hi) hnewest habsent
    | alone | present =>
      obtain ⟨oldest, holdest, hpresent⟩ := @said 0 true (by simp)
      exact scan_eq_oldest_iff.2 ⟨oldest, holdest, hpresent, by simp⟩
    | halved size more rest =>
      obtain ⟨_, commit, _, rfl, -⟩ := rest.witnesses more
      obtain ⟨i, hi, hpresent, habsent⟩ := hwitnesses rfl
      obtain ⟨_, hthere, htrue⟩ := said hpresent
      obtain ⟨before, hbefore, hfalse⟩ := said habsent
      rw [hi] at hthere
      cases hthere
      refine scan_eq_introduced_iff.2 ⟨i, hi, htrue, ?_⟩
      intro j hj earlier hearlier
      exact lasting.absent (Nat.le_of_lt_succ hj) hearlier hbefore hfalse

/-- **A search finds what looking through the history finds.**

For an oracle that never fails and tells of a lasting thing, the verdict is that of the scan. So a
search finds nothing in a history just when there is no commit, or none has the thing, or the
oldest one has it; and otherwise it names the commit at the least position that has it. -/
theorem findIntroduction_eq_scan {S : Type} {oracle : Oracle S}
    (tells : oracle.Tells present history) (lasting : Lasting present history) (s : S) :
    ∃ outcome, ((findIntroduction history oracle).exec s).1 = .ok outcome ∧
      outcome.verdict = scan present history ∧
      (outcome.verdict = .notFound .emptyHistory ↔ history = []) ∧
      (outcome.verdict = .notFound .absentAtNewest ↔
        history ≠ [] ∧ ∀ commit ∈ history, present commit = false) ∧
      (outcome.verdict = .notFound .presentAtOldest ↔
        ∃ oldest, FirstAt present history 0 oldest) ∧
      ∀ commit, outcome.verdict = .introduced commit ↔
        ∃ i, FirstAt present history (i + 1) commit := by
  obtain ⟨v, qs, minutes, s', hexec, -, -, hgave, hv⟩ := exists_protocol history oracle s
  have hscan : v = .ok (scan present history) := by
    refine hv.eq_scan lasting ?_
    intro q hq
    obtain ⟨commit, t, hcommit, hanswer⟩ := hgave q hq
    refine ⟨commit, hcommit, ?_⟩
    rw [← hanswer, tells commit (List.mem_of_getElem? hcommit) t]
  rw [hexec, hscan]
  exact ⟨⟨scan present history, qs.length⟩, rfl, rfl, scan_eq_empty_iff, scan_eq_absent_iff,
    scan_eq_oldest_iff, fun _ => scan_eq_introduced_iff⟩

/-- The thing came in with the commit `c`. -/
def sinceC (commit : String) : Bool := decide ("c" ≤ commit)

/-- An oracle that tells of it, and counts the questions. -/
def counting : Oracle Nat := fun commit asked => (.ok (sinceC commit), asked + 1)

def fiveCommits : List String := ["a", "b", "c", "d", "e"]

theorem findIntroduction_eq_scan_counting :
    counting.Tells sinceC fiveCommits ∧ Lasting sinceC fiveCommits ∧
    ∃ outcome, ((findIntroduction fiveCommits counting).exec 0).1 = .ok outcome ∧
      outcome.verdict = scan sinceC fiveCommits ∧
      (outcome.verdict = .notFound .emptyHistory ↔ fiveCommits = []) ∧
      (outcome.verdict = .notFound .absentAtNewest ↔
        fiveCommits ≠ [] ∧ ∀ commit ∈ fiveCommits, sinceC commit = false) ∧
      (outcome.verdict = .notFound .presentAtOldest ↔
        ∃ oldest, FirstAt sinceC fiveCommits 0 oldest) ∧
      ∀ commit, outcome.verdict = .introduced commit ↔
        ∃ i, FirstAt sinceC fiveCommits (i + 1) commit := by
  have tells : counting.Tells sinceC fiveCommits := fun _ _ _ => rfl
  have lasting : Lasting sinceC fiveCommits := by
    simp only [Lasting, sinceC, fiveCommits]
    decide
  exact ⟨tells, lasting, findIntroduction_eq_scan tells lasting 0⟩

end Scan

end FeatureSurvey.Bisect
