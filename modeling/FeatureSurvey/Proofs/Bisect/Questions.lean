import FeatureSurvey.Bisect.Search
import FeatureSurvey.Proofs.Bisect.SameAnswer
import Mathlib.Data.Nat.Log

/-!
# `Proofs/Bisect/Questions.lean` — what a search asks

An oracle may answer as it likes: it has a state, it may fail, and it may say yes today and no
tomorrow. What can be said of a search then is which positions of the history it asks about, and
what it makes of the answers.

To see the questions, the oracle is given minutes to keep (`Oracle.minuted`). Keeping minutes
changes nothing (`findIntroduction_minuted`). The minutes hold commits, and a commit may stand at
two positions, so they are read back as positions: `Protocol` lists the rows of questions that a
search can ask, one constructor for each way to end, and `Halving` does so for the part between two
positions. Both are about questions and answers alone; `findIntroduction_asks` ties them to the
search, by one induction.

**No position is asked about twice, and the questions are few** (`findIntroduction_frugal`). **A
commit is only named on the word of two neighbours** (`introduced_between`): it was asked about and
has the thing, and so was the commit before it, which has it not.
-/

set_option autoImplicit false

namespace FeatureSurvey.Bisect

/-! ## Rows of questions -/

/-- A position of the history, and what the oracle said of it. -/
abbrev Question := Nat × Except SurveyError Bool

/-- The position that is asked about next. -/
def middle (lo hi : Nat) : Nat := lo + (hi - lo) / 2

/-- The questions between two positions, and what comes of them. -/
inductive Halving (history : List String) :
    Nat → Nat → List Question → Except SurveyError Verdict → Prop
  | neighbours {lo hi : Nat} (close : hi - lo ≤ 1) (within : hi < history.length) :
      Halving history lo hi [] (.ok (.introduced history[hi]))
  | present {lo hi : Nat} {qs : List Question} {r : Except SurveyError Verdict}
      (apart : 1 < hi - lo) (rest : Halving history lo (middle lo hi) qs r) :
      Halving history lo hi ((middle lo hi, .ok true) :: qs) r
  | absent {lo hi : Nat} {qs : List Question} {r : Except SurveyError Verdict}
      (apart : 1 < hi - lo) (rest : Halving history (middle lo hi) hi qs r) :
      Halving history lo hi ((middle lo hi, .ok false) :: qs) r
  | failed {lo hi : Nat} {e : SurveyError} (apart : 1 < hi - lo) :
      Halving history lo hi [(middle lo hi, .error e)] (.error e)

/-- The questions of a search, and what comes of them. -/
inductive Protocol (history : List String) :
    List Question → Except SurveyError Verdict → Prop
  | empty (size : history.length = 0) : Protocol history [] (.ok (.notFound .emptyHistory))
  | newestFailed {last : Nat} {e : SurveyError} (size : history.length = last + 1) :
      Protocol history [(last, .error e)] (.error e)
  | absent {last : Nat} (size : history.length = last + 1) :
      Protocol history [(last, .ok false)] (.ok (.notFound .absentAtNewest))
  | alone (size : history.length = 1) :
      Protocol history [(0, .ok true)] (.ok (.notFound .presentAtOldest))
  | oldestFailed {last : Nat} {e : SurveyError} (size : history.length = last + 1)
      (more : 0 < last) : Protocol history [(last, .ok true), (0, .error e)] (.error e)
  | present {last : Nat} (size : history.length = last + 1) (more : 0 < last) :
      Protocol history [(last, .ok true), (0, .ok true)] (.ok (.notFound .presentAtOldest))
  | halved {last : Nat} {qs : List Question} {r : Except SurveyError Verdict}
      (size : history.length = last + 1) (more : 0 < last) (rest : Halving history 0 last qs r) :
      Protocol history ((last, .ok true) :: (0, .ok false) :: qs) r

/-- All questions but the last one were answered. If the last one failed, so did the search, with
the same error; otherwise the search succeeded. -/
inductive FailsLast : List Question → Except SurveyError Verdict → Prop
  | ended (verdict : Verdict) : FailsLast [] (.ok verdict)
  | failed (position : Nat) (e : SurveyError) : FailsLast [(position, .error e)] (.error e)
  | answered {position : Nat} {present : Bool} {qs : List Question}
      {r : Except SurveyError Verdict} (rest : FailsLast qs r) :
      FailsLast ((position, .ok present) :: qs) r

/-- As many questions as a search of so many commits asks at most. -/
def mostQuestions : Nat → Nat
  | 0 => 0
  | 1 => 1
  | n + 2 => 2 + Nat.clog 2 (n + 1)

section Rows

variable {history : List String} {lo hi : Nat} {qs : List Question}
  {r : Except SurveyError Verdict}

theorem middle_between (apart : 1 < hi - lo) : lo < middle lo hi ∧ middle lo hi < hi := by
  unfold middle
  omega

/-- What is left above the middle is the larger half, and a logarithm counts it. -/
theorem clog_middle (apart : 1 < hi - lo) :
    Nat.clog 2 (hi - middle lo hi) + 1 = Nat.clog 2 (hi - lo) := by
  have half : hi - middle lo hi = (hi - lo + 2 - 1) / 2 := by
    unfold middle
    omega
  rw [half, Nat.clog_of_two_le (by omega) apart]

namespace Halving

/-- The two ends of the stretch are not asked about again. -/
theorem between (h : Halving history lo hi qs r) : ∀ i ∈ qs.map Prod.fst, lo < i ∧ i < hi := by
  induction h with
  | neighbours => simp
  | present apart _ ih | absent apart _ ih =>
    -- the rest lies on one side of the middle, and so between the ends
    intro i hi
    have inside := middle_between apart
    rcases List.mem_cons.1 hi with rfl | hi
    · exact inside
    · have := ih i hi
      omega
  | failed apart =>
    intro i hi
    obtain rfl := List.mem_singleton.1 hi
    exact middle_between apart

/-- The rest stays on one side of the middle. -/
theorem nodup (h : Halving history lo hi qs r) : (qs.map Prod.fst).Nodup := by
  induction h with
  | neighbours => simp
  | present _ rest ih =>
    exact List.nodup_cons.2 ⟨fun hmem => Nat.lt_irrefl _ (rest.between _ hmem).2, ih⟩
  | absent _ rest ih =>
    exact List.nodup_cons.2 ⟨fun hmem => Nat.lt_irrefl _ (rest.between _ hmem).1, ih⟩
  | failed => simp

theorem length_le (h : Halving history lo hi qs r) : qs.length ≤ Nat.clog 2 (hi - lo) := by
  induction h with
  | neighbours => simp
  | @present lo hi _ _ apart _ ih =>
    -- the half below the middle is not the larger one
    have smaller : Nat.clog 2 (middle lo hi - lo) ≤ Nat.clog 2 (hi - middle lo hi) := by
      apply Nat.clog_mono_right
      unfold middle
      omega
    have := clog_middle apart
    simp only [List.length_cons]
    omega
  | absent apart _ ih =>
    have := clog_middle apart
    simp only [List.length_cons]
    omega
  | failed apart =>
    have := clog_middle apart
    simp only [List.length_singleton]
    omega

theorem failsLast (h : Halving history lo hi qs r) : FailsLast qs r := by
  induction h with
  | neighbours => exact .ended _
  | present _ _ ih => exact .answered ih
  | absent _ _ ih => exact .answered ih
  | failed => exact .failed _ _

/-- The commit that is named has the thing, unless it is the upper end, and the one before it has
not, unless it is the lower end. -/
theorem witnesses {verdict : Verdict} (h : Halving history lo hi qs (.ok verdict))
    (apart : lo < hi) :
    ∃ i commit, history[i + 1]? = some commit ∧ verdict = .introduced commit ∧
      ((i + 1, .ok true) ∈ (hi, Except.ok true) :: qs) ∧
      ((i, .ok false) ∈ (lo, Except.ok false) :: qs) := by
  generalize hr : (Except.ok verdict : Except SurveyError Verdict) = r at h
  induction h with
  | @neighbours lo hi close within =>
    cases hr
    obtain rfl : hi = lo + 1 := by omega
    exact ⟨lo, history[lo + 1], List.getElem?_eq_getElem within, rfl, by simp, by simp⟩
  | present wide _ ih =>
    obtain ⟨i, commit, hi, rfl, hpresent, habsent⟩ := ih (middle_between wide).1 hr
    refine ⟨i, commit, hi, rfl, List.mem_cons_of_mem _ hpresent, ?_⟩
    rcases List.mem_cons.1 habsent with heq | hmem
    · exact heq ▸ List.mem_cons_self
    · exact List.mem_cons_of_mem _ (List.mem_cons_of_mem _ hmem)
  | absent wide _ ih =>
    obtain ⟨i, commit, hi, rfl, hpresent, habsent⟩ := ih (middle_between wide).2 hr
    refine ⟨i, commit, hi, rfl, ?_, List.mem_cons_of_mem _ habsent⟩
    rcases List.mem_cons.1 hpresent with heq | hmem
    · exact heq ▸ List.mem_cons_self
    · exact List.mem_cons_of_mem _ (List.mem_cons_of_mem _ hmem)
  | failed => cases hr

end Halving

namespace Protocol

theorem nodup (h : Protocol history qs r) : (qs.map Prod.fst).Nodup := by
  cases h with
  | halved size more rest =>
    -- between the ends, neither end is asked about
    refine List.nodup_cons.2 ⟨fun hmem => ?_, List.nodup_cons.2 ⟨fun hmem => ?_, rest.nodup⟩⟩
    · rcases List.mem_cons.1 hmem with heq | hmem
      · exact Nat.ne_of_gt more heq
      · exact Nat.lt_irrefl _ (rest.between _ hmem).2
    · exact Nat.lt_irrefl _ (rest.between _ hmem).1
  | oldestFailed _ more | present _ more => simp [Nat.ne_of_gt more]
  | empty | newestFailed | absent | alone => simp

theorem length_le (h : Protocol history qs r) : qs.length ≤ mostQuestions history.length := by
  cases h with
  | empty => simp
  | alone size => simp [size, mostQuestions]
  | newestFailed size | absent size =>
    rw [size]
    unfold mostQuestions
    split <;> simp <;> omega
  | @oldestFailed last _ size more | @present last size more =>
    obtain ⟨n, rfl⟩ := Nat.exists_eq_add_of_lt more
    simp [size, mostQuestions]
  | @halved last _ _ size more rest =>
    obtain ⟨n, rfl⟩ := Nat.exists_eq_add_of_lt more
    have := rest.length_le
    simp only [Nat.zero_add, Nat.sub_zero] at this
    simp only [size, mostQuestions, List.length_cons, Nat.zero_add]
    omega

/-- If there is a commit at all, the newest one is asked about. -/
theorem min_le_length (h : Protocol history qs r) : min 1 history.length ≤ qs.length := by
  cases h with
  | empty size => simp [size]
  | _ => exact (Nat.min_le_left _ _).trans (Nat.succ_pos _)

theorem failsLast (h : Protocol history qs r) : FailsLast qs r := by
  cases h with
  | empty => exact .ended _
  | newestFailed => exact .failed _ _
  | absent | alone => exact .answered (.ended _)
  | oldestFailed => exact .answered (.failed _ _)
  | present => exact .answered (.answered (.ended _))
  | halved _ _ rest => exact .answered (.answered rest.failsLast)

theorem witnesses {commit : String} (h : Protocol history qs (.ok (.introduced commit))) :
    ∃ i, history[i + 1]? = some commit ∧ (i + 1, .ok true) ∈ qs ∧ (i, .ok false) ∈ qs := by
  cases h with
  | halved size more rest =>
    obtain ⟨i, commit', hi, heq, hpresent, habsent⟩ := rest.witnesses more
    cases heq
    refine ⟨i, hi, ?_, List.mem_cons_of_mem _ habsent⟩
    -- the upper end is the first that was asked about
    rcases List.mem_cons.1 hpresent with heq | hmem
    · exact heq ▸ List.mem_cons_self
    · exact List.mem_cons_of_mem _ (List.mem_cons_of_mem _ hmem)

end Protocol

end Rows

/-! ## Minutes -/

/-- A state, and the questions so far with their answers. -/
structure Minuted (S : Type) where
  state : S
  minutes : List (String × Except SurveyError Bool) := []

variable {S : Type}

/-- The oracle, keeping minutes. -/
def Oracle.minuted (oracle : Oracle S) : Oracle (Minuted S) := fun commit m =>
  let (r, s) := (oracle commit).exec m.state
  (r, { state := s, minutes := m.minutes ++ [(commit, r)] })

theorem Oracle.exec_minuted (oracle : Oracle S) (commit : String) (m : Minuted S) :
    (oracle.minuted commit).exec m = (((oracle commit).exec m.state).1,
      { state := ((oracle commit).exec m.state).2
        minutes := m.minutes ++ [(commit, ((oracle commit).exec m.state).1)] }) := rfl

/-- A search whose oracle keeps minutes is the search itself. -/
theorem findIntroduction_minuted (history : List String) (oracle : Oracle S) (m : Minuted S) :
    (findIntroduction history oracle).exec m.state =
      (((findIntroduction history oracle.minuted).exec m).1,
        ((findIntroduction history oracle.minuted).exec m).2.state) := by
  have alike (commit : String) (_ : commit ∈ history) :
      Attempt.Matches (fun (m : Minuted S) s => m.state = s) Eq Eq (oracle.minuted commit)
        (oracle commit) := by
    rintro m s rfl
    exact ⟨.of_eq rfl, rfl⟩
  obtain ⟨houtcome, hstate⟩ := findIntroduction_matches alike m m.state rfl
  rw [houtcome.eq, hstate]

/-- The questions about positions are those in the minutes. -/
def Heard (history : List String) (qs : List Question)
    (minutes : List (String × Except SurveyError Bool)) : Prop :=
  minutes.map (fun m => (some m.1, m.2)) = qs.map fun q => (history[q.1]?, q.2)

/-- The oracle has given this answer, in whatever state it was in. -/
def Oracle.Gave (oracle : Oracle S) (history : List String) (q : Question) : Prop :=
  ∃ commit s, history[q.1]? = some commit ∧ ((oracle commit).exec s).1 = q.2

/-- From every state, the job asks the oracle questions that stand in the relation to its
outcome, and puts them at the end of the minutes. -/
def Asks {α : Type} (history : List String) (oracle : Oracle S) (job : Job (Minuted S) α)
    (Q : List Question → Except SurveyError α → Prop) : Prop :=
  ∀ m, ∃ qs minutes, (job.exec m).2.minutes = m.minutes ++ minutes ∧ Heard history qs minutes ∧
    (∀ q ∈ qs, oracle.Gave history q) ∧ Q qs (job.exec m).1

section Asks

variable {α : Type} {history : List String} {oracle : Oracle S}
  {Q : List Question → Except SurveyError α → Prop}

theorem Asks.pure {a : α} (h : Q [] (.ok a)) : Asks history oracle (Pure.pure a) Q :=
  fun m => ⟨[], [], (List.append_nil m.minutes).symm, rfl, by simp, h⟩

/-- One question, and what is asked behind it. -/
theorem Asks.ask {next : Bool → Job (Minuted S) α} {i : Nat} {commit : String}
    (hi : history[i]? = some commit) (failed : ∀ e, Q [(i, .error e)] (.error e))
    (answered : ∀ present,
      Asks history oracle (next present) fun qs r => Q ((i, .ok present) :: qs) r) :
    Asks history oracle (oracle.minuted commit >>= next) Q := by
  intro m
  have hexec := oracle.exec_minuted commit m
  have hgave : oracle.Gave history (i, ((oracle commit).exec m.state).1) :=
    ⟨commit, m.state, hi, rfl⟩
  rcases hanswer : ((oracle commit).exec m.state).1 with e | present <;>
    rw [hanswer] at hexec hgave
  · rw [Attempt.exec_bind_error hexec]
    exact ⟨[(i, .error e)], [(commit, .error e)], rfl, by simp [Heard, hi], by simpa using hgave,
      failed e⟩
  · rw [Attempt.exec_bind_ok hexec]
    obtain ⟨qs, minutes, hminutes, hheard, hall, hQ⟩ := answered present
      { state := ((oracle commit).exec m.state).2
        minutes := m.minutes ++ [(commit, .ok present)] }
    refine ⟨(i, .ok present) :: qs, (commit, .ok present) :: minutes, ?_, ?_, ?_, hQ⟩
    · rw [hminutes, List.append_assoc, List.singleton_append]
    · simpa [Heard, hi] using hheard
    · exact List.forall_mem_cons.2 ⟨hgave, hall⟩

theorem Asks.mono {job : Job (Minuted S) α} {P : List Question → Except SurveyError α → Prop}
    (h : Asks history oracle job P) (hPQ : ∀ qs r, P qs r → Q qs r) :
    Asks history oracle job Q := by
  intro m
  obtain ⟨qs, minutes, hminutes, hheard, hall, hP⟩ := h m
  exact ⟨qs, minutes, hminutes, hheard, hall, hPQ _ _ hP⟩

end Asks

/-! ## What a search asks -/

theorem narrow_asks (history : List String) (oracle : Oracle S) (lo hi evaluations : Nat)
    (within : hi < history.length) :
    Asks history oracle (narrow history oracle.minuted lo hi evaluations within)
      fun qs r => ∃ v, Halving history lo hi qs v ∧
        r = v.map fun verdict => ⟨verdict, evaluations + qs.length⟩ := by
  -- along the halving, with what is counted so far in front
  induction lo, hi, evaluations, within using narrow.induct with
  | case1 lo hi evaluations within apart mid ihlo ihhi =>
    rw [narrow, dif_pos apart]
    refine Asks.ask (i := middle lo hi) (List.getElem?_eq_getElem _) ?_ ?_
    · intro e
      exact ⟨.error e, .failed apart, rfl⟩
    · intro present
      cases present with
      | true =>
        refine ihlo.mono ?_
        rintro qs r ⟨v, hv, rfl⟩
        refine ⟨v, .present apart hv, ?_⟩
        rw [List.length_cons, Nat.add_assoc, Nat.add_comm 1]
      | false =>
        refine ihhi.mono ?_
        rintro qs r ⟨v, hv, rfl⟩
        refine ⟨v, .absent apart hv, ?_⟩
        rw [List.length_cons, Nat.add_assoc, Nat.add_comm 1]
  | case2 lo hi evaluations within apart =>
    rw [narrow, dif_neg apart]
    exact .pure ⟨_, .neighbours (Nat.le_of_not_lt apart) within, rfl⟩

/-- What is counted by hand is the number of questions. -/
theorem findIntroduction_asks (history : List String) (oracle : Oracle S) :
    Asks history oracle (findIntroduction history oracle.minuted)
      fun qs r => ∃ v, Protocol history qs v ∧
        r = v.map fun verdict => ⟨verdict, qs.length⟩ := by
  cases history with
  | nil => exact .pure ⟨_, .empty rfl, rfl⟩
  | cons oldest rest =>
    rw [findIntroduction]
    have size : (oldest :: rest).length = rest.length + 1 := rfl
    have newest : (oldest :: rest)[rest.length]? =
        some ((oldest :: rest).getLast (List.cons_ne_nil oldest rest)) := by
      rw [← List.getLast?_eq_some_getLast, List.getLast?_eq_getElem?, size]
      rfl
    refine Asks.ask newest (fun e => ⟨.error e, .newestFailed size, rfl⟩) ?_
    intro present
    cases present with
    | false => exact .pure ⟨_, .absent size, rfl⟩
    | true =>
      cases rest with
      | nil => exact .pure ⟨_, .alone rfl, rfl⟩
      | cons second rest =>
        have more : 0 < (second :: rest).length := Nat.zero_lt_succ _
        refine Asks.ask (i := 0) rfl (fun e => ⟨.error e, .oldestFailed size more, rfl⟩) ?_
        intro present
        cases present with
        | true => exact .pure ⟨_, .present size more, rfl⟩
        | false =>
          refine (narrow_asks _ oracle 0 _ 2 _).mono ?_
          rintro qs r ⟨v, hv, rfl⟩
          refine ⟨v, .halved size more hv, ?_⟩
          simp only [List.length_cons, Nat.add_comm 2]

/-- The search and its minutes, read as one protocol. -/
theorem exists_protocol (history : List String) (oracle : Oracle S) (s : S) :
    ∃ v qs minutes s',
      (findIntroduction history oracle).exec s =
        (v.map fun verdict => ⟨verdict, qs.length⟩, s') ∧
      (findIntroduction history oracle.minuted).exec { state := s } =
        (v.map fun verdict => ⟨verdict, qs.length⟩, { state := s', minutes }) ∧
      Heard history qs minutes ∧ (∀ q ∈ qs, oracle.Gave history q) ∧ Protocol history qs v := by
  obtain ⟨qs, minutes, hminutes, hheard, hgave, v, hv, hr⟩ :=
    findIntroduction_asks history oracle { state := s }
  have hsame := findIntroduction_minuted history oracle { state := s }
  rcases hrun : (findIntroduction history oracle.minuted).exec { state := s } with ⟨r, s', ms⟩
  rw [hrun] at hminutes hr hsame
  obtain rfl : ms = minutes := by simpa using hminutes
  obtain rfl := hr
  exact ⟨v, qs, ms, s', hsame, rfl, hheard, hgave, hv⟩

/-- **A search asks little, and each thing once.**

Whatever the oracle does, the search comes to an end. It asks about no position twice, about
two positions and the logarithm of the rest at most, and it counts its questions. The first
question that fails is the last one, and its error is that of the search. -/
theorem findIntroduction_frugal (history : List String) (oracle : Oracle S) (s : S) :
    ∃ v qs minutes s',
      (findIntroduction history oracle).exec s =
        (v.map fun verdict => ⟨verdict, qs.length⟩, s') ∧
      (findIntroduction history oracle.minuted).exec { state := s } =
        (v.map fun verdict => ⟨verdict, qs.length⟩, { state := s', minutes }) ∧
      Heard history qs minutes ∧ Protocol history qs v ∧ (qs.map Prod.fst).Nodup ∧
      FailsLast qs v ∧ min 1 history.length ≤ qs.length ∧
      qs.length ≤ mostQuestions history.length := by
  obtain ⟨v, qs, minutes, s', hexec, hminuted, hheard, -, hv⟩ := exists_protocol history oracle s
  exact ⟨v, qs, minutes, s', hexec, hminuted, hheard, hv, hv.nodup, hv.failsLast,
    hv.min_le_length, hv.length_le⟩

/-- **A commit is named on the word of two neighbours.**

Nothing is asked of the oracle, which may contradict itself. If a search names a commit, then in
this very search the oracle was asked about a position at which that commit stands and said yes,
and it was asked about the position before and said no. -/
theorem introduced_between {history : List String} {oracle : Oracle S} {s s' : S}
    {commit : String} {evaluations : Nat}
    (h : (findIntroduction history oracle).exec s =
      (.ok ⟨.introduced commit, evaluations⟩, s')) :
    ∃ qs minutes,
      (findIntroduction history oracle.minuted).exec { state := s } =
        (.ok ⟨.introduced commit, evaluations⟩, { state := s', minutes }) ∧
      Heard history qs minutes ∧ Protocol history qs (.ok (.introduced commit)) ∧
      ∃ i, history[i + 1]? = some commit ∧ (i + 1, .ok true) ∈ qs ∧ (i, .ok false) ∈ qs := by
  obtain ⟨v, qs, minutes, s'', hexec, hminuted, hheard, -, hv⟩ := exists_protocol history oracle s
  rw [h] at hexec
  obtain ⟨hr, rfl⟩ := Prod.mk.inj hexec
  rcases v with e | verdict
  · cases hr
  · cases hr
    exact ⟨qs, minutes, hminuted, hheard, hv, hv.witnesses⟩

/-- Yes at the second commit and at the last, and no at the others, with a count of the questions:
an oracle for which the thing has gone away again. -/
def wavering : Oracle Nat := fun commit asked => (.ok (commit == "b" || commit == "d"), asked + 1)

/-- The second commit is named, between the first and itself. -/
theorem introduced_between_wavering :
    (findIntroduction ["a", "b", "c", "d"] wavering).exec 0 = (.ok ⟨.introduced "b", 3⟩, 3) ∧
    ∃ qs minutes,
      (findIntroduction ["a", "b", "c", "d"] wavering.minuted).exec { state := 0 } =
        (.ok ⟨.introduced "b", 3⟩, { state := 3, minutes }) ∧
      Heard ["a", "b", "c", "d"] qs minutes ∧
      Protocol ["a", "b", "c", "d"] qs (.ok (.introduced "b")) ∧
      ∃ i, ["a", "b", "c", "d"][i + 1]? = some "b" ∧ (i + 1, .ok true) ∈ qs ∧
        (i, .ok false) ∈ qs := by
  have hwavering (commit : String) (asked : Nat) :
      (wavering commit).exec asked = (.ok (commit == "b" || commit == "d"), asked + 1) := rfl
  have hexec : (findIntroduction ["a", "b", "c", "d"] wavering).exec 0 =
      (.ok ⟨.introduced "b", 3⟩, 3) := by
    simp [findIntroduction, narrow, Attempt.exec_bind, hwavering]
  exact ⟨hexec, introduced_between hexec⟩

end FeatureSurvey.Bisect
