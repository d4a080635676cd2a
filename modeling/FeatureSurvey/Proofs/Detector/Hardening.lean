import FeatureSurvey.Detector.Hardening
import FeatureSurvey.Proofs.Run.Exchanges

/-!
# `Proofs/Detector/Hardening.lean` — the audit is run until it has given a report

A detector of protections is asked again and again, and each start of its audit may end in any way:
with any status, by a signal, past its limit, or not at all. As long as there is no report, every
question starts the audit once, and its failure is the answer to that question alone (`Fruitless`).
The first audit that ends with the status zero or one gives the report (`Reported`), and from then
on every answer is read off that report and nothing is started any more (`Served`). An answer may
well be an error, because the feature is unknown or the report has no entry for it; that changes
nothing for the questions behind it.

**So there is one report for a whole session** (`detect_auditsOnce`), and the detector's own count
of its audits is the number of times that a tool was started.
-/

set_option autoImplicit false

namespace FeatureSurvey

/-- A tool was started, or was tried to be. -/
def Event.isStart : Event → Bool
  | .ran _ _ => true
  | _ => false

namespace HardeningDetector

variable {W : Type}

/-- The report that a session keeps. -/
def report? (d : HardeningDetector) (s : Session W) : Option (Table String) :=
  s.memory.reports.get? d.name

/-- An audit that gives no report, and the error that comes of it. -/
inductive NoReport (d : HardeningDetector) : Except SurveyError ToolOutput → SurveyError → Prop
  /-- It was not started, or it did not come to its end. -/
  | unfinished (e : SurveyError) : NoReport d (.error e) e
  | refused {output : ToolOutput} (hzero : output.status ≠ some 0) (hone : output.status ≠ some 1) :
      NoReport d (.ok output) (Tool.failed d.command.describe output)

/-- The audit was started once and gave no report. -/
def Fruitless (d : HardeningDetector) (x : Exchange W String FeatureValue) : Prop :=
  ∃ result e, x.steps = [.ran d.command result] ∧ d.NoReport result e ∧ x.outcome = .error e ∧
    d.report? x.after = none

/-- The audit was started once and gave this report. -/
structure Reported (d : HardeningDetector) (report : Table String)
    (x : Exchange W String FeatureValue) : Prop where
  audit : ∃ output, x.steps = [.ran d.command (.ok output)] ∧
    (output.status = some 0 ∨ output.status = some 1) ∧ report = Report.parse output.stdout
  answer : x.outcome = d.answer report x.question
  kept : d.report? x.after = some report

/-- The answer was read off the report. -/
structure Served (d : HardeningDetector) (report : Table String)
    (x : Exchange W String FeatureValue) : Prop where
  answer : x.outcome = d.answer report x.question
  quiet : x.steps = []
  unchanged : x.after = x.before

/-- The memory when one more audit has been counted. -/
def counted (d : HardeningDetector) (s : Session W) : Memory :=
  { s.memory with audits := s.memory.audits.insert d.name (d.invocations s + 1) }

/-- An exchange for which the audit was started, by what came of it. -/
inductive Audit (d : HardeningDetector) (s : Session W) (feature : String) :
    Exchange W String FeatureValue → Prop
  | fruitless {result : Except SurveyError ToolOutput} {e : SurveyError} {w : W}
      (h : d.NoReport result e) :
      Audit d s feature ⟨feature, s, .error e, [.ran d.command result], ⟨w, d.counted s⟩⟩
  | reported {output : ToolOutput} {w : W}
      (h : output.status = some 0 ∨ output.status = some 1) :
      Audit d s feature
        ⟨feature, s, d.answer (Report.parse output.stdout) feature, [.ran d.command (.ok output)],
          ⟨w, { d.counted s with
            reports := s.memory.reports.insert d.name (Report.parse output.stdout) }⟩⟩

theorem reportOf_of_status {d : HardeningDetector} {output : ToolOutput}
    (h : output.status = some 0 ∨ output.status = some 1) :
    d.reportOf output = .ok (Report.parse output.stdout) := by
  simp [reportOf, h]

theorem reportOf_of_not_status {d : HardeningDetector} {output : ToolOutput}
    (h : ¬ (output.status = some 0 ∨ output.status = some 1)) :
    d.reportOf output = .error (Tool.failed d.command.describe output) := by
  simp [reportOf, h]

theorem noReport_of_not_status {d : HardeningDetector} {output : ToolOutput}
    (h : ¬ (output.status = some 0 ∨ output.status = some 1)) :
    d.NoReport (.ok output) (Tool.failed d.command.describe output) :=
  .refused (fun hzero => h (.inl hzero)) (fun hone => h (.inr hone))

variable [Host W] {d : HardeningDetector} {s : Session W}

/-! ## One question -/

theorem put_kept {report : Table String} (h : d.report? s = some report) (feature : String) :
    Exchange.put d.detect s feature = ⟨feature, s, d.answer report feature, [], s⟩ := by
  apply Exchange.put_eq
  unfold report? at h
  simp [detect, HardeningDetector.report, Attempt.exec_bind, h]
  rfl

/-- Without a report the audit is started, and a report that it gives is kept. -/
theorem exec_detect_open (h : d.report? s = none) (feature : String) :
    (d.detect feature : Job (Session (Recorded W)) FeatureValue).exec s.recording =
      let (result, w) := (Tool.run d.command d.timeout : Job W ToolOutput).exec s.world
      match result.bind d.reportOf with
      | .ok report =>
        (d.answer report feature, ⟨⟨w, [.ran d.command result]⟩,
          { d.counted s with reports := s.memory.reports.insert d.name report }⟩)
      | .error e => (.error e, ⟨⟨w, [.ran d.command result]⟩, d.counted s⟩) := by
  unfold report? at h
  simp only [detect, HardeningDetector.report, Attempt.exec_bind, Attempt.exec_ask,
    Session.memory_recording, h, Session.remember, Attempt.exec_always, Session.exec_onWorld,
    Session.world_recording, Tool.exec_run_recorded, List.nil_append]
  rcases (Tool.run d.command d.timeout : Job W ToolOutput).exec s.world with ⟨e | output, w⟩
  · rfl
  · simp only [Attempt.exec_ofExcept, Except.bind]
    cases d.reportOf output <;> rfl

theorem put_open (h : d.report? s = none) (feature : String) :
    d.Audit s feature (Exchange.put d.detect s feature) := by
  have hexec := exec_detect_open h feature
  rcases hrun : (Tool.run d.command d.timeout : Job W ToolOutput).exec s.world with
    ⟨e | output, w⟩ <;> rw [hrun] at hexec
  · rw [Exchange.put_eq hexec]
    exact .fruitless (.unfinished e)
  · by_cases hstatus : output.status = some 0 ∨ output.status = some 1
    · simp only [Except.bind, reportOf_of_status hstatus] at hexec
      rw [Exchange.put_eq hexec]
      exact .reported hstatus
    · simp only [Except.bind, reportOf_of_not_status hstatus] at hexec
      rw [Exchange.put_eq hexec]
      exact .fruitless (noReport_of_not_status hstatus)

theorem invocations_put (s : Session W) (feature : String) :
    d.invocations (Exchange.put d.detect s feature).after =
      d.invocations s + (Exchange.put d.detect s feature).steps.countP Event.isStart := by
  cases h : d.report? s with
  | some report =>
    rw [put_kept h]
    rfl
  | none =>
    have haudit := put_open h feature
    generalize Exchange.put d.detect s feature = x at haudit
    cases haudit with
    | fruitless _ => simp [invocations, counted, Event.isStart]
    | reported _ => simp [invocations, counted, Event.isStart]

/-! ## All questions -/

/-- **One report answers everything.**

Whatever the audit does when it is started, and whatever happens between two questions: it is
started once for each question up to the one for which it gives a report, and never again. -/
theorem detect_auditsOnce (d : HardeningDetector) (w : W) (rounds : List (Round W String)) :
    Settles d.Fruitless d.Reported d.Served (exchanges d.detect { world := w } rounds) ∧
    ∀ done x rest, exchanges d.detect { world := w } rounds = done ++ x :: rest →
      d.invocations x.after = ((done ++ [x]).flatMap fun y => y.steps).countP Event.isStart := by
  constructor
  · apply settles_exchanges (fun s => d.report? s = none)
      (fun report s => d.report? s = some report)
    · intro round _ s h
      exact h
    · intro round _ report s h
      exact h
    · intro s feature h
      have haudit := put_open h feature
      generalize Exchange.put d.detect s feature = x at haudit
      cases haudit with
      | fruitless hnone => exact .inl ⟨⟨_, _, rfl, hnone, rfl, h⟩, h⟩
      | reported hstatus =>
        refine .inr ⟨_, ⟨⟨_, rfl, hstatus, rfl⟩, rfl, ?_⟩, ?_⟩
        · simp [report?]
        · simp [report?]
    · intro report s feature h
      rw [put_kept h]
      exact ⟨⟨rfl, rfl, rfl⟩, h⟩
    · rfl
  · intro done x rest hsplit
    have hcount := count_exchanges d.invocations Event.isStart (fun _ _ => rfl)
      invocations_put hsplit
    simpa [invocations] using hcount

end HardeningDetector

end FeatureSurvey
