import FeatureSurvey.Proofs.Config.Names
import FeatureSurvey.Proofs.Run.Phases
import FeatureSurvey.Proofs.Run.Standstill

/-!
# `Proofs/Run/Deadline.lean` — limits that end beyond the clock

The limit for tools may be any number of seconds but zero. The moment at which it ends is counted in
a signed word, and it is worked out when the tool has been started already. If the clock cannot tell
it, the tool runs on, and nobody will stop it or read what it says.

**A tool under the limit of an accepted configuration meets with this just when it was started and
the limit ends beyond the clock's range, and a run meets with it only where one of its tools does**
(`Config.toolTimeout_deadlines`). Accepting a configuration does not look at the clock: what is
asked of the limit is that it is not zero (`Config.validate_withTimeout_iff`), and under the
greatest limit no tool gives an answer.

That a run meets with it nowhere else is what `Proofs/Run/Phases.lean` says of errors at work. The
sort is that of errors which a tool has to answer for (`LateOnly`), and the invariant is that the
steps of the host lead to a world from where the run began (`Host.Reaches`).
-/

set_option autoImplicit false

namespace FeatureSurvey

/-! ## The end of a limit -/

theorem Timeout.seconds_ofSeconds (limit : UInt64) :
    (Timeout.ofSeconds limit).seconds = limit.toNat := by
  simp [Timeout.ofSeconds, Timeout.seconds]

theorem Timeout.deadline?_ofSeconds_isSome (start : Nat) (limit : UInt64) :
    ((Timeout.ofSeconds limit).deadline? start).isSome = true ↔
      start + limit.toNat < Timeout.clockRange := by
  rw [Timeout.deadline?, Timeout.seconds_ofSeconds]
  split <;> simp [*]

/-! ## Tools -/

def ToolRun.WasStarted (result : ToolRun) : Prop := ∀ cause, result ≠ .notStarted cause

namespace Tool

theorem judge_late_iff (command : Command) (limit : UInt64) (start : Nat) (result : ToolRun) :
    judge command (.ofSeconds limit) start result = .error (.deadlineOutOfRange command.describe) ↔
      result.WasStarted ∧ Timeout.clockRange ≤ start + limit.toNat := by
  rw [← Nat.not_lt, ← Timeout.deadline?_ofSeconds_isSome]
  cases result with
  | notStarted cause =>
    refine iff_of_false (by simp [judge]) ?_
    rintro ⟨hstarted, -⟩
    exact hstarted cause rfl
  | exited output =>
    have hstarted : (ToolRun.exited output).WasStarted := fun _ h => by cases h
    rw [judge, and_iff_right hstarted]
    split <;> simp [*]
  | overran =>
    have hstarted : ToolRun.overran.WasStarted := fun _ h => by cases h
    rw [judge, and_iff_right hstarted]
    split <;> simp [*]
  | lost cause =>
    have hstarted : (ToolRun.lost cause).WasStarted := fun _ h => by cases h
    rw [judge, and_iff_right hstarted]
    split <;> simp [*]

theorem judge_ne_ok {command : Command} {limit : UInt64} {start : Nat}
    (hlimit : Timeout.clockRange ≤ limit.toNat) (result : ToolRun) (output : ToolOutput) :
    judge command (.ofSeconds limit) start result ≠ .ok output := by
  have hnone : ((Timeout.ofSeconds limit).deadline? start).isSome = false := by
    rw [Bool.eq_false_iff, ne_eq, Timeout.deadline?_ofSeconds_isSome]
    omega
  cases result <;> simp [judge, hnone]

end Tool

/-! ## Worlds on the way -/

/-- The steps of the host lead there. -/
inductive Host.Reaches {W : Type} [Host W] (start : W) : W → Prop
  | here : Host.Reaches start start
  | run {w : W} (command : Command) (timeout : Timeout) (before : Host.Reaches start w) :
      Host.Reaches start (Host.run command timeout w).2
  | writeFile {w : W} (path : String) (bytes : ByteArray) (before : Host.Reaches start w) :
      Host.Reaches start (Host.writeFile path bytes w).2
  | appendFile {w : W} (path : String) (bytes : ByteArray) (before : Host.Reaches start w) :
      Host.Reaches start (Host.appendFile path bytes w).2
  | copyFile {w : W} (source dest : String) (before : Host.Reaches start w) :
      Host.Reaches start (Host.copyFile source dest w).2
  | makeDirectories {w : W} (path : String) (before : Host.Reaches start w) :
      Host.Reaches start (Host.makeDirectories path w).2
  | removeTree {w : W} (path : String) (before : Host.Reaches start w) :
      Host.Reaches start (Host.removeTree path w).2
  | makeTemporary {w : W} (front : String) (before : Host.Reaches start w) :
      Host.Reaches start (Host.makeTemporary front w).2

theorem Host.lasts_reaches {W : Type} [Host W] (start : W) :
    Host.Lasts (Host.Reaches start) where
  run command timeout _ := .run command timeout
  writeFile path bytes _ := .writeFile path bytes
  appendFile path bytes _ := .appendFile path bytes
  copyFile source dest _ := .copyFile source dest
  makeDirectories path _ := .makeDirectories path
  removeTree path _ := .removeTree path
  makeTemporary front _ := .makeTemporary front

/-- If the error is that a limit ends beyond the clock's range, then a tool was started, in a world
on the way, whose limit does. -/
def LateOnly {W : Type} [Host W] (start : W) (limit : UInt64) (e : SurveyError) : Prop :=
  ∀ text, e = .deadlineOutOfRange text → ∃ (w : W) (command : Command), Host.Reaches start w ∧
    command.describe = text ∧ (Host.run command (.ofSeconds limit) w).1.WasStarted ∧
    Timeout.clockRange ≤ Host.uptime w + limit.toNat

theorem takesIn_lateOnly {W : Type} [Host W] (start : W) (limit : UInt64) :
    TakesIn (Host.Reaches start) (.ofSeconds limit) (LateOnly start limit) where
  lasts := Host.lasts_reaches start
  ordinary e he text heq := by
    have hordinary := he.2
    rw [heq] at hordinary
    cases hordinary
  late command w hw hlate := by
    intro text heq
    cases heq
    exact ⟨w, command, hw, rfl, (Tool.judge_late_iff _ _ _ _).1 hlate⟩

/-! ## Accepted configurations -/

namespace Config

/-- What is asked of the limit is that it is not zero. -/
theorem validate_withTimeout_iff {c : Config} (h : c.validate = .ok ()) (limit : UInt64) :
    ({ c with toolTimeout := limit } : Config).validate = .ok () ↔ limit ≠ 0 := by
  obtain ⟨hdetectors, hparsers, -⟩ := validate_eq_ok_iff.1 h
  rw [validate_eq_ok_iff]
  exact ⟨fun haccepted => haccepted.2.2, fun hlimit => ⟨hdetectors, hparsers, hlimit⟩⟩

/-- **A tool under the limit of an accepted configuration is left without a deadline just when it
was started and the limit ends beyond the clock's range.** A run ends in this way only if one of its
tools, on the way, was left so. Accepting a configuration does not rule it out: every limit but zero
is accepted, and under one that is beyond the clock's range by itself no tool gives an answer. -/
theorem toolTimeout_deadlines {W : Type} [Host W] {c : Config} (h : c.validate = .ok ()) :
    (∀ limit, ({ c with toolTimeout := limit } : Config).validate = .ok () ↔ limit ≠ 0) ∧
    (∀ (command : Command) (w : W),
      ((Tool.run command (.ofSeconds c.toolTimeout)).exec w).1 =
          .error (.deadlineOutOfRange command.describe) ↔
        (Host.run command (.ofSeconds c.toolTimeout) w).1.WasStarted ∧
          Timeout.clockRange ≤ Host.uptime w + c.toolTimeout.toNat) ∧
    (∀ inputs requested (s : Session W) text,
      ((Runner.run (BuiltIn.builder c inputs) requested).exec s).1 =
          .error (.deadlineOutOfRange text) →
        ∃ (w : W) (command : Command), Host.Reaches s.world w ∧ command.describe = text ∧
          (Host.run command (.ofSeconds c.toolTimeout) w).1.WasStarted ∧
          Timeout.clockRange ≤ Host.uptime w + c.toolTimeout.toNat) ∧
    (Timeout.clockRange ≤ c.toolTimeout.toNat → ∀ (command : Command) (w : W) output,
      ((Tool.run command (.ofSeconds c.toolTimeout)).exec w).1 ≠ .ok output) := by
  refine ⟨validate_withTimeout_iff h, fun command w => Tool.judge_late_iff _ _ _ _,
    fun inputs requested s text hlate => ?_, fun hlimit command w => Tool.judge_ne_ok hlimit _⟩
  have hconfiguration : ∀ e : SurveyError, e.isConfiguration = true →
      LateOnly s.world c.toolTimeout e := by
    rintro e he text rfl
    cases he
  have hfails : Attempt.Fails (fun t : Session W => Host.Reaches s.world t.world)
      (LateOnly s.world c.toolTimeout) (Runner.run (BuiltIn.builder c inputs) requested) :=
    BuiltIn.run_fails (takesIn_lateOnly s.world c.toolTimeout) hconfiguration
  exact (hfails s .here).2 _ hlate text rfl

/-- A tree where the search tool finds nothing, whatever it looks for. -/
def searchedTree : Fixtures where
  file _ := none
  tool _ := .exited ⟨some 1, "", ""⟩

/-- A search for casts. -/
def castSearch : Config where
  detectors := [{ name := "casts", kind := "named-cast", features := ["dynamic_cast"] }]

/-- With the usual limit, and a clock that stands at its beginning, no run comes to this. -/
theorem toolTimeout_deadlines_castSearch :
    castSearch.validate = .ok () ∧
      ∀ inputs requested (s : Session (Standstill searchedTree)) text,
        ((Runner.run (BuiltIn.builder castSearch inputs) requested).exec s).1 ≠
          .error (.deadlineOutOfRange text) := by
  have hvalid : castSearch.validate = .ok () := by decide
  refine ⟨hvalid, fun inputs requested s text hlate => ?_⟩
  obtain ⟨w, -, -, -, -, hrange⟩ :=
    (toolTimeout_deadlines hvalid).2.2.1 inputs requested s text hlate
  have hnow : Timeout.clockRange ≤ 0 + 300 := hrange
  exact absurd hnow (by decide)

/-- The same with the greatest limit that can be written down. -/
def patientSearch : Config := { castSearch with toolTimeout := 18446744073709551615 }

/-- The greatest limit is accepted, and the first tool that is started ends the run. -/
theorem validate_deadlineOutOfRange :
    patientSearch.validate = .ok () ∧
      ((Runner.run (BuiltIn.builder patientSearch { sourceDir := some "src" })
          ["dynamic_cast"]).exec
          ({ world := {} } : Session (Standstill searchedTree))).1 =
        .error (.deadlineOutOfRange
          "grep -i -r --include *.h --include *.cpp -E dynamic_cast<.+> src") := by
  refine ⟨by decide, ?_⟩
  decide +kernel

end Config

end FeatureSurvey
