import FeatureSurvey.Proofs.Run.Period

/-!
# `Proofs/Run/Standstill.lean` — a world that stands still

What a `Period` asks of a world can be kept, and here is a host that keeps it, whatever is in its
files and whatever its tools print. The only things that change in a `Standstill` are directories of
our own, and all of its time is one period (`Standstill.laws`).

The name of our `n`th directory is a row of `n + 1` hashes. A text that does not begin with a hash
is therefore apart from all of them (`Standstill.own_of_plain`).
-/

set_option autoImplicit false

namespace FeatureSurvey

/-- What stays as it is. -/
structure Fixtures where
  environment : String → Option String := fun _ => none
  file : String → Option (Except OsError ByteArray)
  tool : CommandLine → ToolRun

structure Standstill (x : Fixtures) where
  own : String → Option Holding := fun _ => none
  /-- How many directories of our own have been made. -/
  made : Nat := 0

namespace Standstill

variable {x : Fixtures}

def put (w : Standstill x) (name : String) (holding : Option Holding) : Standstill x :=
  { w with own := Function.update w.own name holding }

/-! ## Names of our own -/

def scratch (n : Nat) : String := String.ofList (List.replicate (n + 1) '#')

/-- A text that begins with no hash. -/
def Plain (name : String) : Prop := name.toList.head? ≠ some '#'

instance (name : String) : Decidable (Plain name) := inferInstanceAs (Decidable (_ ≠ _))

theorem makefileIn_scratch (n : Nat) : (RulesParser.makefileIn (scratch n)).toList =
    List.replicate (n + 1) '#' ++ "/rules".toList := by
  have hrelative : Path.isAbsolute "rules" = false := by decide
  have hopen : ((scratch n).isEmpty || Text.endsWith (scratch n) "/") = false := by
    rw [Bool.or_eq_false_iff]
    constructor
    · rw [Bool.eq_false_iff, ne_eq, String.isEmpty_iff]
      intro hempty
      have hlist := congrArg String.toList hempty
      simp [scratch] at hlist
    · have hslash : "/".toList.reverse = ['/'] := rfl
      rw [Text.endsWith, hslash, scratch, String.toList_ofList, List.reverse_replicate]
      rfl
  rw [RulesParser.makefileIn, Path.join, hrelative, if_neg Bool.false_ne_true, hopen,
    if_neg Bool.false_ne_true]
  simp [scratch, String.toList_append]

theorem makefileIn_scratch_inj {n k : Nat}
    (h : RulesParser.makefileIn (scratch n) = RulesParser.makefileIn (scratch k)) : n = k := by
  have hlength := congrArg (fun name => name.toList.length) h
  simp only [makefileIn_scratch, List.length_append, List.length_replicate] at hlength
  omega

/-! ## The period -/

def period (x : Fixtures) : Period (Standstill x) where
  During w := ∀ name, w.own name ≠ none →
    ∃ n < w.made, name = RulesParser.makefileIn (scratch n)
  own := own
  Apart := Plain
  environment := x.environment
  file := x.file
  result line timeout :=
    match x.tool line with
    | .exited output => if (timeout.deadline? 0).isSome then some output else none
    | _ => none
  canMake := true
  canCopy rules := ((x.file rules).map fun r => r.isOk).getD false
  canAppend _ := true

instance : Host (Standstill x) where
  environment? _ := x.environment
  workingDirectory _ := .error .notFound
  entryKind? w path :=
    match w.own path with
    | some .empty => none
    | some _ => some .file
    | none => (x.file path).map fun _ => .file
  readFile w path :=
    match w.own path with
    | some _ => .error .accessDenied
    | none => (x.file path).getD (.error .notFound)
  listDirectory _ _ := .error .notFound
  canonicalPath _ path := .ok path
  uptime _ := 0
  wallClock _ := 0
  run command _ w := (x.tool ((period x).line w command), w)
  writeFile _ _ w := (.error .accessDenied, w)
  appendFile path _ w :=
    match w.own path with
    | some (.copied rules) => (.ok (), w.put path (some (.ready rules)))
    | _ => (.error .accessDenied, w)
  copyFile rules path w :=
    match x.file rules with
    | some (.ok _) => (.ok (), w.put path (some (.copied rules)))
    | _ => (.error .notFound, w)
  makeDirectories _ w := (.error .accessDenied, w)
  removeTree directory w := (.ok (), w.put (RulesParser.makefileIn directory) none)
  makeTemporary _ w :=
    (.ok (scratch w.made), { w with made := w.made + 1 }.put
      (RulesParser.makefileIn (scratch w.made)) (some .empty))
  temporaryRoot _ := "."

variable {w : Standstill x}

theorem during_put (h : (period x).During w) {name : String}
    (hname : (period x).own w name ≠ none) (holding : Option Holding) :
    (period x).During (w.put name holding) := by
  intro other hother
  by_cases heq : other = name
  · subst heq
    exact h other hname
  · refine h other ?_
    have hsame : (w.put name holding).own other = w.own other := Function.update_of_ne heq _ _
    rwa [hsame] at hother

theorem unmade (h : (period x).During w) :
    (period x).own w (RulesParser.makefileIn (scratch w.made)) = none := by
  by_contra hheld
  obtain ⟨n, hn, heq⟩ := h _ hheld
  exact (Nat.ne_of_lt hn) (makefileIn_scratch_inj heq).symm

theorem during_make (h : (period x).During w) : (period x).During
    ({ w with made := w.made + 1 }.put (RulesParser.makefileIn (scratch w.made))
      (some .empty)) := by
  intro other hother
  by_cases heq : other = RulesParser.makefileIn (scratch w.made)
  · exact ⟨w.made, Nat.lt_succ_self _, heq⟩
  · have hsame : Function.update w.own (RulesParser.makefileIn (scratch w.made)) (some .empty)
      other = w.own other := Function.update_of_ne heq _ _
    have hheld : w.own other ≠ none := by
      rw [← hsame]
      exact hother
    obtain ⟨n, hn, heq⟩ := h other hheld
    exact ⟨n, Nat.lt_succ_of_lt hn, heq⟩

/-- Nothing of our own has a plain name. -/
theorem own_of_plain (h : (period x).During w) {name : String} (hname : Plain name) :
    w.own name = none := by
  by_contra hheld
  obtain ⟨n, -, rfl⟩ := h name hheld
  refine hname ?_
  rw [makefileIn_scratch, List.replicate_succ]
  rfl

/-- **All of its time is one period.** -/
theorem laws (x : Fixtures) : (period x).Laws where
  apart h hname := own_of_plain h hname
  environment _ _ := rfl
  file {w path} h hname := by
    have hheld := own_of_plain h hname
    simp only [Host.isFile, Host.entryKind?, Host.readFile, hheld]
    cases hfile : x.file path with
    | none => exact hfile.symm
    | some r => exact hfile.symm
  result {w command} _ _ timeout := by
    rw [Tool.exec_run]
    show (Tool.judge command timeout 0 (x.tool ((period x).line w command))).toOption =
      match x.tool ((period x).line w command) with
      | .exited output => if (timeout.deadline? 0).isSome then some output else none
      | _ => none
    cases x.tool ((period x).line w command) with
    | exited output | overran | lost output =>
      rw [Tool.judge]
      split <;> rfl
    | notStarted cause => rfl
  run h _ _ := ⟨h, rfl⟩
  makeTemporary {w} h := ⟨rfl, during_make h, unmade h, rfl⟩
  copyFile {w rules makefile} h _ hempty := by
    have hmakefile : (period x).own w makefile ≠ none := by
      rw [hempty]
      exact Option.some_ne_none _
    simp only [Host.copyFile]
    rcases hfile : x.file rules with _ | e | bytes
    · exact ⟨by simp [period, hfile], h, .empty, (by rw [← hempty, Function.update_eq_self])⟩
    · exact ⟨by simp [period, hfile]; rfl, h, .empty, (by rw [← hempty, Function.update_eq_self])⟩
    · exact ⟨by simp [period, hfile]; rfl, during_put h hmakefile _, rfl⟩
  appendFile {w rules makefile} h hcopied := by
    have hmakefile : (period x).own w makefile ≠ none := by
      rw [hcopied]
      exact Option.some_ne_none _
    have hheld : w.own makefile = some (.copied rules) := hcopied
    simp only [Host.appendFile, hheld]
    exact ⟨rfl, during_put h hmakefile _, rfl⟩
  removeTree {w directory left} h hleft := by
    have hmakefile : (period x).own w (RulesParser.makefileIn directory) ≠ none := by
      rw [hleft]
      exact Option.some_ne_none _
    exact ⟨during_put h hmakefile none, none, rfl⟩

theorem during_start : (period x).During {} := fun _ h => absurd rfl h

end Standstill

end FeatureSurvey
