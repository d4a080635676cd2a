import FeatureSurvey.Detector.LineDetectors
import FeatureSurvey.Proofs.Rules.Copy
import FeatureSurvey.Proofs.Text.Plain
import FeatureSurvey.Proofs.Text.Words

/-!
# `Proofs/Rules/Flag.lean` — a flag among the words of a variable

Two readers look at what `make` has printed for a variable. The parser looks for the one line that
begins with the name of the variable, a blank and an equals sign; the detector cuts that line at its
first equals sign and looks for the flag among the words behind it. They agree on where the value
begins because the name has no equals sign in it (`hasFlag_iff`). For the same reason the line of
another variable is never taken for the line of this one, not even if the one name begins with the
other (`eq_of_shows`).

**So the answer is a matter of the value alone** (`Detector.rulesFlag_answers`).
-/

set_option autoImplicit false

namespace FeatureSurvey

namespace Rules

open Text

variable {variableName other value line flag stdout : String}

/-- The line begins with the name of the variable, a blank and an equals sign. -/
def Shows (variableName line : String) : Prop := (variableName ++ " =").toList <+: line.toList

instance (variableName line : String) : Decidable (Shows variableName line) :=
  inferInstanceAs (Decidable ((variableName ++ " =").toList <+: line.toList))

/-- The lines of an output that show the variable. -/
def showing (variableName stdout : String) : List String :=
  (lines stdout).filter fun line => Shows variableName line

theorem shows_iff : Shows variableName line ↔ ∃ value, line = variableName ++ " =" ++ value := by
  constructor
  · rintro ⟨value, hvalue⟩
    refine ⟨String.ofList value, String.toList_inj.1 ?_⟩
    rw [String.toList_append, String.toList_ofList, hvalue]
  · rintro ⟨value, rfl⟩
    exact ⟨value.toList, String.toList_append.symm⟩

/-- Where the value begins: the blank belongs to the name, and the first equals sign divides. -/
theorem toList_assignment (variableName value : String) :
    (variableName ++ " =" ++ value).toList =
      (variableName.toList ++ [' ']) ++ '=' :: value.toList := by
  simp

theorem equals_not_mem (h : '=' ∉ variableName.toList) : '=' ∉ variableName.toList ++ [' '] := by
  simpa using h

/-- A line that assigns to one variable shows no other. -/
theorem eq_of_shows (h : '=' ∉ variableName.toList) (hother : '=' ∉ other.toList)
    (hshows : Shows variableName (other ++ " =" ++ value)) : other = variableName := by
  obtain ⟨value', hvalue⟩ := shows_iff.1 hshows
  have hlists := congrArg String.toList hvalue
  rw [toList_assignment, toList_assignment] at hlists
  obtain ⟨hnames, -⟩ := append_cons_inj (equals_not_mem hother) (equals_not_mem h) hlists
  exact String.toList_inj.1 (List.append_cancel_right hnames)

theorem shows_of_mem_showing (h : line ∈ showing variableName stdout) :
    Shows variableName line := by
  simpa using (List.mem_filter.1 h).2

theorem filter_startsWith_eq (variableName stdout : String) :
    (lines stdout).filter (fun line => startsWith line (variableName ++ " =")) =
      showing variableName stdout := by
  refine List.filter_congr fun line _ => ?_
  rw [Bool.eq_iff_iff, startsWith_iff_isPrefix, decide_eq_true_iff, Shows]

/-- The one line that shows the variable is the answer. -/
theorem variableLine_of_showing (h : showing variableName stdout = [line]) :
    variableLine stdout variableName = .ok line := by
  rw [variableLine, filter_startsWith_eq, h]

/-- No line or several lines that show the variable are no answer. -/
theorem variableLine_of_length_ne (h : (showing variableName stdout).length ≠ 1) :
    ∃ fault, variableLine stdout variableName = .error fault := by
  rw [variableLine, filter_startsWith_eq]
  rcases hshowing : showing variableName stdout with _ | ⟨first, _ | ⟨second, rest⟩⟩
  · exact ⟨_, rfl⟩
  · rw [hshowing] at h
    exact absurd rfl h
  · exact ⟨_, rfl⟩

/-- The flag is looked for behind the first equals sign, and that is the one behind the name. -/
theorem hasFlag_iff (h : '=' ∉ variableName.toList) :
    hasFlag (variableName ++ " =" ++ value) flag = true ↔ StandsIn flag.toList value.toList := by
  have hcut :
      splitOnce? (variableName ++ " =" ++ value) '=' = some (variableName ++ " ", value) := by
    rw [splitOnce?, toList_assignment, cutAt?_append (equals_not_mem h)]
    simp [String.ofList_append]
  rw [hasFlag, hcut, List.contains_iff_mem, mem_words_iff]

end Rules

namespace RulesParser

variable {W : Type} [Host W]

/-- The copy is there or can be made, and `make`, run on it for the variable, ends well and prints
this. -/
def Prints (p : RulesParser) (variableName stdout : String) (s s' : Session W) : Prop :=
  ∃ copy between w stderr, p.copy.exec s = (.ok copy, between) ∧
    (Tool.run (p.command copy variableName) p.timeout).exec between.world =
      (.ok ⟨some 0, stdout, stderr⟩, w) ∧
    s' = { between with world := w }

/-- What the parser makes of an output. -/
theorem exec_parse_variable {p : RulesParser} {variableName stdout : String} {s s' : Session W}
    (h : p.Prints variableName stdout s s') :
    ∃ command, (p.parse (.variable variableName)).exec s =
      (((Rules.variableLine stdout variableName).mapError (.toolOutput command)).map .value,
        s') := by
  obtain ⟨copy, between, w, stderr, hcopy, hrun, rfl⟩ := h
  refine ⟨(p.command copy variableName).describe, ?_⟩
  rw [parse, Attempt.exec_bind, variableLine, Attempt.exec_bind_ok hcopy]
  simp only [Attempt.exec_bind, Session.exec_onWorld, Tool.runChecked, hrun, Attempt.exec_ofExcept,
    Tool.checked, ToolOutput.success, beq_self_eq_true, if_true]
  cases Rules.variableLine stdout variableName with
  | error fault => rfl
  | ok line => rfl

end RulesParser

namespace Detector

open Rules

variable {W : Type} [Host W] {p : RulesParser} {variableName stdout line : String}
  {s s' : Session W}

theorem exec_rulesFlag_of_showing (name feature flag : String)
    (h : p.Prints variableName stdout s s') (hline : showing variableName stdout = [line]) :
    ((rulesFlag name p.toParser variableName flag).detect feature).exec s =
      (.ok (.bool (hasFlag line flag)), s') := by
  obtain ⟨command, hparse⟩ := RulesParser.exec_parse_variable h
  rw [variableLine_of_showing hline] at hparse
  exact Attempt.exec_bind_ok hparse

theorem exec_rulesFlag_of_length_ne (name feature flag : String)
    (h : p.Prints variableName stdout s s') (hne : (showing variableName stdout).length ≠ 1) :
    ∃ command fault, ((rulesFlag name p.toParser variableName flag).detect feature).exec s =
      (.error (.toolOutput command fault), s') := by
  obtain ⟨command, hparse⟩ := RulesParser.exec_parse_variable h
  obtain ⟨fault, hfault⟩ := variableLine_of_length_ne hne
  rw [hfault] at hparse
  exact ⟨command, fault, Attempt.exec_bind_error hparse⟩

/-- **What the detector answers when `make` has printed something.** It fails unless one line shows
the variable. If one does, the answer is whether the flag stands in what follows the equals sign,
whatever else is printed; and a line of another variable is not one of those that count. -/
theorem rulesFlag_answers (name feature flag : String) (p : RulesParser) (variableName : String)
    (hname : '=' ∉ variableName.toList) (stdout : String) (s s' : Session W)
    (h : p.Prints variableName stdout s s') :
    ∃ answer,
      ((rulesFlag name p.toParser variableName flag).detect feature).exec s = (answer, s') ∧
      ((∃ command fault, answer = .error (.toolOutput command fault)) ↔
        (showing variableName stdout).length ≠ 1) ∧
      (∀ line, showing variableName stdout = [line] →
        (∃ value present, line = variableName ++ " =" ++ value ∧ answer = .ok (.bool present) ∧
          (present = true ↔ Text.StandsIn flag.toList value.toList)) ∧
        ∀ (stdout' : String) (t t' : Session W), p.Prints variableName stdout' t t' →
          showing variableName stdout' = [line] →
          ((rulesFlag name p.toParser variableName flag).detect feature).exec t = (answer, t')) ∧
      ∀ other value, '=' ∉ other.toList → other ≠ variableName →
        (other ++ " =" ++ value) ∉ showing variableName stdout := by
  have hothers (other value : String) (hother : '=' ∉ other.toList) (hne : other ≠ variableName) :
      (other ++ " =" ++ value) ∉ showing variableName stdout :=
    fun hmem => hne (eq_of_shows hname hother (shows_of_mem_showing hmem))
  by_cases hone : (showing variableName stdout).length = 1
  · obtain ⟨line, hline⟩ := List.length_eq_one_iff.1 hone
    obtain ⟨value, rfl⟩ := shows_iff.1 (shows_of_mem_showing (hline ▸ List.mem_singleton_self line))
    refine ⟨_, exec_rulesFlag_of_showing name feature flag h hline, by simp [hone], ?_, hothers⟩
    intro line hline'
    obtain rfl : variableName ++ " =" ++ value = line := by simpa [hline] using hline'
    exact ⟨⟨value, _, rfl, rfl, hasFlag_iff hname⟩,
      fun stdout' t t' h' hsame => exec_rulesFlag_of_showing name feature flag h' hsame⟩
  · obtain ⟨command, fault, hexec⟩ := exec_rulesFlag_of_length_ne name feature flag h hone
    refine ⟨_, hexec, by simp [hone], ?_, hothers⟩
    intro line hline
    simp [hline] at hone

/-- A package whose rules have a variable `CXXFLAGS`, and another one the name of which begins
alike. -/
def flagHost : FileHost where
  files := Function.update (fun _ => none) RulesParser.widgetRules.rulesFile
    (some "CXXFLAGS_EXTRA = -std=c++17\nCXXFLAGS = -DMODE=fast -std=c++14\n".toUTF8)

/-- The session in which the rules have been copied. -/
def flagSession : Session FileHost := (RulesParser.widgetRules.copy.exec { world := flagHost }).2

theorem prints_widgetRules : RulesParser.widgetRules.Prints "CXXFLAGS"
    "CXXFLAGS = -DMODE=fast -std=c++14\n" { world := flagHost } flagSession := by
  refine ⟨_, flagSession, flagSession.world, "", rfl, Prod.ext ?_ rfl, rfl⟩
  decide +kernel

theorem rulesFlag_answers_widgetRules :
    '=' ∉ "CXXFLAGS".toList ∧
    RulesParser.widgetRules.Prints "CXXFLAGS" "CXXFLAGS = -DMODE=fast -std=c++14\n"
      { world := flagHost } flagSession ∧
    ((rulesFlag "flags" RulesParser.widgetRules.toParser "CXXFLAGS" "-std=c++14").detect
      "cxx14").exec { world := flagHost } = (.ok (.bool true), flagSession) := by
  refine ⟨by decide, prints_widgetRules, ?_⟩
  obtain ⟨answer, hexec, -, hshown, -⟩ := rulesFlag_answers "flags" "cxx14" "-std=c++14"
    RulesParser.widgetRules "CXXFLAGS" (by decide) _ _ flagSession prints_widgetRules
  obtain ⟨⟨value, present, hline, rfl, hpresent⟩, -⟩ :=
    hshown "CXXFLAGS = -DMODE=fast -std=c++14" (by decide +kernel)
  have hsame : "CXXFLAGS" ++ " =" ++ " -DMODE=fast -std=c++14" = "CXXFLAGS" ++ " =" ++ value :=
    hline
  have hstands : Text.StandsIn "-std=c++14".toList value.toList := by
    rw [← (String.append_right_inj _).1 hsame]
    exact Text.mem_words_iff.1 (by decide +kernel)
  rw [hexec, hpresent.2 hstands]

end Detector

end FeatureSurvey
