import FeatureSurvey.Detector.Report
import FeatureSurvey.Proofs.Data.Table
import FeatureSurvey.Proofs.Text.Lines
import FeatureSurvey.Proofs.Text.Trim

/-!
# `Proofs/Detector/Report.lean` — what a report says, and reports that are read back

A line says something if it has a colon with a label in front of it: the label and the status
behind the colon, both trimmed (`Says`). That is what is read from it (`entry?_eq_some_iff`), so in
any text at all the value of a label is what the last line says that says anything about it.

In the other direction a `Printout` is a report as it may be printed. Its entries stand in any
order, with blanks wherever blanks do not count, each line with an ending of its own, and lines that
say nothing may stand between them. **A table that is printed is read back**; statuses may hold
colons, since a line is cut at its first (`parse_printout`).
-/

set_option autoImplicit false

namespace FeatureSurvey.Report

/-! ## What a line says -/

/-- The line is a label, a colon and a status, with blanks that do not count. -/
def Says (line label status : String) : Prop :=
  ∃ front back, line = front ++ ":" ++ back ∧ ':' ∉ front.toList ∧
    Text.trim front = label ∧ label ≠ "" ∧ Text.trim back = status

section Line

variable {line front back blanks label status : String}

theorem exists_first_colon (h : ':' ∈ line.toList) :
    ∃ front back, line = front ++ ":" ++ back ∧ ':' ∉ front.toList := by
  obtain ⟨xs, ys, hline, hxs⟩ := List.eq_append_cons_of_mem h
  refine ⟨String.ofList xs, String.ofList ys, String.toList_inj.1 ?_, by simpa using hxs⟩
  simp [hline]

theorem entry?_of_colon (h : ':' ∉ front.toList) :
    entry? (front ++ ":" ++ back) =
      if Text.isBlankText front then none else some (Text.trim front, Text.trim back) := by
  unfold entry?
  simp [Text.splitOnce?, Text.cutAt?_append h]

theorem entry?_of_no_colon (h : ':' ∉ line.toList) : entry? line = none := by
  unfold entry?
  simp [Text.splitOnce?, Text.cutAt?_eq_none h]

/-- A line is read as what it says. -/
theorem entry?_eq_some_iff : entry? line = some (label, status) ↔ Says line label status := by
  constructor
  · intro h
    by_cases hcolon : ':' ∈ line.toList
    · obtain ⟨front, back, rfl, hfront⟩ := exists_first_colon hcolon
      rw [entry?_of_colon hfront] at h
      by_cases hblank : Text.isBlankText front = true
      · simp [hblank] at h
      · obtain ⟨hlabel, hstatus⟩ : Text.trim front = label ∧ Text.trim back = status := by
          simpa [hblank] using h
        refine ⟨front, back, rfl, hfront, hlabel, ?_, hstatus⟩
        rwa [← hlabel, ne_eq, Text.trim_eq_empty_iff]
    · rw [entry?_of_no_colon hcolon] at h
      cases h
  · rintro ⟨front, back, rfl, hfront, rfl, hempty, rfl⟩
    rw [ne_eq, Text.trim_eq_empty_iff] at hempty
    rw [entry?_of_colon hfront, if_neg hempty]

theorem colon_not_mem_of_blank (h : Text.isBlankText blanks = true) : ':' ∉ blanks.toList := by
  intro hmem
  have hblank := Text.isBlankText_iff.1 h ':' hmem
  simp [Text.isBlank] at hblank

/-- What is left of a line's ending is blank, and does not count. -/
theorem entry?_append_blank (h : Text.isBlankText blanks = true) :
    entry? (line ++ blanks) = entry? line := by
  by_cases hcolon : ':' ∈ line.toList
  · obtain ⟨front, back, rfl, hfront⟩ := exists_first_colon hcolon
    rw [String.append_assoc, entry?_of_colon hfront, entry?_of_colon hfront,
      Text.trim_append_blank h]
  · have hline : ':' ∉ (line ++ blanks).toList := by
      simp [hcolon, colon_not_mem_of_blank h]
    rw [entry?_of_no_colon hcolon, entry?_of_no_colon hline]

theorem entry?_dropReturn (cs : List Char) :
    entry? (String.ofList (Text.dropReturn cs)) = entry? (String.ofList cs) := by
  unfold Text.dropReturn
  split
  · rename_i rest hrest
    obtain rfl : cs = rest.reverse ++ ['\r'] := by simpa using congrArg List.reverse hrest
    rw [String.ofList_append, entry?_append_blank (by decide)]
  · rfl

end Line

/-! ## Printing -/

/-- White space within a line. -/
structure Gap where
  text : String
  blank : Text.isBlankText text = true
  no_newline : '\n' ∉ text.toList

structure Label where
  text : String
  nonempty : text ≠ ""
  trimmed : Text.trim text = text
  no_colon : ':' ∉ text.toList
  no_newline : '\n' ∉ text.toList

structure Status where
  text : String
  trimmed : Text.trim text = text
  no_newline : '\n' ∉ text.toList

/-- The lines that say nothing. -/
inductive Stray : String → Prop
  | blank {line : String} (h : Text.isBlankText line = true) : Stray line
  | no_colon {line : String} (h : ':' ∉ line.toList) : Stray line
  | no_label {indent : String} (h : Text.isBlankText indent = true) (rest : String) :
      Stray (indent ++ ":" ++ rest)

/-- A line behind the first. -/
inductive Line
  | entry (indent : Gap) (label : Label) (before behind : Gap) (status : Status) (trail : Gap)
  | stray (text : String) (h : Stray text) (no_newline : '\n' ∉ text.toList)

inductive Ending
  | lf
  | crlf

def Ending.text : Ending → String
  | lf => "\n"
  | crlf => "\r\n"

namespace Line

def text : Line → String
  | entry indent label before behind status trail =>
    indent.text ++ label.text ++ before.text ++ ":" ++ behind.text ++ status.text ++ trail.text
  | stray text _ _ => text

/-- The entry that the line is. -/
def reading : Line → Option (String × String)
  | entry _ label _ _ status _ => some (label.text, status.text)
  | stray _ _ _ => none

theorem newline_not_mem (line : Line) : '\n' ∉ line.text.toList := by
  cases line with
  | entry indent label before behind status trail =>
    simp [text, indent.no_newline, label.no_newline, before.no_newline, behind.no_newline,
      status.no_newline, trail.no_newline]
  | stray text h no_newline => exact no_newline

/-- A printed line is read as the entry that it is, or not at all. -/
theorem entry?_text (line : Line) : Report.entry? line.text = line.reading := by
  cases line with
  | entry indent label before behind status trail =>
    have hfront : ':' ∉ (indent.text ++ label.text ++ before.text).toList := by
      simp [colon_not_mem_of_blank indent.blank, label.no_colon,
        colon_not_mem_of_blank before.blank]
    have hlabel : Text.trim (indent.text ++ label.text ++ before.text) = label.text := by
      rw [Text.trim_append_blank before.blank, Text.trim_blank_append indent.blank, label.trimmed]
    have hstatus : Text.trim (behind.text ++ status.text ++ trail.text) = status.text := by
      rw [Text.trim_append_blank trail.blank, Text.trim_blank_append behind.blank, status.trimmed]
    rw [reading, entry?_eq_some_iff]
    refine ⟨_, behind.text ++ status.text ++ trail.text, ?_, hfront, hlabel, label.nonempty,
      hstatus⟩
    simp [text, String.append_assoc]
  | stray text h no_newline =>
    cases h with
    | blank h => exact entry?_of_no_colon (colon_not_mem_of_blank h)
    | no_colon h => exact entry?_of_no_colon h
    | no_label h rest =>
      show Report.entry? (_ ++ ":" ++ rest) = none
      rw [entry?_of_colon (colon_not_mem_of_blank h), if_pos h]

end Line

/-- A report as it may be printed. -/
structure Printout where
  /-- The first line, which names the binary. -/
  header : String
  no_newline : '\n' ∉ header.toList
  ending : Ending
  body : List (Line × Ending)
  /-- A line behind the last ending. -/
  rest : Option Line

/-- Lines with their endings, in front of another text. -/
def printed (rest : String) : List (Line × Ending) → String
  | [] => rest
  | (line, ending) :: body => line.text ++ ending.text ++ printed rest body

namespace Printout

def text (r : Printout) : String :=
  r.header ++ r.ending.text ++ printed ((r.rest.map Line.text).getD "") r.body

/-- The entries, in the order in which they are printed. -/
def entries (r : Printout) : List (String × String) :=
  (r.body.map (·.1) ++ r.rest.toList).filterMap Line.reading

end Printout

/-! ## Reading back -/

/-- A line that has an ending is read for itself, and what belongs to the ending does not count. -/
theorem lines_append_ending {line : String} (h : '\n' ∉ line.toList) (ending : Ending)
    (rest : String) :
    ∃ read, Text.lines (line ++ ending.text ++ rest) = read :: Text.lines rest ∧
      entry? read = entry? line := by
  cases ending with
  | lf =>
    refine ⟨String.ofList (Text.dropReturn line.toList), ?_, ?_⟩
    · simp [Text.lines, Text.linesChars, Ending.text, Text.linesFrom_append_newline h]
    · rw [entry?_dropReturn, String.ofList_toList]
  | crlf =>
    have hreturn : '\n' ∉ line.toList ++ ['\r'] := by simp [h]
    have htext : (line ++ Ending.crlf.text ++ rest).toList =
        (line.toList ++ ['\r']) ++ '\n' :: rest.toList := by
      simp [Ending.text]
    refine ⟨String.ofList (Text.dropReturn (line.toList ++ ['\r'])), ?_, ?_⟩
    · rw [Text.lines, Text.linesChars, htext, Text.linesFrom_append_newline hreturn]
      rfl
    · rw [entry?_dropReturn, String.ofList_append, entry?_append_blank (by decide),
        String.ofList_toList]

theorem filterMap_lines_printed (rest : String) (body : List (Line × Ending)) :
    (Text.lines (printed rest body)).filterMap entry? =
      (body.map (·.1)).filterMap Line.reading ++ (Text.lines rest).filterMap entry? := by
  induction body with
  | nil => rfl
  | cons head body ih =>
    obtain ⟨line, ending⟩ := head
    obtain ⟨read, hlines, hread⟩ :=
      lines_append_ending line.newline_not_mem ending (printed rest body)
    rw [printed, hlines, List.filterMap_cons, hread, line.entry?_text, ih, List.map_cons,
      List.filterMap_cons]
    cases line.reading <;> rfl

theorem filterMap_lines_rest (rest : Option Line) :
    (Text.lines ((rest.map Line.text).getD "")).filterMap entry? =
      rest.toList.filterMap Line.reading := by
  cases rest with
  | none => rfl
  | some line =>
    show (Text.lines line.text).filterMap entry? = [line].filterMap Line.reading
    have hline := line.entry?_text
    by_cases hempty : line.text.toList = []
    · have htext : line.text = "" := String.toList_eq_nil_iff.1 hempty
      rw [htext] at hline ⊢
      have hnone : line.reading = none := hline.symm.trans rfl
      rw [List.filterMap_cons, hnone]
      rfl
    · have hlines : Text.lines line.text = [line.text] := by
        simp [Text.lines, Text.linesChars,
          @Text.linesFrom_of_not_mem _ [] line.newline_not_mem hempty]
      rw [hlines, List.filterMap_cons, List.filterMap_cons, hline]
      rfl

theorem parse_text (r : Printout) : parse r.text = Table.ofList r.entries := by
  obtain ⟨read, hlines, -⟩ := lines_append_ending r.no_newline r.ending
    (printed ((r.rest.map Line.text).getD "") r.body)
  rw [parse, Printout.text, hlines, List.drop_one, List.tail_cons, filterMap_lines_printed,
    filterMap_lines_rest, ← List.filterMap_append]
  rfl

/-- The value of a label is what the last line says that says anything about it. -/
theorem get?_parse {text label status : String} :
    (parse text).get? label = some status ↔
      ∃ before line behind, (Text.lines text).drop 1 = before ++ line :: behind ∧
        Says line label status ∧ ∀ other ∈ behind, ∀ s, ¬ Says other label s := by
  rw [parse, Table.get?_ofList]
  constructor
  · rintro ⟨before, behind, hsplit, hbehind⟩
    obtain ⟨xs, ys, hlines, rfl, hys⟩ := List.filterMap_eq_append_iff.1 hsplit
    obtain ⟨zs, line, ws, rfl, hzs, hline, rfl⟩ := List.filterMap_eq_cons_iff.1 hys
    refine ⟨xs ++ zs, line, ws, by simp [hlines], entry?_eq_some_iff.1 hline, ?_⟩
    intro other hother s hsays
    exact hbehind _ (List.mem_filterMap.2 ⟨other, hother, entry?_eq_some_iff.2 hsays⟩) rfl
  · rintro ⟨before, line, behind, hlines, hline, hbehind⟩
    refine ⟨before.filterMap entry?, behind.filterMap entry?, ?_, ?_⟩
    · rw [hlines, List.filterMap_append, List.filterMap_cons, entry?_eq_some_iff.2 hline]
    · rintro ⟨label', s⟩ hentry rfl
      obtain ⟨other, hother, hsays⟩ := List.mem_filterMap.1 hentry
      exact hbehind other hother s (entry?_eq_some_iff.1 hsays)

example : (parse "widget:\n Immediate binding: no\nImmediate binding : yes\n").get?
    "Immediate binding" = some "yes" := by decide +kernel

/-- **A report is printed and read back, and of two lines with one label the later counts.** -/
theorem parse_printout :
    (∀ (r : Printout) (t : Table String), r.entries.Perm t.entries → parse r.text = t) ∧
    ∀ text label status, (parse text).get? label = some status ↔
      ∃ before line behind, (Text.lines text).drop 1 = before ++ line :: behind ∧
        Says line label status ∧ ∀ other ∈ behind, ∀ s, ¬ Says other label s := by
  constructor
  · intro r t hperm
    rw [parse_text, Table.ofList_perm hperm]
  · intro text label status
    exact get?_parse

/-! ### A report with stray lines and a status of two parts -/

def noGap : Gap := ⟨"", by decide, by decide⟩

def blank : Gap := ⟨" ", by decide, by decide⟩

/-- Two entries out of order among lines that say nothing, the first with a colon in its status. -/
def widget : Printout where
  header := "/usr/bin/widget:"
  no_newline := by decide
  ending := .lf
  body := [
    (.entry blank ⟨"Stack protected", by decide, by decide, by decide, by decide⟩ noGap blank
      ⟨"no: not found", by decide, by decide⟩ blank, .crlf),
    (.stray "" (.blank (by decide)) (by decide), .lf),
    (.stray " : yes" (.no_label blank.blank " yes") (by decide), .crlf)]
  rest := some (.entry blank ⟨"Immediate binding", by decide, by decide, by decide, by decide⟩ noGap
    noGap ⟨"yes", by decide, by decide⟩ noGap)

theorem parse_printout_widget :
    widget.text = "/usr/bin/widget:\n Stack protected: no: not found \r\n\n : yes\r\n" ++
      " Immediate binding:yes" ∧
    parse widget.text =
      Table.ofList [("Immediate binding", "yes"), ("Stack protected", "no: not found")] := by
  constructor
  · rfl
  · apply parse_printout.1
    decide +kernel

end FeatureSurvey.Report
