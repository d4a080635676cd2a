import FeatureSurvey.Detector.LineDetectors
import FeatureSurvey.Proofs.Text.Words

/-!
# `Proofs/Detector/PositionIndependence.lean` — the arguments behind the answer

A line carries a flag when one of its words is that flag (`CarriesFlag`). The flags are looked for
as pieces of the line, and a flag holds no white space, so what is found is a word with the flag
somewhere in it (`hasFlag_iff`). A line that carries a flag is found that way, and so is one where
the text of a flag is only a part of some other argument. **The answer of the detector is right
about the arguments just when the first line holds no such part alone**
(`Detector.aslr_answers_holdsFlag`).
-/

set_option autoImplicit false

namespace FeatureSurvey

namespace PositionIndependence

open Text

variable {line : String} {lines : List String}

/-- One of the arguments is a flag. -/
def CarriesFlag (line : String) : Prop := ∃ word ∈ words line, word ∈ flags

/-- One of the arguments has a flag somewhere in it. -/
def HoldsFlag (line : String) : Prop :=
  ∃ word ∈ words line, ∃ flag ∈ flags, flag.toList <:+: word.toList

instance (line : String) : Decidable (CarriesFlag line) :=
  inferInstanceAs (Decidable (∃ word ∈ words line, word ∈ flags))

instance (line : String) : Decidable (HoldsFlag line) :=
  inferInstanceAs (Decidable (∃ word ∈ words line, ∃ flag ∈ flags, flag.toList <:+: word.toList))

theorem isWord_of_mem_flags : ∀ flag ∈ flags, IsWord flag.toList := by
  decide

theorem CarriesFlag.holdsFlag (h : CarriesFlag line) : HoldsFlag line := by
  obtain ⟨word, hword, hflag⟩ := h
  exact ⟨word, hword, word, hflag, List.infix_rfl⟩

theorem hasFlag_iff (line : String) : hasFlag line = true ↔ HoldsFlag line := by
  rw [hasFlag, List.any_eq_true]
  constructor
  · rintro ⟨flag, hflag, hcontains⟩
    obtain ⟨word, hword, hpart⟩ :=
      (contains_iff_exists_word (isWord_of_mem_flags flag hflag) line).1 hcontains
    exact ⟨word, hword, flag, hflag, hpart⟩
  · rintro ⟨word, hword, flag, hflag, hpart⟩
    refine ⟨flag, hflag, ?_⟩
    exact (contains_iff_exists_word (isWord_of_mem_flags flag hflag) line).2 ⟨word, hword, hpart⟩

theorem ofLinkLines_iff (lines : List String) :
    ofLinkLines lines = true ↔ ∃ line ∈ lines.head?, HoldsFlag line := by
  cases lines with
  | nil => simp [ofLinkLines]
  | cons line lines => simp [ofLinkLines, hasFlag_iff]

/-- The answer is the one about the arguments if no argument of the first line holds a flag without
being one, and only then. -/
theorem ofLinkLines_iff_carriesFlag (lines : List String) :
    (ofLinkLines lines = true ↔ ∃ line ∈ lines.head?, CarriesFlag line) ↔
      ∀ line ∈ lines.head?, HoldsFlag line → CarriesFlag line := by
  rw [ofLinkLines_iff]
  constructor
  · intro h line hline hholds
    obtain ⟨first, hfirst, hcarries⟩ := h.1 ⟨line, hline, hholds⟩
    rwa [Option.mem_unique hline hfirst]
  · intro h
    constructor
    · rintro ⟨line, hline, hholds⟩
      exact ⟨line, hline, h line hline hholds⟩
    · rintro ⟨line, hline, hcarries⟩
      exact ⟨line, hline, hcarries.holdsFlag⟩

end PositionIndependence

namespace Parser

variable {S : Type} {parser : Parser S} {stage : BuildStage} {s s' : S} {lines : List String}

theorem exec_stageLines (h : (parser.parse (.stage stage)).exec s = (.ok (.lines lines), s')) :
    (parser.stageLines stage).exec s = (.ok lines, s') := by
  rw [stageLines, Attempt.exec_bind_ok h]
  rfl

/-- A parser that has these lines ready for every selector. -/
def ofLines (name : String) (lines : List String) : Parser S where
  name := name
  parse _ := return .lines lines

end Parser

namespace Detector

open Text PositionIndependence

/-- **What the detector answers when its parser hands it lines.** It is yes when in the first one
an argument holds a flag. That is what is true of the arguments unless one only holds a flag and
none is one. -/
theorem aslr_answers_holdsFlag {S : Type} (name feature : String) (parser : Parser S)
    (lines : List String) (s s' : S)
    (h : (parser.parse (.stage .linker)).exec s = (.ok (.lines lines), s')) :
    ∃ answer,
      ((aslr name parser).detect feature).exec s = (.ok (.bool answer), s') ∧
      (answer = true ↔ ∃ line ∈ lines.head?, HoldsFlag line) ∧
      ((answer = true ↔ ∃ line ∈ lines.head?, CarriesFlag line) ↔
        ∀ line ∈ lines.head?, HoldsFlag line → CarriesFlag line) := by
  refine ⟨ofLinkLines lines, ?_, ofLinkLines_iff lines, ofLinkLines_iff_carriesFlag lines⟩
  exact Attempt.exec_bind_ok (Parser.exec_stageLines h)

theorem aslr_answers_holdsFlag_pie :
    ((Parser.ofLines "log" ["g++ -pie -o foo foo.o"] : Parser Unit).parse (.stage .linker)).exec ()
      = (.ok (.lines ["g++ -pie -o foo foo.o"]), ()) ∧
    ((aslr "aslr" (Parser.ofLines "log" ["g++ -pie -o foo foo.o"] : Parser Unit)).detect
      "aslr").exec () = (.ok (.bool true), ()) := by
  refine ⟨rfl, ?_⟩
  obtain ⟨answer, hexec, hholds, -⟩ := aslr_answers_holdsFlag "aslr" "aslr"
    (Parser.ofLines "log" ["g++ -pie -o foo foo.o"] : Parser Unit) _ () () rfl
  obtain rfl : answer = true := hholds.2 ⟨"g++ -pie -o foo foo.o", rfl, by decide⟩
  exact hexec

/-- The option against such executables is taken for the one that asks for them. -/
theorem aslr_not_carriesFlag :
    ((aslr "aslr" (Parser.ofLines "log" ["g++ -no-pie -o foo foo.o"] : Parser Unit)).detect
      "aslr").exec () = (.ok (.bool true), ()) ∧
    words "g++ -no-pie -o foo foo.o" = ["g++", "-no-pie", "-o", "foo", "foo.o"] ∧
    ¬ CarriesFlag "g++ -no-pie -o foo foo.o" := by
  refine ⟨rfl, by decide, by decide⟩

end Detector

end FeatureSurvey
