import FeatureSurvey.Proofs.BuildLog.Stages
import FeatureSurvey.Proofs.Detector.PositionIndependence
import FeatureSurvey.Proofs.Text.Lowercase

/-!
# `Proofs/BuildLog/LinkLines.lean` — which lines are taken for the ones that link

A line makes the binary when it has the argument `-o` and, behind it, the binary as operand
(`NamesBinary`). What is looked for instead is a piece of the lower-cased line. White space makes
such a piece fall apart: the end of one word, a blank, and the beginning of another
(`infix_lowerChars_iff_outputAt`). So the first word need only end in `-o`, in either case, and the
second need only begin with the name (`ResemblesLink`).

**These are the lines of the group, one way and the other** (`classify_linker_resembles`). The
ones among them that make no binary are the ones where the words differ from what they are taken
for.
-/

set_option autoImplicit false

namespace FeatureSurvey

namespace BuildLog

open Text

/-- The line has the argument `-o`. With a name, the operand behind it is that name, upper and
lower case being the same. -/
def NamesBinary : Option String → String → Prop
  | some name, line =>
    ∃ operand ∈ words line, ["-o", operand] <:+: words line ∧ lowercase operand = lowercase name
  | none, line => "-o" ∈ words line

instance : (binaryName : Option String) → (line : String) → Decidable (NamesBinary binaryName line)
  | some name, line =>
    inferInstanceAs (Decidable (∃ operand ∈ words line,
      ["-o", operand] <:+: words line ∧ lowercase operand = lowercase name))
  | none, line => inferInstanceAs (Decidable ("-o" ∈ words line))

/-- In the line there is a word that ends in `-o`, upper and lower case being the same. Behind it
stand one blank and then a word, or nothing. -/
structure OutputAt (line : String) (flag operand : List Char) : Prop where
  stands : ∃ before after, line.toList = before ++ flag ++ ' ' :: (operand ++ after) ∧
    AtBreak before.reverse ∧ AtBreak after
  flag_run : IsRun flag
  operand_run : IsRun operand
  flag_ends : "-o".toList <:+ lowerChars flag

/-- The second word begins with the name of the binary, if it has one. -/
def BeginsWith (binaryName : Option String) (operand : List Char) : Prop :=
  ∀ name ∈ binaryName, lowerChars name.toList <+: lowerChars operand

/-- The line is taken for one that makes the binary. Only without a name is it asked whether it
compiles an object. -/
structure ResemblesLink (binaryName : Option String) (line : String) : Prop where
  output : ∃ flag operand, OutputAt line flag operand ∧ BeginsWith binaryName operand
  no_object : binaryName = none → ¬ CompilesObject line

/-- The two words are what they are taken for. -/
structure MakesBinary (binaryName : Option String) (flag operand : List Char) : Prop where
  flag_eq : flag = "-o".toList
  operand_eq : ∀ name ∈ binaryName, lowerChars operand = lowerChars name.toList

variable {line : String} {binaryName : Option String} {flag operand start : List Char}

/-! ## A piece of the lower-cased line -/

/-- What is found in the lower-cased line, if there is no white space in what is found behind the
blank, is the end of one word and the beginning of the next. -/
theorem infix_lowerChars_iff_outputAt (h : IsRun start) (line : String) :
    "-o ".toList ++ start <:+: lowerChars line.toList ↔
      ∃ flag operand, OutputAt line flag operand ∧ start <+: lowerChars operand := by
  have hpiece : "-o ".toList ++ start = "-o".toList ++ ' ' :: start := rfl
  rw [hpiece, lowerChars_wordWise.infix_iff (fun _ => isRun_lowerChars) (by decide) (by decide)]
  constructor
  · rintro ⟨before, flag, rest, hline, hbefore, hflag, hends, hstart⟩
    obtain ⟨operand, after, rfl, hoperand, hafter⟩ := exists_front rest
    rw [lowerChars_wordWise.prefix_iff h hafter] at hstart
    exact ⟨flag, operand, ⟨⟨before, after, hline, hbefore, hafter⟩, hflag, hoperand, hends⟩, hstart⟩
  · rintro ⟨flag, operand, ⟨⟨before, after, hline, hbefore, hafter⟩, hflag, -, hends⟩, hstart⟩
    rw [← lowerChars_wordWise.prefix_iff h hafter] at hstart
    exact ⟨before, flag, operand ++ after, hline, hbefore, hflag, hends, hstart⟩

theorem toList_lowercase (s : String) : (lowercase s).toList = lowerChars s.toList :=
  String.toList_ofList

theorem linksBinary_iff_resemblesLink (h : ∀ name ∈ binaryName, IsWord name.toList) :
    LinksBinary binaryName line ↔ ResemblesLink binaryName line := by
  cases binaryName with
  | none =>
    have hpiece := infix_lowerChars_iff_outputAt isRun_nil line
    simp only [List.append_nil, List.nil_prefix, and_true] at hpiece
    rw [LinksBinary, toList_lowercase, hpiece]
    constructor
    · rintro ⟨hobject, flag, operand, hout⟩
      refine ⟨⟨flag, operand, hout, ?_⟩, fun _ => hobject⟩
      intro name hname
      cases hname
    · rintro ⟨⟨flag, operand, hout, -⟩, hobject⟩
      exact ⟨hobject rfl, flag, operand, hout⟩
  | some name =>
    rw [LinksBinary, toList_lowercase, String.toList_append, toList_lowercase,
      infix_lowerChars_iff_outputAt (h name rfl).lowerChars.run line]
    constructor
    · rintro ⟨flag, operand, hout, hbegins⟩
      refine ⟨⟨flag, operand, hout, ?_⟩, ?_⟩
      · intro name hname
        cases hname
        exact hbegins
      · intro hnone
        cases hnone
    · rintro ⟨⟨flag, operand, hout, hbegins⟩, -⟩
      exact ⟨flag, operand, hout, hbegins name rfl⟩

/-! ## The words of the line -/

theorem words_eq (line : String) : words line = (wordsFrom [] line.toList).map String.ofList := rfl

/-- The words of a line where the argument `-o` stands, one blank before its operand. -/
theorem OutputAt.exists_words (h : OutputAt line "-o".toList operand) :
    ∃ left right, words line = left ++ "-o" :: right ∧
      (operand ≠ [] → ∃ others, right = String.ofList operand :: others) := by
  obtain ⟨⟨before, after, hline, hbefore, hafter⟩, hflag, hoperand, -⟩ := h
  have hword : IsWord "-o".toList := ⟨by decide, hflag⟩
  obtain ⟨left, hleft⟩ := wordsFrom_append_word hword hbefore
  refine ⟨left.map String.ofList, (wordsFrom [] (operand ++ after)).map String.ofList, ?_, ?_⟩
  · rw [words_eq, hline, wordsFrom_append_blank (by decide), hleft]
    simp
  · intro hne
    obtain ⟨others, hright⟩ := wordsFrom_word_append ⟨hne, hoperand⟩ hafter
    exact ⟨others.map String.ofList, by rw [hright, List.map_cons]⟩

theorem OutputAt.namesBinary (h : OutputAt line flag operand)
    (hmakes : MakesBinary binaryName flag operand)
    (hname : ∀ name ∈ binaryName, IsWord name.toList) : NamesBinary binaryName line := by
  obtain ⟨rfl, hoperand⟩ := hmakes
  obtain ⟨left, right, hwords, hright⟩ := h.exists_words
  cases binaryName with
  | none =>
    rw [NamesBinary, hwords]
    simp
  | some name =>
    have heq := hoperand name rfl
    have hne : operand ≠ [] := by
      rintro rfl
      exact (hname name rfl).lowerChars.ne_nil heq.symm
    obtain ⟨others, rfl⟩ := hright hne
    refine ⟨String.ofList operand, ?_, ⟨left, others, ?_⟩, ?_⟩
    · simp [hwords]
    · simp [hwords]
    · rw [lowercase, lowercase, String.toList_ofList, heq]

theorem MakesBinary.beginsWith (h : MakesBinary binaryName flag operand) :
    BeginsWith binaryName operand := by
  intro name hname
  rw [h.operand_eq name hname]

end BuildLog

namespace CompilerLines

open Text BuildLog

variable {body : String} {binaryName : Option String}

theorem mem_linker_iff (h : ∀ name ∈ binaryName, IsWord name.toList) (line : String) :
    line ∈ (classify body binaryName).linker ↔
      line ∈ (classify body binaryName).all ∧ ResemblesLink binaryName line := by
  rw [(sorted_classify body binaryName).mem_linker, linksBinary_iff_resemblesLink h]

/-- The first of these lines is the first of all that resembles one. -/
theorem mem_head?_linker_iff (h : ∀ name ∈ binaryName, IsWord name.toList) (line : String) :
    line ∈ (classify body binaryName).linker.head? ↔
      ResemblesLink binaryName line ∧ ∃ before after,
        (classify body binaryName).all = before ++ line :: after ∧
        ∀ earlier ∈ before, ¬ ResemblesLink binaryName earlier := by
  rw [(sorted_classify body binaryName).linker_eq, List.head?_filter, Option.mem_def,
    List.find?_eq_some_iff_append]
  simp only [decide_eq_true_iff, Bool.not_eq_true', decide_eq_false_iff_not,
    linksBinary_iff_resemblesLink h]

/-- **The lines taken for the ones that make the binary are those that resemble one.** A line that
makes it, with one blank before the name, is among them. One that does not make it is there since
somewhere a word merely ends in `-o`, or merely begins with the name; if it comes first, it is the
one that is asked for flags. -/
theorem classify_linker_resembles (body : String) (binaryName : Option String)
    (h : ∀ name ∈ binaryName, IsWord name.toList) :
    (∀ line, line ∈ (classify body binaryName).linker ↔
      line ∈ (classify body binaryName).all ∧ ResemblesLink binaryName line) ∧
    (∀ line ∈ (classify body binaryName).all, ∀ flag operand, OutputAt line flag operand →
      MakesBinary binaryName flag operand → (binaryName = none → ¬ CompilesObject line) →
        line ∈ (classify body binaryName).linker ∧ NamesBinary binaryName line) ∧
    (∀ line ∈ (classify body binaryName).linker, ¬ NamesBinary binaryName line →
      ∃ flag operand, OutputAt line flag operand ∧ BeginsWith binaryName operand ∧
        ¬ MakesBinary binaryName flag operand) ∧
    (PositionIndependence.ofLinkLines (classify body binaryName).linker = true ↔
      ∃ before line after, (classify body binaryName).all = before ++ line :: after ∧
        (∀ earlier ∈ before, ¬ ResemblesLink binaryName earlier) ∧
        ResemblesLink binaryName line ∧ PositionIndependence.HoldsFlag line) := by
  refine ⟨mem_linker_iff h, ?_, ?_, ?_⟩
  · intro line hline flag operand hout hmakes hobject
    have hresembles : ResemblesLink binaryName line :=
      ⟨⟨flag, operand, hout, hmakes.beginsWith⟩, hobject⟩
    exact ⟨(mem_linker_iff h line).2 ⟨hline, hresembles⟩, hout.namesBinary hmakes h⟩
  · intro line hline hnot
    obtain ⟨flag, operand, hout, hbegins⟩ := ((mem_linker_iff h line).1 hline).2.output
    refine ⟨flag, operand, hout, hbegins, ?_⟩
    intro hmakes
    exact hnot (hout.namesBinary hmakes h)
  · rw [PositionIndependence.ofLinkLines_iff]
    constructor
    · rintro ⟨line, hline, hflag⟩
      obtain ⟨hlinks, before, after, hall, hbefore⟩ := (mem_head?_linker_iff h line).1 hline
      exact ⟨before, line, after, hall, hbefore, hlinks, hflag⟩
    · rintro ⟨before, line, after, hall, hbefore, hlinks, hflag⟩
      exact ⟨line, (mem_head?_linker_iff h line).2 ⟨hlinks, before, after, hall, hbefore⟩, hflag⟩

/-- An object `main.o` and an optimised call stand before the line that makes `main`. -/
def misleadingLog : String :=
  "g++ -fPIE -c main.cpp -o main.o\ng++ -O main.cpp\ng++ -o main main.o\n"

/-- Every line of it is taken for one that makes `main`. -/
theorem classify_misleadingLog :
    classify misleadingLog (some "main") =
      { all := ["g++ -fPIE -c main.cpp -o main.o", "g++ -O main.cpp", "g++ -o main main.o"]
        linker :=
          ["g++ -fPIE -c main.cpp -o main.o", "g++ -O main.cpp", "g++ -o main main.o"] } := by
  decide +kernel

theorem classify_linker_resembles_main :
    (∀ name ∈ some "main", IsWord name.toList) ∧
    ResemblesLink (some "main") "g++ -fPIE -c main.cpp -o main.o" ∧
    "g++ -o main main.o" ∈ (classify misleadingLog (some "main")).linker ∧
    ∃ flag operand, OutputAt "g++ -O main.cpp" flag operand ∧
      BeginsWith (some "main") operand ∧ ¬ MakesBinary (some "main") flag operand := by
  have hname : ∀ name ∈ some "main", IsWord name.toList := by decide
  obtain ⟨hlinker, hmakes, hnot, -⟩ := classify_linker_resembles misleadingLog (some "main") hname
  rw [classify_misleadingLog] at hlinker hmakes hnot ⊢
  have hlink : OutputAt "g++ -o main main.o" "-o".toList "main".toList :=
    ⟨⟨"g++ ".toList, " main.o".toList, by decide, by decide, by decide⟩, by decide, by decide,
      by decide⟩
  refine ⟨hname, ?_, ?_, ?_⟩
  · exact ((hlinker "g++ -fPIE -c main.cpp -o main.o").1 (by decide)).2
  · refine (hmakes "g++ -o main main.o" (by decide) _ _ hlink ⟨rfl, by decide⟩ ?_).1
    intro hnone
    cases hnone
  · exact hnot "g++ -O main.cpp" (by decide) (by decide)

/-- An object whose name begins with that of the binary, and a call that is only optimised, are
taken for lines that make it, and the flag of the object is reported for the binary. -/
theorem linker_not_namesBinary :
    IsWord "main".toList ∧
    (¬ ∀ line ∈ (classify misleadingLog (some "main")).linker, NamesBinary (some "main") line) ∧
    (classify misleadingLog (some "main")).linker.filter (NamesBinary (some "main")) =
      ["g++ -o main main.o"] ∧
    CompilesObject "g++ -fPIE -c main.cpp -o main.o" ∧
    (¬ ∀ line ∈ (classify misleadingLog none).linker, NamesBinary none line) ∧
    PositionIndependence.ofLinkLines (classify misleadingLog (some "main")).linker = true ∧
    PositionIndependence.hasFlag "g++ -o main main.o" = false := by
  rw [classify_misleadingLog]
  decide +kernel

end CompilerLines

end FeatureSurvey
