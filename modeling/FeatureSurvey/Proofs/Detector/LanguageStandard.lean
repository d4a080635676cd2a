import Mathlib.Order.Bounds.Basic
import FeatureSurvey.Proofs.Detector.Banner
import FeatureSurvey.Proofs.Detector.PositionIndependence
import FeatureSurvey.Proofs.Detector.VersionNumber

/-!
# `Proofs/Detector/LanguageStandard.lean` — the evidence for a standard

Where a line mentions a spelling, the answer is the least standard that one of the lines gives
evidence of (`oldest?_mentioned_iff`). That is a statement on a set, so neither the order of the
lines matters nor how often they stand there, and more lines can only make the answer older. Where
none does, the first banner decides, and there the order does matter.

A spelling is looked for as a piece of a line and has no white space, so what is found is an
argument with the spelling somewhere in it. **It is the standard that an argument `-std=` asks for
only if no other argument holds a spelling** (`spellingsIn_arguments`), and a path or a library that
holds one keeps the banner from being asked.
-/

set_option autoImplicit false

namespace FeatureSurvey.Standard

open Text

variable {lines others : List String} {line spelling : String} {standard oldest : Standard}

/-! ## Older and newer standards -/

theorem rank_injective : Function.Injective rank := by
  intro a b h
  cases a <;> cases b <;> simp_all [rank]

instance : LinearOrder Standard := LinearOrder.lift' rank rank_injective

theorem older_eq_min : older = min := by
  funext a b
  cases a <;> cases b <;> rfl

theorem oldest?_eq_min? (names : List String) :
    oldest? names = (names.filterMap ofSpelling?).min? := by
  rw [oldest?, older_eq_min]
  cases names.filterMap ofSpelling? <;> rfl

theorem oldest?_eq_some_iff (names : List String) :
    oldest? names = some oldest ↔
      IsLeast {standard | ∃ name ∈ names, ofSpelling? name = some standard} oldest := by
  rw [oldest?_eq_min?, List.min?_eq_some_iff]
  simp only [List.mem_filterMap, IsLeast, lowerBounds, Set.mem_ofPred_eq]

/-! ## The spellings of a standard -/

/-- What a standard is called in the argument that asks for it. -/
def spelledAs : Standard → List String
  | .cxx98 => ["c++98", "gnu++98"]
  | .cxx03 => ["c++03", "gnu++03"]
  | .cxx11 => ["c++11", "c++0x", "gnu++11", "gnu++0x"]
  | .cxx14 => ["c++14", "c++1y", "gnu++14", "gnu++1y"]
  | .cxx17 => ["c++17", "c++1z", "gnu++17", "gnu++1z"]
  | .cxx20 => ["c++2a", "gnu++2a"]

theorem ofSpelling?_eq_some_iff (h : spelling ∈ spellings) (standard : Standard) :
    ofSpelling? spelling = some standard ↔ spelling ∈ standard.spelledAs := by
  revert spelling
  cases standard <;> decide

theorem mem_spellings (h : spelling ∈ standard.spelledAs) : spelling ∈ spellings := by
  revert spelling
  cases standard <;> decide

theorem isSome_ofSpelling? : ∀ spelling ∈ spellings, (ofSpelling? spelling).isSome := by
  decide

theorem exists_spelledAs (h : spelling ∈ spellings) :
    ∃ standard : Standard, spelling ∈ standard.spelledAs := by
  obtain ⟨standard, hstandard⟩ := Option.isSome_iff_exists.1 (isSome_ofSpelling? spelling h)
  exact ⟨standard, (ofSpelling?_eq_some_iff h standard).1 hstandard⟩

theorem oldest?_name (standard : Standard) : oldest? [standard.name] = some standard := by
  cases standard <;> decide

theorem isWord_of_mem_spellings : ∀ spelling ∈ spellings, IsWord spelling.toList := by
  decide

/-! ## What the lines hold -/

/-- The spelling stands somewhere in a line. -/
def Mentions (lines : List String) (spelling : String) : Prop :=
  ∃ line ∈ lines, spelling.toList <:+: line.toList

/-- The spelling stands somewhere in an argument. -/
def InArgument (lines : List String) (spelling : String) : Prop :=
  ∃ line ∈ lines, ∃ word ∈ words line, spelling.toList <:+: word.toList

/-- An argument asks for the standard with this spelling. -/
def Selects (lines : List String) (spelling : String) : Prop :=
  ∃ line ∈ lines, "-std=" ++ spelling ∈ words line

/-- The lines give evidence of the standard. -/
def Evidenced (lines : List String) (standard : Standard) : Prop :=
  ∃ spelling ∈ standard.spelledAs, Mentions lines spelling

instance (lines : List String) (spelling : String) : Decidable (Mentions lines spelling) :=
  inferInstanceAs (Decidable (∃ line ∈ lines, spelling.toList <:+: line.toList))

instance (lines : List String) (spelling : String) : Decidable (Selects lines spelling) :=
  inferInstanceAs (Decidable (∃ line ∈ lines, "-std=" ++ spelling ∈ words line))

theorem mentions_iff_inArgument (h : spelling ∈ spellings) :
    Mentions lines spelling ↔ InArgument lines spelling := by
  unfold Mentions InArgument
  apply exists_congr
  intro line
  exact and_congr_right fun _ => isInfix_iff_exists_word (isWord_of_mem_spellings spelling h) line

theorem Selects.inArgument (h : Selects lines spelling) : InArgument lines spelling := by
  obtain ⟨line, hline, hword⟩ := h
  refine ⟨line, hline, _, hword, ?_⟩
  rw [String.toList_append]
  exact (List.suffix_append _ _).isInfix

theorem mem_mentioned_iff :
    spelling ∈ mentioned lines ↔ spelling ∈ spellings ∧ Mentions lines spelling := by
  simp only [mentioned, List.mem_filter, List.any_eq_true, contains_iff_isInfix, Mentions]

theorem mentioned_ne_nil_iff :
    mentioned lines ≠ [] ↔ ∃ spelling ∈ spellings, Mentions lines spelling := by
  simp only [ne_eq, List.eq_nil_iff_forall_not_mem, not_forall, not_not, mem_mentioned_iff]

theorem spellingsIn_eq (lines : List String) :
    spellingsIn lines = if mentioned lines = [] then byBanner lines else mentioned lines := by
  unfold spellingsIn
  by_cases hnone : mentioned lines = [] <;> simp [hnone]

/-! ## Arguments that ask for a standard -/

/-- **The spellings that are reported are those that stand in an argument.** Every spelling that an
argument `-std=` asks for is among them, and they are no others just when each spelling in an
argument is also asked for. The banner is asked just when no argument holds any spelling. -/
theorem spellingsIn_arguments (lines : List String) :
    spellingsIn lines = (if mentioned lines = [] then byBanner lines else mentioned lines) ∧
    (∀ spelling, spelling ∈ mentioned lines ↔
      spelling ∈ spellings ∧ InArgument lines spelling) ∧
    (∀ spelling ∈ spellings, Selects lines spelling → spelling ∈ mentioned lines) ∧
    ((∀ spelling, spelling ∈ mentioned lines ↔ spelling ∈ spellings ∧ Selects lines spelling) ↔
      ∀ spelling ∈ spellings, InArgument lines spelling → Selects lines spelling) ∧
    (mentioned lines = [] ↔ ∀ spelling ∈ spellings, ¬ InArgument lines spelling) := by
  have hmem : ∀ spelling, spelling ∈ mentioned lines ↔
      spelling ∈ spellings ∧ InArgument lines spelling := by
    intro spelling
    rw [mem_mentioned_iff]
    exact and_congr_right mentions_iff_inArgument
  refine ⟨spellingsIn_eq lines, hmem, ?_, ?_, ?_⟩
  · intro spelling hspelling hselects
    exact (hmem spelling).2 ⟨hspelling, hselects.inArgument⟩
  · constructor
    · intro h spelling hspelling hargument
      exact ((h spelling).1 ((hmem spelling).2 ⟨hspelling, hargument⟩)).2
    · intro h spelling
      rw [hmem spelling]
      exact and_congr_right fun hspelling => ⟨h spelling hspelling, Selects.inArgument⟩
  · simp only [List.eq_nil_iff_forall_not_mem, hmem, not_and]

theorem spellingsIn_arguments_selected :
    Selects ["g++ -std=c++17 -c main.cpp", "g++ -o main main.o"] "c++17" ∧
    "c++17" ∈ mentioned ["g++ -std=c++17 -c main.cpp", "g++ -o main main.o"] := by
  obtain ⟨-, -, hselected, -, -⟩ :=
    spellingsIn_arguments ["g++ -std=c++17 -c main.cpp", "g++ -o main main.o"]
  have hselects : Selects ["g++ -std=c++17 -c main.cpp", "g++ -o main main.o"] "c++17" := by decide
  exact ⟨hselects, hselected "c++17" (by decide) hselects⟩

/-- A directory of headers is reported for a standard, and the banner is not asked. -/
theorem spellingsIn_not_selected :
    spellingsIn ["g++ (= 4:7.3.0-3) installed", "g++ -I/opt/c++98 -c main.cpp"] = ["c++98"] ∧
    (∀ spelling ∈ spellings,
      ¬ Selects ["g++ (= 4:7.3.0-3) installed", "g++ -I/opt/c++98 -c main.cpp"] spelling) ∧
    byBanner ["g++ (= 4:7.3.0-3) installed", "g++ -I/opt/c++98 -c main.cpp"] = ["c++14"] := by
  have hversion : Banner.version? (String.intercalate "\n"
      ["g++ (= 4:7.3.0-3) installed", "g++ -I/opt/c++98 -c main.cpp"]).toList =
        some "7.3.0".toList := by
    decide +kernel
  have hdefault : defaultOf "7.3.0".toList = cxx14 := by
    rw [defaultOf, Version.compare_eq_compare]
    decide
  refine ⟨by decide +kernel, by decide +kernel, ?_⟩
  rw [byBanner, hversion]
  show [(defaultOf "7.3.0".toList).name] = ["c++14"]
  rw [hdefault]
  rfl

/-! ## The least standard -/

open Detector (standardOf noStandard)

theorem oldest?_mentioned_iff :
    oldest? (mentioned lines) = some oldest ↔
      IsLeast {standard | Evidenced lines standard} oldest := by
  have hset : {standard | ∃ name ∈ mentioned lines, ofSpelling? name = some standard} =
      {standard | Evidenced lines standard} := by
    ext standard
    constructor
    · rintro ⟨name, hname, hstandard⟩
      obtain ⟨hspelling, hmentions⟩ := mem_mentioned_iff.1 hname
      exact ⟨name, (ofSpelling?_eq_some_iff hspelling standard).1 hstandard, hmentions⟩
    · rintro ⟨name, hname, hmentions⟩
      have hspelling := mem_spellings hname
      exact ⟨name, mem_mentioned_iff.2 ⟨hspelling, hmentions⟩,
        (ofSpelling?_eq_some_iff hspelling standard).2 hname⟩
  rw [oldest?_eq_some_iff, hset]

theorem exists_least (h : ∃ spelling ∈ spellings, Mentions lines spelling) :
    ∃ oldest : Standard, standardOf lines = oldest.name ∧
      IsLeast {standard | Evidenced lines standard} oldest := by
  have hmentioned := mentioned_ne_nil_iff.2 h
  obtain ⟨spelling, hspelling, hmentions⟩ := h
  obtain ⟨standard, hstandard⟩ := exists_spelledAs hspelling
  obtain ⟨oldest, holdest⟩ : ∃ oldest, oldest? (mentioned lines) = some oldest := by
    apply Option.ne_none_iff_exists'.1
    rw [oldest?_eq_min?, Ne, List.min?_eq_none_iff, List.filterMap_eq_nil_iff]
    intro hnone
    have hsome := (ofSpelling?_eq_some_iff hspelling standard).2 hstandard
    rw [hnone spelling (mem_mentioned_iff.2 ⟨hspelling, hmentions⟩)] at hsome
    cases hsome
  refine ⟨oldest, ?_, oldest?_mentioned_iff.1 holdest⟩
  rw [standardOf, spellingsIn_eq, if_neg hmentioned, holdest]
  rfl

theorem standardOf_eq_name (h : IsLeast {standard | Evidenced lines standard} oldest) :
    standardOf lines = oldest.name := by
  obtain ⟨spelling, hspelling, hmentions⟩ := h.1
  obtain ⟨least, hname, hleast⟩ := exists_least ⟨spelling, mem_spellings hspelling, hmentions⟩
  rw [hname, hleast.unique h]

theorem Mentions.mono (h : Mentions lines spelling) (hsub : lines ⊆ others) :
    Mentions others spelling := by
  obtain ⟨line, hline, hspelling⟩ := h
  exact ⟨line, hsub hline, hspelling⟩

theorem evidenced_mono (hsub : lines ⊆ others) :
    {standard | Evidenced lines standard} ⊆ {standard | Evidenced others standard} := by
  rintro standard ⟨spelling, hspelling, hmentions⟩
  exact ⟨spelling, hspelling, hmentions.mono hsub⟩

theorem evidenced_append (lines others : List String) :
    {standard | Evidenced (lines ++ others) standard} =
      {standard | Evidenced lines standard} ∪ {standard | Evidenced others standard} := by
  ext standard
  simp only [Evidenced, Mentions, List.mem_append, Set.mem_union, Set.mem_ofPred_eq, or_and_right,
    exists_or, and_or_left]

/-- What the answer keeps to where some line mentions a spelling. -/
structure FollowsSpellings (lines : List String) : Prop where
  least : ∃ oldest : Standard, standardOf lines = oldest.name ∧
    IsLeast {standard | Evidenced lines standard} oldest
  same_lines : ∀ others, (∀ line, line ∈ others ↔ line ∈ lines) →
    standardOf others = standardOf lines
  append : ∀ others, (∃ spelling ∈ spellings, Mentions others spelling) →
    ∃ a b : Standard, standardOf lines = a.name ∧ standardOf others = b.name ∧
      standardOf (lines ++ others) = (min a b).name
  more_lines : ∀ others, lines ⊆ others →
    ∃ a b : Standard, standardOf lines = a.name ∧ standardOf others = b.name ∧ b ≤ a

theorem followsSpellings (h : ∃ spelling ∈ spellings, Mentions lines spelling) :
    FollowsSpellings lines := by
  obtain ⟨oldest, hname, hleast⟩ := exists_least h
  refine ⟨⟨oldest, hname, hleast⟩, ?_, ?_, ?_⟩
  · intro others hsame
    have hset : {standard | Evidenced others standard} = {standard | Evidenced lines standard} := by
      apply Set.Subset.antisymm
      · exact evidenced_mono fun line hline => (hsame line).1 hline
      · exact evidenced_mono fun line hline => (hsame line).2 hline
    rw [hname, standardOf_eq_name (hset ▸ hleast)]
  · intro others hothers
    obtain ⟨other, hother, hleast'⟩ := exists_least hothers
    refine ⟨oldest, other, hname, hother, standardOf_eq_name ?_⟩
    rw [evidenced_append]
    exact hleast.union hleast'
  · intro others hsub
    obtain ⟨spelling, hspelling, hmentions⟩ := h
    obtain ⟨other, hother, hleast'⟩ := exists_least ⟨spelling, hspelling, hmentions.mono hsub⟩
    exact ⟨oldest, other, hname, hother, hleast.mono hleast' (evidenced_mono hsub)⟩

/-! ## The standard of a compiler -/

open Banner (HasBanner FirstVersion isVersionChar)
open Version (Lower value values countedValues)

/-- What stands between the points of a version. -/
def partsOf (version : List Char) : List String := splitOn (String.ofList version) '.'

theorem components_ofList {version : List Char} (h : ∀ c ∈ version, isVersionChar c = true) :
    Version.components (String.ofList version) = countedValues (partsOf version) := by
  rw [Version.components, countedValues, partsOf, splitOn, String.toList_ofList, List.map_map]
  apply List.map_congr_left
  intro piece hpiece
  have hdigits : ∀ c ∈ piece, c.isDigit = true := by
    intro c hc
    obtain ⟨hmem, hpoint⟩ := mem_of_mem_splitChars hpiece hc
    simpa [isVersionChar, hpoint] using h c hmem
  rw [Version.component_of_digits hdigits, Function.comp_apply, String.toList_ofList]

/-- The answer goes by the version: it tells whether the version is above the last one with an older
default. -/
structure ByVersion (version : List Char) (answer : String) : Prop where
  either : answer = cxx14.name ∨ answer = cxx03.name
  counted : answer = cxx14.name ↔ Lower [6, 1] (countedValues (partsOf version))
  above : (∀ part ∈ partsOf version, value part.toList ≤ maxWord) →
    (answer = cxx14.name ↔ Lower [6, 1] (values (partsOf version)))

theorem defaultOf_eq_iff {version : List Char} (h : ∀ c ∈ version, isVersionChar c = true) :
    defaultOf version = cxx14 ↔ Lower [6, 1] (countedValues (partsOf version)) := by
  have hlast : Version.components lastOldDefault = [6, 1] := by decide
  rw [← Version.compareParts_eq_lt_iff, ← components_ofList h, ← hlast]
  unfold defaultOf Version.compare
  split <;> simp_all

theorem defaultOf_cases (version : List Char) :
    defaultOf version = cxx14 ∨ defaultOf version = cxx03 := by
  unfold defaultOf
  split <;> simp

theorem name_injective : Function.Injective name := by
  intro a b h
  cases a <;> cases b <;> simp_all [name]

theorem byVersion_defaultOf {version : List Char} (h : ∀ c ∈ version, isVersionChar c = true) :
    ByVersion version (defaultOf version).name := by
  have hcounted : (defaultOf version).name = cxx14.name ↔
      Lower [6, 1] (countedValues (partsOf version)) :=
    name_injective.eq_iff.trans (defaultOf_eq_iff h)
  refine ⟨?_, hcounted, ?_⟩
  · rcases defaultOf_cases version with hcase | hcase <;> simp [hcase]
  · intro hwords
    rw [hcounted, Version.countedValues_of_le hwords]

theorem byBanner_eq (lines : List String) :
    byBanner lines = match lines.findSome? fun line => Banner.version? line.toList with
      | some version => [(defaultOf version).name]
      | none => [] := by
  have hjoined : (String.intercalate "\n" lines).toList =
      ['\n'].intercalate (lines.map String.toList) :=
    String.toList_intercalate
  rw [byBanner, hjoined, Banner.version?_intercalate, List.findSome?_map]
  rfl

section NoSpelling

variable (hnone : ∀ spelling ∈ spellings, ¬ Mentions lines spelling)

include hnone

theorem standardOf_eq_of_no_spelling :
    standardOf lines = ((oldest? (byBanner lines)).map name).getD noStandard := by
  have hmentioned : mentioned lines = [] := by
    by_contra hne
    obtain ⟨spelling, hspelling, hmentions⟩ := mentioned_ne_nil_iff.1 hne
    exact hnone spelling hspelling hmentions
  rw [standardOf, spellingsIn_eq, if_pos hmentioned]

theorem standardOf_of_banner {version : List Char}
    (h : (lines.findSome? fun line => Banner.version? line.toList) = some version) :
    standardOf lines = (defaultOf version).name := by
  rw [standardOf_eq_of_no_spelling hnone, byBanner_eq, h]
  simp [oldest?_name]

theorem standardOf_of_no_banner (h : ∀ line ∈ lines, ¬ HasBanner line.toList) :
    standardOf lines = noStandard := by
  have hversion : (lines.findSome? fun line => Banner.version? line.toList) = none :=
    List.findSome?_eq_none_iff.2 fun line hline => Banner.version?_eq_none_iff.2 (h line hline)
  rw [standardOf_eq_of_no_spelling hnone, byBanner_eq, hversion]
  rfl

end NoSpelling

/-- What the answer keeps to where no line mentions a spelling: the first line with a banner
decides, by the first banner in it. -/
def FollowsBanner (lines : List String) : Prop :=
  ∀ before line after, lines = before ++ line :: after →
    (∀ earlier ∈ before, ¬ HasBanner earlier.toList) → HasBanner line.toList →
      ∃ version, FirstVersion version line.toList ∧ ByVersion version (standardOf lines)

theorem followsBanner (hnone : ∀ spelling ∈ spellings, ¬ Mentions lines spelling) :
    FollowsBanner lines := by
  rintro before line after rfl hbefore hline
  have hsome : Banner.version? line.toList ≠ none := fun h => Banner.version?_eq_none_iff.1 h hline
  obtain ⟨version, hversion⟩ := Option.ne_none_iff_exists'.1 hsome
  have hfirst : FirstVersion version line.toList := Banner.version?_eq_some_iff.1 hversion
  have hfound : ((before ++ line :: after).findSome? fun line => Banner.version? line.toList) =
      some version := by
    refine List.findSome?_eq_some_iff.2 ⟨before, line, after, rfl, hversion, ?_⟩
    intro earlier hearlier
    exact Banner.version?_eq_none_iff.2 (hbefore earlier hearlier)
  refine ⟨version, hfirst, ?_⟩
  rw [standardOf_of_banner hnone hfound]
  exact byVersion_defaultOf hfirst.chars

theorem name_ne_noStandard (standard : Standard) : standard.name ≠ noStandard := by
  cases standard <;> decide

theorem standardOf_eq_noStandard_iff (lines : List String) :
    standardOf lines = noStandard ↔
      (∀ spelling ∈ spellings, ¬ Mentions lines spelling) ∧
        ∀ line ∈ lines, ¬ HasBanner line.toList := by
  constructor
  · intro h
    have hnone : ∀ spelling ∈ spellings, ¬ Mentions lines spelling := by
      intro spelling hspelling hmentions
      obtain ⟨oldest, hname, -⟩ := exists_least ⟨spelling, hspelling, hmentions⟩
      exact name_ne_noStandard oldest (hname.symm.trans h)
    refine ⟨hnone, ?_⟩
    intro line hline hbanner
    cases hversion : lines.findSome? fun line => Banner.version? line.toList with
    | none =>
      have hnoVersion := List.findSome?_eq_none_iff.1 hversion line hline
      exact Banner.version?_eq_none_iff.1 hnoVersion hbanner
    | some version =>
      exact name_ne_noStandard _ ((standardOf_of_banner hnone hversion).symm.trans h)
  · rintro ⟨hnone, hbanner⟩
    exact standardOf_of_no_banner hnone hbanner

/-- **The answer is the least standard that the lines give evidence of.** Where no line mentions a
spelling it goes by the version in the first banner, which is read as numbers as long as a word
holds each of them. Where there is no banner either, and only there, there is no answer. -/
theorem languageVersion_evidence {S : Type} (name feature : String) (parser : Parser S)
    (lines : List String) (s s' : S)
    (h : (parser.parse (.stage .all)).exec s = (.ok (.lines lines), s')) :
    ((Detector.languageVersion name parser).detect feature).exec s =
      (.ok (.text (standardOf lines)), s') ∧
    ((∃ spelling ∈ spellings, Mentions lines spelling) → FollowsSpellings lines) ∧
    ((∀ spelling ∈ spellings, ¬ Mentions lines spelling) → FollowsBanner lines) ∧
    (standardOf lines = noStandard ↔
      (∀ spelling ∈ spellings, ¬ Mentions lines spelling) ∧
      ∀ line ∈ lines, ¬ HasBanner line.toList) :=
  ⟨Attempt.exec_bind_ok (Parser.exec_stageLines h), followsSpellings, followsBanner,
    standardOf_eq_noStandard_iff lines⟩

theorem languageVersion_evidence_logs :
    ((Detector.languageVersion "lang" (Parser.ofLines "log"
      ["g++ -std=gnu++11 -c a.cpp", "g++ -std=c++17 -c b.cpp"] : Parser Unit)).detect
        "lang_version").exec () = (.ok (.text "c++11"), ()) ∧
    standardOf ["g++ -std=c++17 -c b.cpp", "g++ -std=gnu++11 -c a.cpp"] = "c++11" ∧
    standardOf ["g++ -c a.cpp", "g++ (= 4:7.3.0-3) installed"] = "c++14" := by
  have hname : standardOf ["g++ -std=gnu++11 -c a.cpp", "g++ -std=c++17 -c b.cpp"] = "c++11" := by
    decide +kernel
  obtain ⟨hexec, hspelled, -, -⟩ := languageVersion_evidence "lang" "lang_version"
    (Parser.ofLines "log" ["g++ -std=gnu++11 -c a.cpp", "g++ -std=c++17 -c b.cpp"] : Parser Unit)
    _ () () rfl
  obtain ⟨-, -, hbanner, -⟩ := languageVersion_evidence "lang" "lang_version"
    (Parser.ofLines "log" ["g++ -c a.cpp", "g++ (= 4:7.3.0-3) installed"] : Parser Unit)
    _ () () rfl
  have hread : Banner.version? "g++ (= 4:7.3.0-3) installed".toList = some "7.3.0".toList := by
    decide +kernel
  have hnone : ∀ earlier ∈ ["g++ -c a.cpp"], ¬ HasBanner earlier.toList := by
    intro earlier hearlier
    obtain rfl := List.mem_singleton.1 hearlier
    exact Banner.version?_eq_none_iff.1 (by decide +kernel)
  have hsome : HasBanner "g++ (= 4:7.3.0-3) installed".toList := by
    by_contra hnot
    rw [Banner.version?_eq_none_iff.2 hnot] at hread
    cases hread
  obtain ⟨version, hfirst, hversion⟩ := hbanner (by decide +kernel) _ _ [] rfl hnone hsome
  obtain rfl : version = "7.3.0".toList :=
    Option.some.inj ((Banner.version?_eq_some_iff.2 hfirst).symm.trans hread)
  refine ⟨by rw [hexec, hname], ?_, ?_⟩
  · rw [(hspelled ⟨"c++17", by decide +kernel⟩).same_lines _ (by simp [or_comm]), hname]
  · exact (hversion.above (by decide)).2 ⟨0, by decide, by decide⟩

/-- The version of the banner is above every number that a word holds, and the answer is that of an
old compiler. -/
theorem languageVersion_beyond_word :
    standardOf ["g++ (= 18446744073709551616.0) installed"] = "c++03" ∧
    (∀ spelling ∈ spellings, ¬ Mentions ["g++ (= 18446744073709551616.0) installed"] spelling) ∧
    FirstVersion "18446744073709551616.0".toList
      "g++ (= 18446744073709551616.0) installed".toList ∧
    partsOf "18446744073709551616.0".toList = ["18446744073709551616", "0"] ∧
    Lower [6, 1] (values ["18446744073709551616", "0"]) := by
  have hnone : ∀ spelling ∈ spellings,
      ¬ Mentions ["g++ (= 18446744073709551616.0) installed"] spelling := by
    decide +kernel
  have hread : Banner.version? "g++ (= 18446744073709551616.0) installed".toList =
      some "18446744073709551616.0".toList := by
    decide +kernel
  have hdefault : defaultOf "18446744073709551616.0".toList = cxx03 := by
    rw [defaultOf, Version.compare_eq_compare]
    decide
  refine ⟨?_, hnone, Banner.version?_eq_some_iff.1 hread, by decide, 0, by decide, by decide⟩
  have hfound : (["g++ (= 18446744073709551616.0) installed"].findSome? fun line =>
      Banner.version? line.toList) = some "18446744073709551616.0".toList := by
    rw [List.findSome?_cons, hread]
  rw [standardOf_of_banner hnone hfound, hdefault]
  rfl

end FeatureSurvey.Standard
