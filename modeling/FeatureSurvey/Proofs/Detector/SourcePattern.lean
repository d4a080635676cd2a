import FeatureSurvey.Proofs.Data.Table
import FeatureSurvey.Proofs.Registry.BuiltIn
import FeatureSurvey.Proofs.Rules.FileHost
import FeatureSurvey.Proofs.Run.Exchanges
import FeatureSurvey.Proofs.Text.Lines
import FeatureSurvey.Proofs.Text.Pieces
import FeatureSurvey.Proofs.Text.Trim

/-!
# `Proofs/Detector/SourcePattern.lean` — what a search for a pattern comes to

A detector that counts patterns is built from the options of its declaration, and three things
follow from them. Which features it knows, and by which pattern, is a matter of the built-in table
and of the options named after features (`Patterns.PatternOf`). Where it looks is a matter of the
option `include` (`Patterns.Globs`). And which program is run, of the option `tool`. No option that
is named otherwise has any say.

Every question for a feature that is known starts one search, and the status of the search decides
what its output counts for (`SourcePatternDetector.Counts`). **That is all a question does**
(`BuiltIn.sourcePattern_answers`): one for a feature that is not known starts nothing.
-/

set_option autoImplicit false

namespace FeatureSurvey

/-! ## Text -/

namespace Text

theorem stripStart?_eq_some {s start rest : String} :
    stripStart? s start = some rest ↔ s = start ++ rest := by
  rw [stripStart?, dropStart?]
  constructor
  · intro h
    obtain ⟨cs, hcs, rfl⟩ := Option.map_eq_some_iff.1 h
    split at hcs
    case isTrue hstart =>
      cases hcs
      obtain ⟨behind, hbehind⟩ := List.isPrefixOf_iff_prefix.1 hstart
      rw [← hbehind, List.drop_left]
      apply String.toList_injective
      rw [String.toList_append, String.toList_ofList, hbehind]
    case isFalse => cases hcs
  · rintro rfl
    simp

/-- Lines that are not empty take a character each. -/
theorem length_linesFrom_le (line cs : List Char) :
    ((linesFrom line cs).filter fun l => !l.isEmpty).length ≤ line.length + cs.length := by
  have hone (l : List Char) (n : Nat) (h : l.length ≤ n) :
      ([l].filter fun l => !l.isEmpty).length ≤ n := by
    cases l with
    | nil => exact Nat.zero_le n
    | cons c l => exact Nat.le_trans (Nat.le_add_left 1 l.length) h
  induction cs generalizing line with
  | nil =>
    rw [linesFrom]
    split
    · exact Nat.zero_le _
    · exact hone _ _ (by simp)
  | cons c cs ih =>
    rw [linesFrom]
    split
    · have hline := hone (dropReturn line.reverse) line.length
        (by simpa using (dropReturn_isPrefix line.reverse).length_le)
      have hrest := ih []
      rw [← List.singleton_append, List.filter_append, List.length_append]
      simp only [List.length_nil, List.length_cons] at hrest ⊢
      omega
    · have hrest := ih (c :: line)
      simp only [List.length_cons] at hrest ⊢
      omega

end Text

/-! ## Options -/

namespace Patterns

open Text

variable {defaults : List (String × String)} {options : Table String} {feature pattern : String}

/-- The pattern of a feature: an option gives it, or without such an option it is built in. -/
inductive PatternOf (defaults : List (String × String)) (options : Table String)
    (feature pattern : String) : Prop
  | option (h : options.get? ("pattern." ++ feature) = some pattern)
  | builtIn (h : options.get? ("pattern." ++ feature) = none) (hmem : (feature, pattern) ∈ defaults)

/-- The globs of a search: those pieces of the option `include` that are not blank, without the
blanks around them. If it has none, and if it is not given, headers and sources are searched. -/
inductive Globs (options : Table String) : List String → Prop
  | unlisted (h : options.get? "include" = none) : Globs options ["*.h", "*.cpp"]
  | blank {pieces : List String} (h : options.get? "include" = some (",".intercalate pieces))
      (apart : ∀ piece ∈ pieces, ',' ∉ piece.toList)
      (none : ∀ piece ∈ pieces, isBlankText piece = true) : Globs options ["*.h", "*.cpp"]
  | listed {pieces : List String} (h : options.get? "include" = some (",".intercalate pieces))
      (apart : ∀ piece ∈ pieces, ',' ∉ piece.toList)
      (some : ∃ piece ∈ pieces, isBlankText piece = false) :
      Globs options ((pieces.filter fun piece => !isBlankText piece).map trim)

/-- What the options give for a feature is what they say under its name. -/
theorem find?_options (options : Table String) (feature : String) :
    ((options.entries.filterMap fun entry =>
      (stripStart? entry.1 "pattern.").map (·, entry.2)).reverse.find?
        fun e => e.1 == feature).map (·.2) = options.get? ("pattern." ++ feature) := by
  have hmem (pattern : String) : (feature, pattern) ∈ (options.entries.filterMap fun entry =>
      (stripStart? entry.1 "pattern.").map (·, entry.2)) ↔
        options.get? ("pattern." ++ feature) = some pattern := by
    rw [List.mem_filterMap, ← Table.mem_entries_iff (e := ("pattern." ++ feature, pattern))]
    constructor
    · rintro ⟨⟨key, value⟩, hentry, hkey⟩
      obtain ⟨feature', hstrip, heq⟩ := Option.map_eq_some_iff.1 hkey
      cases heq
      rw [← stripStart?_eq_some.1 hstrip]
      exact hentry
    · intro hentry
      exact ⟨_, hentry, by rw [stripStart?_eq_some.2 rfl]; rfl⟩
  ext pattern
  rw [Option.map_eq_some_iff, ← hmem]
  constructor
  · rintro ⟨entry, hfound, rfl⟩
    obtain rfl : entry.1 = feature := by simpa using List.find?_some hfound
    exact List.mem_reverse.1 (List.mem_of_find?_eq_some hfound)
  · intro hentry
    obtain ⟨entry, hfound⟩ := Option.isSome_iff_exists.1 (List.find?_isSome
      (p := fun e => e.1 == feature).2 ⟨_, List.mem_reverse.2 hentry, beq_self_eq_true feature⟩)
    obtain rfl : entry.1 = feature := by simpa using List.find?_some hfound
    -- both are what the one option says
    have hvalue := (hmem entry.2).1 (List.mem_reverse.1 (List.mem_of_find?_eq_some hfound))
    rw [(hmem pattern).1 hentry] at hvalue
    exact ⟨entry, hfound, (Option.some.inj hvalue).symm⟩

theorem get?_withOptions (h : (defaults.map (·.1)).Nodup) :
    (withOptions defaults options).get? feature = some pattern ↔
      PatternOf defaults options feature pattern := by
  have hget : (withOptions defaults options).get? feature =
      (options.get? ("pattern." ++ feature)).or ((Table.ofList defaults).get? feature) := by
    rw [withOptions, Table.get?_foldl_insert]
    exact congrArg (Option.or · _) (find?_options options feature)
  rw [hget, Option.or_eq_some_iff, Table.get?_ofList_of_nodup h]
  constructor
  · rintro (hoption | ⟨hnone, hmem⟩)
    · exact .option hoption
    · exact .builtIn hnone hmem
  · rintro (hoption | ⟨hnone, hmem⟩)
    · exact .inl hoption
    · exact .inr ⟨hnone, hmem⟩

theorem exists_patternOf_iff : (∃ pattern, PatternOf defaults options feature pattern) ↔
    feature ∈ defaults.map (·.1) ∨ "pattern." ++ feature ∈ options.names := by
  rw [Table.mem_names_iff, List.mem_map, Option.isSome_iff_exists]
  constructor
  · rintro ⟨pattern, hoption | ⟨-, hmem⟩⟩
    · exact .inr ⟨pattern, hoption⟩
    · exact .inl ⟨_, hmem, rfl⟩
  · rintro (⟨entry, hmem, rfl⟩ | ⟨pattern, hoption⟩)
    · cases hoption : options.get? ("pattern." ++ entry.1) with
      | some pattern => exact ⟨pattern, .option hoption⟩
      | none => exact ⟨entry.2, .builtIn hoption hmem⟩
    · exact ⟨pattern, .option hoption⟩

/-- The globs that a search is built with. -/
theorem globs_includes (options : Table String) : Globs options
    (includesOrDefault (((options.get? "include").map listedIncludes).getD [])) := by
  cases hlist : options.get? "include" with
  | none => exact .unlisted hlist
  | some list =>
    have hpieces : options.get? "include" = some (",".intercalate (splitOn list ',')) := by
      rw [hlist]
      exact congrArg some (intercalate_splitOn list ',').symm
    have hlisted : listedIncludes list =
        ((splitOn list ',').filter fun piece => !isBlankText piece).map trim := by
      rw [listedIncludes, List.filter_map]
      refine congrArg (List.map trim) (List.filter_congr fun piece _ => ?_)
      rw [Function.comp_apply, Bool.not_inj_iff, Bool.eq_iff_iff, ← trim_eq_empty_iff]
      exact String.isEmpty_iff
    have hapart (piece : String) (h : piece ∈ splitOn list ',') : ',' ∉ piece.toList :=
      not_mem_of_mem_splitOn h
    rw [Option.map_some, Option.getD_some, includesOrDefault, hlisted]
    split
    case isTrue hempty =>
      refine .blank hpieces hapart fun piece hpiece => ?_
      simp only [List.isEmpty_iff, List.map_eq_nil_iff, List.filter_eq_nil_iff] at hempty
      simpa using hempty piece hpiece
    case isFalse hsome =>
      refine .listed hpieces hapart ?_
      simpa using hsome

end Patterns

/-! ## Searches -/

namespace SourcePatternDetector

open Text

/-- What the output of a search counts for. -/
inductive Counts (command : Command) (output : ToolOutput) : Except SurveyError FeatureValue → Prop
  /-- A word has room for the count of any output shorter than a word can tell. -/
  | found {detected : Detected} {count : UInt64} (status : output.status = some 0)
      (counted : output.stdout.length < UInt64.size →
        count.toNat = ((lines output.stdout).filter fun line => line ≠ "").length)
      (positive : detected = .yes ↔ 0 < count) :
      Counts command output (.ok (.occurrences detected count))
  | nothing (status : output.status = some 1) :
      Counts command output (.ok (.occurrences .no 0))
  | refused (zero : output.status ≠ some 0) (one : output.status ≠ some 1) :
      Counts command output
        (.error (.toolFailed command.describe output.status (trim output.stderr)))

theorem countLines_eq (stdout : String) :
    Patterns.countLines stdout = ((lines stdout).filter fun line => line ≠ "").length := by
  refine congrArg List.length (List.filter_congr fun line _ => ?_)
  rw [Bool.eq_iff_iff]
  simp

theorem countLines_le (stdout : String) : Patterns.countLines stdout ≤ stdout.length := by
  have hchars := length_linesFrom_le [] stdout.toList
  rw [List.length_nil, Nat.zero_add, String.length_toList] at hchars
  rw [Patterns.countLines, lines, List.filter_map, List.length_map]
  refine Nat.le_trans (Nat.le_of_eq (congrArg List.length ?_)) hchars
  refine List.filter_congr fun line _ => ?_
  rw [Function.comp_apply, Bool.not_inj_iff, Bool.eq_iff_iff, String.isEmpty_iff,
    String.ofList_eq_empty_iff, List.isEmpty_iff]

theorem detected_ofCount (count : UInt64) : Detected.ofCount count = .yes ↔ 0 < count := by
  rw [Detected.ofCount]
  split
  case isTrue h => exact iff_of_true rfl h
  case isFalse h => exact iff_of_false nofun h

theorem countOf_counts (search : SourcePatternDetector) (pattern : String) (output : ToolOutput) :
    Counts (search.command pattern) output
      ((search.countOf pattern output).map fun count => .ofCount (UInt64.ofNat count)) := by
  rw [countOf]
  split
  case isTrue hzero =>
    refine .found hzero (fun hsize => ?_) (detected_ofCount _)
    rw [← countLines_eq]
    exact UInt64.toNat_ofNat_of_lt' (Nat.lt_of_le_of_lt (countLines_le _) hsize)
  case isFalse hzero =>
    split
    case isTrue hone => exact .nothing hone
    case isFalse hone => exact .refused hzero hone

end SourcePatternDetector

namespace BuiltIn

open Patterns SourcePatternDetector

/-- The kinds whose detectors count patterns, with the patterns that are built in. -/
inductive PatternKind : String → List (String × String) → Prop
  | namedCast : PatternKind Kind.namedCast namedCasts
  | smartPointer : PatternKind Kind.smartPointer smartPointers

/-- The command of a search. -/
def searching (program pattern dir : String) (globs : List String) : Command where
  program
  arguments := ["-i", "-r"] ++ (globs.flatMap fun glob => ["--include", glob]) ++
    ["-E", pattern, dir]

variable {W : Type} [Host W]

/-- A question for a feature that is not known, or for one that is searched for. -/
inductive Searches (defaults : List (String × String)) (spec : DetectorSpec)
    (program dir : String) (timeout : Timeout) : Exchange W String FeatureValue → Prop
  | unsupported {feature : String} {s : Session W}
      (h : ∀ pattern, ¬ PatternOf defaults spec.options feature pattern) :
      Searches defaults spec program dir timeout
        ⟨feature, s, .error (.unsupportedFeature spec.name feature), [], s⟩
  | searched {feature pattern : String} {globs : List String} {s : Session W} {w : W}
      {result : Except SurveyError ToolOutput} {outcome : Except SurveyError FeatureValue}
      (pattern_of : PatternOf defaults spec.options feature pattern)
      (globs_of : Globs spec.options globs)
      (run : (Tool.run (searching program pattern dir globs) timeout).exec s.world = (result, w))
      (unfinished : ∀ e, result = .error e → outcome = .error e)
      (finished : ∀ output, result = .ok output →
        Counts (searching program pattern dir globs) output outcome) :
      Searches defaults spec program dir timeout
        ⟨feature, s, outcome, [.ran (searching program pattern dir globs) result],
          { s with world := w }⟩

theorem put_unsupported {search : SourcePatternDetector} {feature : String}
    (h : search.patterns.get? feature = none) (s : Session W) :
    Exchange.put (searchDetector search).detect s feature =
      ⟨feature, s, .error (.unsupportedFeature search.name feature), [], s⟩ := by
  apply Exchange.put_eq
  simp only [searchDetector, detect, h, Session.exec_onWorld]
  rfl

theorem put_searched {search : SourcePatternDetector} {feature pattern : String}
    (h : search.patterns.get? feature = some pattern) (s : Session W) {w : W}
    {result : Except SurveyError ToolOutput}
    (hrun : (Tool.run (search.command pattern) search.timeout).exec s.world = (result, w)) :
    Exchange.put (searchDetector search).detect s feature =
      ⟨feature, s, result.bind fun output => (search.countOf pattern output).map fun count =>
        .ofCount (UInt64.ofNat count), [.ran (search.command pattern) result],
        { s with world := w }⟩ := by
  apply Exchange.put_eq
  simp only [searchDetector, detect, h, Session.exec_onWorld, Session.world_recording,
    Attempt.exec_bind, Tool.exec_run_recorded, hrun, List.nil_append]
  cases result with
  | error e => rfl
  | ok output =>
    simp only [Attempt.exec_ofExcept, Except.bind]
    cases search.countOf pattern output <;> rfl

theorem nodup_defaults {kind : String} {defaults : List (String × String)}
    (h : PatternKind kind defaults) : (defaults.map (·.1)).Nodup := by
  cases h <;> decide

/-- Every question to a search that was built from a declaration. -/
theorem put_searches (build : DetectorBuild (Session (Recorded W)))
    {defaults : List (String × String)} (h : (defaults.map (·.1)).Nodup) (dir : String) (w : W)
    (s : Session W) (feature : String) :
    Searches defaults build.spec
      (Tool.resolve w (build.spec.option? "tool") "GREP_BIN" "grep") dir build.timeout
      (Exchange.put (searchDetector (searchIn w build defaults dir)).detect s feature) := by
  cases hpattern : (withOptions defaults build.spec.options).get? feature with
  | none =>
    rw [put_unsupported hpattern]
    refine .unsupported fun pattern hof => ?_
    rw [(get?_withOptions h).2 hof] at hpattern
    cases hpattern
  | some pattern =>
    rcases hrun : (Tool.run ((searchIn w build defaults dir).command pattern)
      build.timeout).exec s.world with ⟨result, v⟩
    rw [put_searched hpattern s hrun]
    refine .searched ((get?_withOptions h).1 hpattern) (globs_includes build.spec.options) hrun
      (fun e he => he ▸ rfl) fun output hok => ?_
    subst hok
    exact countOf_counts (searchIn w build defaults dir) pattern output

/-- **What a detector does that counts patterns.** It is built whatever the options are, and then
every question is an error that starts nothing, if no pattern goes with the feature, or one search
that decides the answer. -/
theorem sourcePattern_answers {kind : String} {defaults : List (String × String)}
    (h : PatternKind kind defaults) (spec : DetectorSpec) (hspec : spec.kind = kind)
    (inputs : Inputs) (dir : String) (hdir : inputs.sourceDir = some dir)
    (parser : Option (Parser (Session (Recorded W)))) (timeout : Timeout) (s : Session W) :
    ∃ factory d, registry.detectors.get? spec.kind = some factory ∧
      (factory ⟨spec, inputs, parser, timeout⟩).exec s.recording = (.ok d, s.recording) ∧
      d.name = spec.name ∧
      ∀ feature,
        ((∃ pattern, PatternOf defaults spec.options feature pattern) ↔
          feature ∈ defaults.map (·.1) ∨ "pattern." ++ feature ∈ spec.options.names) ∧
        ∀ t : Session W, Searches defaults spec
          (Tool.resolve s.world (spec.option? "tool") "GREP_BIN" "grep") dir timeout
          (Exchange.put d.detect t feature) := by
  have hkind : DetectorKind kind (sourcePatternDetector (W := Recorded W) kind defaults) := by
    cases h
    · exact .namedCast
    · exact .smartPointer
  subst hspec
  let build : DetectorBuild (Session (Recorded W)) := ⟨spec, inputs, parser, timeout⟩
  have hsource : build.inputs.requireSourceDir spec.kind = .ok dir := required_eq_ok.2 hdir
  have hbuilt := exec_sourcePatternDetector s.recording build spec.kind defaults
  rw [hsource] at hbuilt
  exact ⟨_, _, registry_detector_iff.2 hkind, hbuilt, rfl, fun feature =>
    ⟨exists_patternOf_iff, fun t => put_searches build (nodup_defaults h) dir s.world t feature⟩⟩

/-- A declaration with a pattern of its own. -/
def jumps : DetectorSpec where
  name := "jumps"
  kind := Kind.namedCast
  options := Table.ofList [("pattern.goto", "goto .+"), ("tool", "/usr/bin/grep")]

def jumpsOutput : ToolOutput := ⟨some 0, "a.cc:  goto done;\n\nb.cc:  goto done;\n", ""⟩

/-- A host on which every tool ends like this. -/
def jumpsHost : FileHost := { files := fun _ => none, fault := some (.exited jumpsOutput) }

def jumpsCommand : Command where
  program := "/usr/bin/grep"
  arguments := ["-i", "-r", "--include", "*.h", "--include", "*.cpp", "-E", "goto .+", "/src"]

theorem sourcePattern_answers_jumps :
    PatternKind Kind.namedCast namedCasts ∧ jumps.kind = Kind.namedCast ∧
    (Inputs.sourceOnly "/src").sourceDir = some "/src" ∧
    ∃ factory d, registry.detectors.get? jumps.kind = some factory ∧
      (factory ⟨jumps, .sourceOnly "/src", none, .ofSeconds 10⟩).exec
        (Session.recording { world := jumpsHost }) =
          (.ok d, Session.recording { world := jumpsHost }) ∧
      (Exchange.put d.detect { world := jumpsHost } "goto").outcome = .ok (.occurrences .yes 2) ∧
      (Exchange.put d.detect { world := jumpsHost } "goto").steps =
        [.ran jumpsCommand (.ok jumpsOutput)] := by
  refine ⟨.namedCast, rfl, rfl, ?_⟩
  obtain ⟨factory, d, hfactory, hbuilt, -, hanswers⟩ := sourcePattern_answers .namedCast jumps rfl
    (.sourceOnly "/src") "/src" rfl none (.ofSeconds 10) { world := jumpsHost }
  refine ⟨factory, d, hfactory, hbuilt, ?_⟩
  obtain ⟨-, hsearches⟩ := hanswers "goto"
  have hgoto : jumps.options.get? "pattern.goto" = some "goto .+" := by decide +kernel
  have hinclude : jumps.options.get? "include" = none := by decide +kernel
  have hsearch := hsearches { world := jumpsHost }
  have hplaced : (Exchange.put d.detect { world := jumpsHost } "goto").question = "goto" ∧
    (Exchange.put d.detect { world := jumpsHost } "goto").before = { world := jumpsHost } :=
      ⟨rfl, rfl⟩
  generalize Exchange.put d.detect { world := jumpsHost } "goto" = x at hsearch hplaced
  obtain ⟨hfeature, hbefore⟩ := hplaced
  cases hsearch with
  | unsupported h =>
    subst hfeature
    exact absurd (.option hgoto) (h _)
  | searched pattern_of globs_of run _ finished =>
    dsimp only at hfeature hbefore ⊢
    subst hfeature hbefore
    cases globs_of with
    | blank h => exact absurd (hinclude.symm.trans h) nofun
    | listed h => exact absurd (hinclude.symm.trans h) nofun
    | unlisted =>
      cases pattern_of with
      | builtIn h => exact absurd (hgoto.symm.trans h) nofun
      | option h =>
        obtain rfl := Option.some.inj (hgoto.symm.trans h)
        have hprogram : Tool.resolve jumpsHost (jumps.option? "tool") "GREP_BIN" "grep" =
            "/usr/bin/grep" := by decide +kernel
        dsimp only at run finished ⊢
        rw [hprogram] at run finished ⊢
        cases run
        cases finished jumpsOutput rfl with
        | nothing hone => exact absurd hone nofun
        | refused hzero => exact absurd rfl hzero
        | @found detected count _ counted positive =>
          have htwo : count.toNat = 2 := counted (by decide +kernel)
          obtain rfl : count = 2 := UInt64.toNat_inj.1 htwo
          rw [positive.2 (by decide)]
          exact ⟨rfl, rfl⟩

end BuiltIn

end FeatureSurvey
