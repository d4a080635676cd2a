import Mathlib.Data.List.Perm.Basic
import FeatureSurvey.BuildLog.CompilerLines
import FeatureSurvey.Proofs.BuildLog.Definitions
import FeatureSurvey.Proofs.Text.Lines

/-!
# `Proofs/BuildLog/Stages.lean` — the groups of compiler lines, described by pieces

A log is sorted by looking for pieces of text in its lines. The description here (`Sorted`) says
which lines count and what each of them is by how the line falls into pieces: whether one of those
between single spaces is the flag for an object, and whether the lower-cased line has the name
behind `-o`. **It has one solution, and that is what sorting the log gives** (`classify_sorts`).

The groups are a partition of the lines that count, in their order. And since dropping definitions
is done after one time and leaves the call of the compiler in front, a log made of those lines is
sorted into the same groups again.
-/

set_option autoImplicit false

namespace FeatureSurvey

namespace BuildLog

open Text

variable {cs piece behind : List Char} {line : String} {binaryName : Option String}

/-! ## Pieces -/

/-- The flag that asks for an object: `-c`, and no word character behind it. -/
def IsObjectFlag (piece : List Char) : Prop :=
  ∃ rest, piece = '-' :: 'c' :: rest ∧ ∀ c ∈ rest.head?, isWordChar c = false

/-- Of the pieces between single spaces, one behind the first is that flag. -/
def CompilesObject (line : String) : Prop :=
  ∃ piece ∈ (splitChars ' ' line.toList).tail, IsObjectFlag piece

/-- With a name, `-o` and the name stand in the lower-cased line; without one, `-o` does, and the
line compiles no object. -/
def LinksBinary : Option String → String → Prop
  | some name, line => ("-o " ++ lowercase name).toList <:+: (lowercase line).toList
  | none, line => ¬ CompilesObject line ∧ "-o ".toList <:+: (lowercase line).toList

theorem startsObjectFlag_iff (piece : List Char) :
    startsObjectFlag piece = true ↔ IsObjectFlag piece := by
  unfold startsObjectFlag IsObjectFlag
  split
  · simp
  · simp
  · rename_i hend hnext
    simp only [Bool.false_eq_true, false_iff, not_exists, not_and]
    rintro rest rfl
    cases rest with
    | nil => exact absurd rfl hend
    | cons c rest => exact absurd rfl (hnext c rest)

instance (piece : List Char) : Decidable (IsObjectFlag piece) :=
  decidable_of_iff _ (startsObjectFlag_iff piece)

instance (line : String) : Decidable (CompilesObject line) :=
  inferInstanceAs (Decidable (∃ piece ∈ (splitChars ' ' line.toList).tail, IsObjectFlag piece))

instance : (binaryName : Option String) → (line : String) → Decidable (LinksBinary binaryName line)
  | some name, line =>
    inferInstanceAs (Decidable (("-o " ++ lowercase name).toList <:+: (lowercase line).toList))
  | none, line =>
    inferInstanceAs (Decidable (¬ CompilesObject line ∧ "-o ".toList <:+: (lowercase line).toList))

/-- Whether the flag stands at the front is seen in the first piece. -/
theorem isObjectFlag_append (h : ∀ c ∈ behind.head?, c = ' ') :
    IsObjectFlag (piece ++ behind) ↔ IsObjectFlag piece := by
  constructor
  · rintro ⟨rest, heq, hrest⟩
    match piece with
    | [] =>
      subst heq
      cases h '-' rfl
    | [c] =>
      obtain ⟨-, rfl⟩ := List.cons.inj heq
      cases h 'c' rfl
    | c :: d :: tail =>
      simp only [List.cons_append, List.cons.injEq] at heq
      obtain ⟨rfl, rfl, rfl⟩ := heq
      refine ⟨tail, rfl, fun c hc => hrest c ?_⟩
      rw [List.head?_append]
      simp [Option.mem_def.1 hc]
  · rintro ⟨rest, rfl, hrest⟩
    refine ⟨rest ++ behind, rfl, fun c hc => ?_⟩
    cases rest with
    | nil =>
      rw [h c hc]
      decide
    | cons d rest => exact hrest c hc

theorem hasObjectFlag_iff (cs : List Char) :
    hasObjectFlag cs = true ↔ ∃ piece ∈ (splitChars ' ' cs).tail, IsObjectFlag piece := by
  induction cs with
  | nil => simp [hasObjectFlag, splitChars]
  | cons c cs ih =>
    obtain ⟨front, others, hcs⟩ := List.exists_cons_of_ne_nil (splitChars_ne_nil ' ' cs)
    rw [hcs, List.tail_cons] at ih
    by_cases hc : c = ' '
    · -- the piece right behind this blank is the one that is looked at here
      obtain ⟨behind, hfront, hbehind⟩ := splitChars_eq_cons hcs
      have hflag : startsObjectFlag cs = true ↔ IsObjectFlag front := by
        rw [startsObjectFlag_iff, hfront, isObjectFlag_append hbehind]
      simp [hasObjectFlag, splitChars, hcs, hc, hflag, ih]
    · simp [hasObjectFlag, splitChars, hcs, hc, ih]

/-! ## What a line is -/

/-- The line begins with the call of the compiler. -/
def IsCall (line : String) : Prop := "g++ ".toList <+: line.toList

instance (line : String) : Decidable (IsCall line) :=
  inferInstanceAs (Decidable ("g++ ".toList <+: line.toList))

theorem startsWith_compilerCall_iff (line : String) :
    startsWith line compilerCall = true ↔ IsCall line :=
  startsWith_iff_isPrefix line compilerCall

theorem IsCall.compilesObject_iff (h : IsCall line) :
    compilesObject line = true ↔ CompilesObject line := by
  rw [compilesObject, (startsWith_compilerCall_iff line).2 h, Bool.true_and, hasObjectFlag_iff]
  rfl

theorem IsCall.linksBinary_iff (h : IsCall line) :
    linksBinary binaryName line = true ↔ LinksBinary binaryName line := by
  cases binaryName with
  | none =>
    have hobject : compilesObject line = false ↔ ¬ CompilesObject line := by
      rw [← h.compilesObject_iff, Bool.not_eq_true]
    simp only [linksBinary, LinksBinary, Bool.and_eq_true, Bool.not_eq_true', hobject,
      contains_iff_isInfix]
  | some name => exact contains_iff_isInfix _ _

theorem IsCall.stageOf_iff (h : IsCall line) :
    (stageOf binaryName line = .linker ↔ LinksBinary binaryName line) ∧
    (stageOf binaryName line = .objects ↔
      ¬ LinksBinary binaryName line ∧ CompilesObject line) ∧
    (stageOf binaryName line = .others ↔
      ¬ LinksBinary binaryName line ∧ ¬ CompilesObject line) := by
  simp only [stageOf, h.linksBinary_iff, h.compilesObject_iff]
  by_cases hlinks : LinksBinary binaryName line <;>
    by_cases hobject : CompilesObject line <;> simp [hlinks, hobject]

theorem IsCall.stripDefinitions (h : IsCall line) : IsCall (stripDefinitions line) :=
  call_prefix_stripDefinitions h

end BuildLog

namespace CompilerLines

open Text BuildLog

variable {body line : String} {binaryName : Option String} {lines : CompilerLines}

/-! ## Lines that count -/

theorem mem_callsIn : line ∈ callsIn body ↔
    ∃ raw ∈ Text.lines body, IsCall raw ∧ stripDefinitions raw = line := by
  simp only [callsIn, List.mem_map, List.mem_filter, startsWith_compilerCall_iff, and_assoc]

theorem isCall_of_mem_callsIn (h : line ∈ callsIn body) : IsCall line := by
  obtain ⟨raw, -, hcall, rfl⟩ := mem_callsIn.1 h
  exact hcall.stripDefinitions

theorem isLine_of_mem_callsIn (hbody : '\r' ∉ body.toList) (h : line ∈ callsIn body) :
    IsLine line := by
  have hcall := isCall_of_mem_callsIn h
  obtain ⟨raw, hraw, -, rfl⟩ := mem_callsIn.1 h
  refine ⟨?_, ?_, ?_⟩
  · intro hnil
    rw [IsCall, hnil] at hcall
    exact absurd (List.prefix_nil.1 hcall) (by decide)
  · intro hmem
    exact newline_not_mem_of_mem_lines hraw (mem_of_mem_stripDefinitions hmem)
  · intro hmem
    exact hbody (mem_of_mem_lines hraw (mem_of_mem_stripDefinitions hmem))

/-- A log of the lines that count, without definitions, has the same lines. -/
theorem callsIn_intercalate (hbody : '\r' ∉ body.toList) :
    callsIn ("\n".intercalate (callsIn body)) = callsIn body := by
  have hlines : Text.lines ("\n".intercalate (callsIn body)) = callsIn body :=
    lines_intercalate fun line hline => isLine_of_mem_callsIn hbody hline
  have hcalls : (callsIn body).filter (fun line => startsWith line compilerCall) = callsIn body :=
    List.filter_eq_self.2 fun line hline =>
      (startsWith_compilerCall_iff line).2 (isCall_of_mem_callsIn hline)
  have hstripped : (callsIn body).map stripDefinitions = callsIn body := by
    refine (List.map_congr_left ?_).trans (List.map_id _)
    intro line hline
    obtain ⟨raw, -, -, rfl⟩ := mem_callsIn.1 hline
    exact stripDefinitions_idem raw
  rw [callsIn, hlines, hcalls, hstripped]

theorem classify_eq_of_callsIn {other : String} (h : callsIn other = callsIn body) :
    classify other binaryName = classify body binaryName := by
  rw [classify, classify, h]

/-! ## Sorting -/

/-- A log is sorted into these groups: what counts are the lines that begin with the call of the
compiler, each without its definitions, and they are told apart by their pieces. -/
structure Sorted (body : String) (binaryName : Option String) (lines : CompilerLines) : Prop where
  all_eq : lines.all = ((Text.lines body).filter fun raw => IsCall raw).map withoutDefinitions
  linker_eq : lines.linker = lines.all.filter fun line => LinksBinary binaryName line
  objects_eq : lines.objects = lines.all.filter fun line =>
    ¬ LinksBinary binaryName line ∧ CompilesObject line
  others_eq : lines.others = lines.all.filter fun line =>
    ¬ LinksBinary binaryName line ∧ ¬ CompilesObject line

/-- Every line is in one of the groups, as often as it is in the log and where it is there. -/
structure Partition (lines : CompilerLines) : Prop where
  linker_sublist : lines.linker.Sublist lines.all
  objects_sublist : lines.objects.Sublist lines.all
  others_sublist : lines.others.Sublist lines.all
  disjoint : [lines.linker, lines.objects, lines.others].Pairwise List.Disjoint
  perm : (lines.linker ++ (lines.objects ++ lines.others)).Perm lines.all

theorem Sorted.unique {lines' : CompilerLines} (h : Sorted body binaryName lines)
    (h' : Sorted body binaryName lines') : lines = lines' := by
  have hall : lines.all = lines'.all := h.all_eq.trans h'.all_eq.symm
  have hlinker : lines.linker = lines'.linker := by rw [h.linker_eq, h'.linker_eq, hall]
  have hobjects : lines.objects = lines'.objects := by rw [h.objects_eq, h'.objects_eq, hall]
  have hothers : lines.others = lines'.others := by rw [h.others_eq, h'.others_eq, hall]
  cases lines
  cases lines'
  cases hall
  cases hlinker
  cases hobjects
  cases hothers
  rfl

theorem Sorted.mem_linker (h : Sorted body binaryName lines) :
    line ∈ lines.linker ↔ line ∈ lines.all ∧ LinksBinary binaryName line := by
  rw [h.linker_eq, List.mem_filter, decide_eq_true_iff]

theorem Sorted.mem_objects (h : Sorted body binaryName lines) :
    line ∈ lines.objects ↔
      line ∈ lines.all ∧ ¬ LinksBinary binaryName line ∧ CompilesObject line := by
  rw [h.objects_eq, List.mem_filter, decide_eq_true_iff]

theorem Sorted.mem_others (h : Sorted body binaryName lines) :
    line ∈ lines.others ↔
      line ∈ lines.all ∧ ¬ LinksBinary binaryName line ∧ ¬ CompilesObject line := by
  rw [h.others_eq, List.mem_filter, decide_eq_true_iff]

theorem Sorted.partition (h : Sorted body binaryName lines) : Partition lines where
  linker_sublist := h.linker_eq ▸ List.filter_sublist
  objects_sublist := h.objects_eq ▸ List.filter_sublist
  others_sublist := h.others_eq ▸ List.filter_sublist
  disjoint := by
    simp only [List.pairwise_cons, List.mem_cons, List.not_mem_nil, or_false, forall_eq_or_imp,
      forall_eq, false_imp_iff, implies_true, and_true, List.Pairwise.nil]
    refine ⟨⟨?_, ?_⟩, ?_⟩
    · intro line hfirst hsecond
      exact (h.mem_objects.1 hsecond).2.1 (h.mem_linker.1 hfirst).2
    · intro line hfirst hsecond
      exact (h.mem_others.1 hsecond).2.1 (h.mem_linker.1 hfirst).2
    · intro line hfirst hsecond
      exact (h.mem_others.1 hsecond).2.2 (h.mem_objects.1 hfirst).2.2
  perm := by
    -- the lines that do not link the binary are told apart a second time
    have hobjects : lines.objects =
        (lines.all.filter fun line => !decide (LinksBinary binaryName line)).filter
          fun line => CompilesObject line := by
      rw [h.objects_eq, List.filter_filter]
      congr 1
      funext line
      simp [and_comm]
    have hothers : lines.others =
        (lines.all.filter fun line => !decide (LinksBinary binaryName line)).filter
          fun line => !decide (CompilesObject line) := by
      rw [h.others_eq, List.filter_filter]
      congr 1
      funext line
      simp [and_comm]
    have hrest : (lines.objects ++ lines.others).Perm
        (lines.all.filter fun line => !decide (LinksBinary binaryName line)) := by
      rw [hobjects, hothers]
      exact List.filter_append_perm _ _
    rw [h.linker_eq]
    exact (hrest.append_left _).trans (List.filter_append_perm _ _)

theorem filter_stageOf {stage : BuildStage} {p : String → Prop} [DecidablePred p]
    (h : ∀ line, IsCall line → (stageOf binaryName line = stage ↔ p line)) :
    ((callsIn body).filter fun line => stageOf binaryName line == stage) =
      (callsIn body).filter fun line => p line := by
  refine List.filter_congr fun line hline => ?_
  rw [beq_eq_decide]
  exact decide_eq_decide.2 (h line (isCall_of_mem_callsIn hline))

theorem sorted_classify (body : String) (binaryName : Option String) :
    Sorted body binaryName (classify body binaryName) where
  all_eq := by
    have hstrip : stripDefinitions = withoutDefinitions :=
      funext stripDefinitions_eq_withoutDefinitions
    have hcalls : (fun raw => startsWith raw compilerCall) = fun raw => decide (IsCall raw) := by
      funext raw
      exact Bool.eq_iff_iff.2 ((startsWith_compilerCall_iff raw).trans decide_eq_true_iff.symm)
    rw [← hstrip, ← hcalls]
    rfl
  linker_eq := filter_stageOf fun _ h => h.stageOf_iff.1
  objects_eq := filter_stageOf fun _ h => h.stageOf_iff.2.1
  others_eq := filter_stageOf fun _ h => h.stageOf_iff.2.2

/-- **Sorting a log is what its description says, by pieces of its lines, and nothing else is.** -/
theorem classify_sorts (body : String) (binaryName : Option String) :
    (∀ lines, Sorted body binaryName lines ↔ lines = classify body binaryName) ∧
    Partition (classify body binaryName) ∧
    (∀ other, (classify body other).all = (classify body binaryName).all) ∧
    ('\r' ∉ body.toList →
      classify ("\n".intercalate (classify body binaryName).all) binaryName =
        classify body binaryName) := by
  have hsorted := sorted_classify body binaryName
  refine ⟨?_, hsorted.partition, fun _ => rfl, ?_⟩
  · intro lines
    constructor
    · intro h
      exact h.unique hsorted
    · rintro rfl
      exact hsorted
  · intro hbody
    exact classify_eq_of_callsIn (callsIn_intercalate hbody)

end CompilerLines

end FeatureSurvey
