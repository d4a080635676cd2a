import Mathlib.Data.List.TakeWhile
import FeatureSurvey.BuildLog.Definitions
import FeatureSurvey.Proofs.Text.Lowercase
import FeatureSurvey.Proofs.Text.Pieces

/-!
# `Proofs/BuildLog/Definitions.lean` — what is left of a line without its definitions

Dropping definitions is erasing what `-D\w*=\S+` matches: the leftmost match first, each as long
as it can be. That is a rule about a whole line (`Erased`), and a rule of this kind could do odd
things: two marks in one word, a match that joins what stood on its two sides into a new one.

None of this happens, because a match goes on to the end of its word. **So a line without its
definitions is the line with each word cut off where its first definition begins**
(`stripDefinitions_cuts`), and all that is said about it is read off single words.
-/

set_option autoImplicit false

namespace FeatureSurvey.BuildLog

open Text

variable {c : Char} {n skip : Nat} {cs run rest out piece xs ys : List Char}

/-! ## The rule about the line -/

/-- A definition with a value and nothing else, which is what `-D\w*=\S+` matches. -/
def IsDefinition (cs : List Char) : Prop :=
  ∃ name value, cs = '-' :: 'D' :: (name ++ '=' :: value) ∧
    (∀ c ∈ name, isWordChar c = true) ∧ value ≠ [] ∧ IsRun value

/-- What is left of a text when all that is of a kind is taken out of it: from the left to the
right, at each place as much as possible, and no character twice. -/
inductive Erased (Found : List Char → Prop) : List Char → List Char → Prop
  | nil : Erased Found [] []
  | keep {c : Char} {cs out : List Char} : (∀ piece, piece <+: c :: cs → ¬ Found piece) →
      Erased Found cs out → Erased Found (c :: cs) (c :: out)
  | drop {piece rest out : List Char} : Found piece →
      (∀ longer, longer <+: piece ++ rest → Found longer → longer.length ≤ piece.length) →
      Erased Found rest out → Erased Found (piece ++ rest) out

/-! ## The rule about a word -/

/-- A text without white space begins with a definition, whose value is all that follows. -/
def BeginsDefinition (run : List Char) : Prop :=
  ∃ name value, run = '-' :: 'D' :: (name ++ '=' :: value) ∧
    (∀ c ∈ name, isWordChar c = true) ∧ value ≠ []

def beginsDefinition : List Char → Bool
  | '-' :: 'D' :: cs =>
    match cs.dropWhile isWordChar with
    | '=' :: value => !value.isEmpty
    | _ => false
  | _ => false

theorem isWordChar_equals : isWordChar '=' = false := by decide

/-- The name ends at the sign of equality. -/
theorem name_ends {name : List Char} (h : ∀ c ∈ name, isWordChar c = true) (value : List Char) :
    (name ++ '=' :: value).takeWhile isWordChar = name ∧
      (name ++ '=' :: value).dropWhile isWordChar = '=' :: value :=
  takeWhile_dropWhile_append h (by simp [isWordChar_equals])

theorem beginsDefinition_iff (run : List Char) :
    beginsDefinition run = true ↔ BeginsDefinition run := by
  constructor
  · intro h
    unfold beginsDefinition at h
    split at h
    · rename_i cs
      split at h
      · rename_i value hrest
        have hcs : cs.takeWhile isWordChar ++ cs.dropWhile isWordChar = cs :=
          List.takeWhile_append_dropWhile
        rw [hrest] at hcs
        refine ⟨cs.takeWhile isWordChar, value, by rw [hcs], ?_, by simpa using h⟩
        intro c hc
        exact List.mem_takeWhile_imp hc
      · cases h
    · cases h
  · rintro ⟨name, value, rfl, hname, hvalue⟩
    simp [beginsDefinition, (name_ends hname value).2, hvalue]

instance (run : List Char) : Decidable (BeginsDefinition run) :=
  decidable_of_iff _ (beginsDefinition_iff run)

/-- A word up to where its first definition begins; all of it if there is none. -/
def cutRun (run : List Char) : List Char :=
  run.take (run.tails.findIdx fun tail => decide (BeginsDefinition tail))

/-- The line with every word cut off at its first definition. -/
def withoutDefinitions (line : String) : String := String.ofList (onRuns cutRun line.toList)

theorem not_beginsDefinition_nil : ¬ BeginsDefinition [] := by
  rintro ⟨name, value, h, -⟩
  cases h

@[simp] theorem cutRun_nil : cutRun [] = [] := rfl

theorem cutRun_cons (c : Char) (run : List Char) :
    cutRun (c :: run) = if BeginsDefinition (c :: run) then [] else c :: cutRun run := by
  by_cases h : BeginsDefinition (c :: run) <;> simp [cutRun, List.findIdx_cons, h]

theorem cutRun_isPrefix (run : List Char) : cutRun run <+: run := List.take_prefix _ _

theorem isRun_cutRun (h : IsRun run) : IsRun (cutRun run) := h.subset (cutRun_isPrefix run).subset

theorem BeginsDefinition.mono (h : BeginsDefinition xs) (hle : xs <+: ys) :
    BeginsDefinition ys := by
  obtain ⟨name, value, rfl, hname, hvalue⟩ := h
  obtain ⟨more, rfl⟩ := hle
  exact ⟨name, value ++ more, by simp, hname, by simp [hvalue]⟩

/-- Cutting makes no new definition, since what is left of a word begins the word. -/
theorem cutRun_cutRun (run : List Char) : cutRun (cutRun run) = cutRun run := by
  induction run with
  | nil => rfl
  | cons c run ih =>
    rw [cutRun_cons]
    split
    · rfl
    · rename_i h
      have hshort : ¬ BeginsDefinition (c :: cutRun run) := by
        intro hbegins
        apply h
        exact hbegins.mono (List.cons_prefix_cons.2 ⟨rfl, cutRun_isPrefix run⟩)
      rw [cutRun_cons, if_neg hshort, ih]

/-! ## A match goes on to the end of its word -/

theorem isRun_of_wordChars {name : List Char} (h : ∀ c ∈ name, isWordChar c = true) :
    IsRun name := by
  intro c hc
  rw [Bool.eq_false_iff]
  intro hblank
  have := isWordChar_of_isBlank hblank
  rw [h c hc] at this
  cases this

theorem isDefinition_iff : IsDefinition cs ↔ BeginsDefinition cs ∧ IsRun cs := by
  constructor
  · rintro ⟨name, value, rfl, hname, hvalue, hrun⟩
    refine ⟨⟨name, value, rfl, hname, hvalue⟩, ?_⟩
    have hmark : IsRun ['-', 'D'] := by decide
    have hequals : IsRun ['='] := by decide
    have := isRun_append.2 ⟨hmark, isRun_append.2 ⟨isRun_of_wordChars hname,
      isRun_append.2 ⟨hequals, hrun⟩⟩⟩
    simpa using this
  · rintro ⟨⟨name, value, rfl, hname, hvalue⟩, hrun⟩
    refine ⟨name, value, rfl, hname, hvalue, hrun.subset ?_⟩
    intro c hc
    simp [hc]

/-- Of a word and what stands behind it, the matches are those in the word, and the longest is
the word. -/
theorem exists_definition_prefix_iff (hrun : IsRun run) (hrest : AtBreak rest) :
    (∃ piece, piece <+: run ++ rest ∧ IsDefinition piece) ↔ BeginsDefinition run := by
  constructor
  · rintro ⟨piece, hpiece, hdefinition⟩
    obtain ⟨hbegins, hpieceRun⟩ := isDefinition_iff.1 hdefinition
    exact hbegins.mono ((hpieceRun.prefix_append_iff hrest).1 hpiece)
  · intro h
    exact ⟨run, List.prefix_append run rest, isDefinition_iff.2 ⟨h, hrun⟩⟩

theorem takeWhile_value {value : List Char} (h : IsRun value) (hrest : AtBreak rest) :
    (value ++ rest).takeWhile (fun c => !isBlank c) = value := by
  have hvalue : ∀ c ∈ value, (!isBlank c) = true := by
    intro c hc
    rw [h c hc]
    rfl
  have hbehind : ∀ c ∈ rest.head?, (!isBlank c) = false := by
    intro c hc
    rw [hrest c hc]
    rfl
  exact (takeWhile_dropWhile_append hvalue hbehind).1

/-- The length that is found is that of a definition. -/
theorem definitionLength?_eq_some (h : definitionLength? cs = some n) :
    ∃ piece, piece <+: cs ∧ IsDefinition piece := by
  unfold definitionLength? at h
  split at h
  · rename_i cs
    split at h
    · rename_i rest hrest
      simp only at h
      split at h
      · cases h
      · rename_i hvalue
        have hcs : cs.takeWhile isWordChar ++ cs.dropWhile isWordChar = cs :=
          List.takeWhile_append_dropWhile
        rw [hrest] at hcs
        have hsplit : (rest.takeWhile fun c => !isBlank c) ++ (rest.dropWhile fun c => !isBlank c) =
            rest := List.takeWhile_append_dropWhile
        refine ⟨'-' :: 'D' :: (cs.takeWhile isWordChar ++
          '=' :: rest.takeWhile fun c => !isBlank c), ?_, _, _, rfl, ?_, ?_, ?_⟩
        · refine ⟨rest.dropWhile fun c => !isBlank c, ?_⟩
          simp only [List.cons_append, List.append_assoc]
          rw [hsplit, hcs]
        · intro c hc
          exact List.mem_takeWhile_imp hc
        · simpa using hvalue
        · intro c hc
          have := List.mem_takeWhile_imp hc
          simpa using this
    · cases h
  · cases h

theorem definitionLength?_run (hrun : IsRun run) (hrest : AtBreak rest) :
    definitionLength? (run ++ rest) = if BeginsDefinition run then some run.length else none := by
  split
  · rename_i h
    obtain ⟨name, value, rfl, hname, hvalue, hvalueRun⟩ := isDefinition_iff.2 ⟨h, hrun⟩
    obtain ⟨htakeName, hdropName⟩ := name_ends hname (value ++ rest)
    have htake := takeWhile_value hvalueRun hrest
    simp only [List.cons_append, List.append_assoc, definitionLength?, hdropName, htakeName, htake,
      List.isEmpty_iff, hvalue, if_false]
    simp
    omega
  · rename_i h
    cases hlength : definitionLength? (run ++ rest) with
    | none => rfl
    | some n =>
      have hbegins :=
        (exists_definition_prefix_iff hrun hrest).1 (definitionLength?_eq_some hlength)
      exact absurd hbegins h

theorem definitionLength?_eq_none_iff :
    definitionLength? cs = none ↔ ∀ piece, piece <+: cs → ¬ IsDefinition piece := by
  obtain ⟨run, rest, rfl, hrun, hrest⟩ := exists_front cs
  have hiff := exists_definition_prefix_iff hrun hrest
  rw [definitionLength?_run hrun hrest]
  by_cases h : BeginsDefinition run
  · obtain ⟨piece, hpiece, hdefinition⟩ := hiff.2 h
    simp only [h, if_true, reduceCtorEq, false_iff]
    intro hnone
    exact hnone piece hpiece hdefinition
  · simp only [h, if_false, true_iff]
    intro piece hpiece hdefinition
    exact h (hiff.1 ⟨piece, hpiece, hdefinition⟩)

/-! ## Dropping, word by word -/

theorem stripFrom_eq_drop (skip : Nat) (cs : List Char) :
    stripFrom skip cs = stripFrom 0 (cs.drop skip) := by
  induction cs generalizing skip with
  | nil => cases skip <;> simp [stripFrom]
  | cons c cs ih =>
    cases skip with
    | zero => rfl
    | succ skip => exact ih skip

theorem stripFrom_keep (h : definitionLength? (c :: cs) = none) :
    stripFrom 0 (c :: cs) = c :: stripFrom 0 cs := by
  rw [stripFrom, h]

theorem stripFrom_drop (h : definitionLength? (c :: cs) = some (n + 1)) :
    stripFrom 0 (c :: cs) = stripFrom 0 (cs.drop n) := by
  rw [stripFrom, h]
  exact stripFrom_eq_drop n cs

/-- A definition goes with the rest of its word. -/
theorem stripFrom_definition (hrun : IsRun run) (hrest : AtBreak rest) (h : BeginsDefinition run) :
    stripFrom 0 (run ++ rest) = stripFrom 0 rest := by
  have hlength := definitionLength?_run hrun hrest
  rw [if_pos h] at hlength
  cases run with
  | nil => exact absurd h not_beginsDefinition_nil
  | cons c run =>
    rw [List.cons_append] at hlength ⊢
    rw [stripFrom_drop hlength, List.drop_left]

theorem stripFrom_run (hrun : IsRun run) (hrest : AtBreak rest) :
    stripFrom 0 (run ++ rest) = cutRun run ++ stripFrom 0 rest := by
  induction run with
  | nil => rfl
  | cons c run ih =>
    obtain ⟨-, htail⟩ := isRun_cons.1 hrun
    rw [cutRun_cons]
    split
    · rename_i h
      exact stripFrom_definition hrun hrest h
    · rename_i h
      have hlength := definitionLength?_run hrun hrest
      rw [if_neg h, List.cons_append] at hlength
      rw [List.cons_append, stripFrom_keep hlength, ih htail, List.cons_append]

theorem stripFrom_blank {b : Char} (hb : isBlank b = true) :
    stripFrom 0 (b :: rest) = b :: stripFrom 0 rest := by
  apply stripFrom_keep
  have hbreak : AtBreak (b :: rest) := by simp [AtBreak, hb]
  have := definitionLength?_run isRun_nil hbreak
  rwa [if_neg not_beginsDefinition_nil] at this

theorem stripFrom_eq_onRuns (cs : List Char) : stripFrom 0 cs = onRuns cutRun cs := by
  induction cs using runs_induction with
  | last run hrun =>
    have hstrip : stripFrom 0 (run ++ []) = cutRun run ++ stripFrom 0 [] :=
      stripFrom_run hrun (by simp [AtBreak])
    rw [List.append_nil] at hstrip
    rw [hstrip, onRuns_run hrun]
    exact List.append_nil _
  | more run b rest hrun hb ih =>
    have hbreak : AtBreak (b :: rest) := by simp [AtBreak, hb]
    rw [stripFrom_run hrun hbreak, stripFrom_blank hb, ih,
      onRuns_wordWise cutRun run b rest hb, onRuns_run hrun]

theorem stripDefinitions_eq_withoutDefinitions (line : String) :
    stripDefinitions line = withoutDefinitions line := by
  rw [stripDefinitions, withoutDefinitions, stripFrom_eq_onRuns]

theorem onRuns_cutRun_idem (cs : List Char) :
    onRuns cutRun (onRuns cutRun cs) = onRuns cutRun cs := by
  induction cs using runs_induction with
  | last run hrun => rw [onRuns_run hrun, onRuns_run (isRun_cutRun hrun), cutRun_cutRun]
  | more run b rest hrun hb ih =>
    rw [onRuns_wordWise cutRun run b rest hb, onRuns_wordWise cutRun _ b _ hb, ih, onRuns_run hrun,
      onRuns_run (isRun_cutRun hrun), cutRun_cutRun]

theorem stripDefinitions_idem (line : String) :
    stripDefinitions (stripDefinitions line) = stripDefinitions line := by
  simp only [stripDefinitions_eq_withoutDefinitions, withoutDefinitions, String.toList_ofList,
    onRuns_cutRun_idem]

/-! ## Nothing that matches is left -/

theorem stripFrom_sublist (skip : Nat) (cs : List Char) : (stripFrom skip cs).Sublist cs := by
  induction cs generalizing skip with
  | nil => cases skip <;> exact .slnil
  | cons c cs ih =>
    cases skip with
    | succ skip => exact (ih skip).cons c
    | zero =>
      rw [stripFrom]
      split
      · exact (ih _).cons c
      · exact (ih 0).cons_cons c

theorem mem_of_mem_stripDefinitions {line : String} (h : c ∈ (stripDefinitions line).toList) :
    c ∈ line.toList := by
  rw [stripDefinitions, String.toList_ofList] at h
  exact (stripFrom_sublist 0 line.toList).subset h

/-- What is not changed by dropping definitions has none. -/
theorem not_isDefinition_of_unchanged (h : stripFrom 0 cs = cs) (hpiece : piece <:+: cs) :
    ¬ IsDefinition piece := by
  induction cs with
  | nil =>
    obtain rfl := List.infix_nil.1 hpiece
    rintro ⟨name, value, hnil, -⟩
    cases hnil
  | cons c cs ih =>
    cases hlength : definitionLength? (c :: cs) with
    | some n =>
      -- the line would have become shorter
      rw [stripFrom, hlength] at h
      have hle := (stripFrom_sublist (n - 1) cs).length_le
      simp only [h, List.length_cons] at hle
      omega
    | none =>
      rw [stripFrom_keep hlength] at h
      rcases List.infix_cons_iff.1 hpiece with hfront | hbehind
      · exact definitionLength?_eq_none_iff.1 hlength piece hfront
      · exact ih (List.cons.inj h).2 hbehind

/-! ## Erasing is dropping -/

theorem erased_stripFrom (cs : List Char) : Erased IsDefinition cs (stripFrom 0 cs) := by
  induction hsize : cs.length using Nat.strong_induction_on generalizing cs with
  | _ size ih =>
    cases cs with
    | nil => exact .nil
    | cons c cs =>
      obtain ⟨run, rest, hcs, hrun, hrest⟩ := exists_front (c :: cs)
      by_cases h : BeginsDefinition run
      · have hne : run ≠ [] := by
          rintro rfl
          exact not_beginsDefinition_nil h
        have hshorter : rest.length < size := by
          have := List.length_pos_of_ne_nil hne
          rw [← hsize, hcs, List.length_append]
          omega
        rw [hcs, stripFrom_definition hrun hrest h]
        refine .drop (isDefinition_iff.2 ⟨h, hrun⟩) ?_ (ih _ hshorter rest rfl)
        intro longer hlonger hdefinition
        have hwithin := ((isDefinition_iff.1 hdefinition).2.prefix_append_iff hrest).1 hlonger
        exact hwithin.length_le
      · have hnone : definitionLength? (c :: cs) = none := by
          rw [hcs, definitionLength?_run hrun hrest, if_neg h]
        rw [stripFrom_keep hnone]
        refine .keep (definitionLength?_eq_none_iff.1 hnone) (ih _ ?_ cs rfl)
        rw [← hsize]
        exact Nat.lt_succ_self _

theorem eq_stripFrom_of_erased (h : Erased IsDefinition cs out) : out = stripFrom 0 cs := by
  induction h with
  | nil => rfl
  | keep hnone _ ih => rw [stripFrom_keep (definitionLength?_eq_none_iff.2 hnone), ← ih]
  | @drop piece rest out hdefinition hlongest _ ih =>
    -- the longest match is the whole of the word that begins here
    obtain ⟨run, behind, hcs, hrun, hbehind⟩ := exists_front (piece ++ rest)
    have hpiece : piece <+: run ++ behind := hcs ▸ List.prefix_append piece rest
    have hbegins := (exists_definition_prefix_iff hrun hbehind).1 ⟨piece, hpiece, hdefinition⟩
    have hwithin := ((isDefinition_iff.1 hdefinition).2.prefix_append_iff hbehind).1 hpiece
    have hlength := hlongest run (hcs ▸ List.prefix_append run behind)
      (isDefinition_iff.2 ⟨hbegins, hrun⟩)
    obtain rfl : piece = run := hwithin.eq_of_length_le hlength
    rw [stripFrom_definition hrun (List.append_cancel_left hcs ▸ hbehind) hbegins, ih]

/-- The call of the compiler stays in front, since it is a word without a definition. -/
theorem call_prefix_stripDefinitions {line : String} (h : "g++ ".toList <+: line.toList) :
    "g++ ".toList <+: (stripDefinitions line).toList := by
  obtain ⟨arguments, hline⟩ := h
  have hcall : line.toList = ['g', '+', '+'] ++ ' ' :: arguments := hline.symm
  have hbreak : AtBreak (' ' :: arguments) := by simp [AtBreak, isBlank]
  have hcut : cutRun ['g', '+', '+'] = ['g', '+', '+'] := by decide
  have hresult : (stripDefinitions line).toList =
      ['g', '+', '+'] ++ ' ' :: stripFrom 0 arguments := by
    rw [stripDefinitions, String.toList_ofList, hcall, stripFrom_run (by decide) hbreak,
      stripFrom_blank (by decide), hcut]
  rw [hresult]
  exact ⟨stripFrom 0 arguments, rfl⟩

/-- **Dropping definitions is erasing what matches, and it cuts each word off where its first
definition begins.** So once is enough, nothing that matches is left, and the call of the compiler
is not touched. -/
theorem stripDefinitions_cuts (line : String) :
    (∀ out, Erased IsDefinition line.toList out ↔ out = (stripDefinitions line).toList) ∧
    stripDefinitions line = withoutDefinitions line ∧
    stripDefinitions (stripDefinitions line) = stripDefinitions line ∧
    (∀ piece, piece <:+: (stripDefinitions line).toList → ¬ IsDefinition piece) ∧
    ("g++ ".toList <+: line.toList → "g++ ".toList <+: (stripDefinitions line).toList) := by
  have hidem := stripDefinitions_idem line
  refine ⟨?_, stripDefinitions_eq_withoutDefinitions line, hidem, ?_, call_prefix_stripDefinitions⟩
  · intro out
    rw [stripDefinitions, String.toList_ofList]
    constructor
    · exact eq_stripFrom_of_erased
    · rintro rfl
      exact erased_stripFrom line.toList
  · intro piece hpiece
    refine not_isDefinition_of_unchanged ?_ hpiece
    have := congrArg String.toList hidem
    rwa [stripDefinitions, String.toList_ofList] at this

/-- A value takes a second mark with it, and a mark without a value stays. -/
example : withoutDefinitions "g++ -DA=-DB=1 x-D=y -DC=" = "g++  x -DC=" := by decide

end FeatureSurvey.BuildLog
