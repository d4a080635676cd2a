import Mathlib.Data.List.Infix
import FeatureSurvey.Text.Blank
import FeatureSurvey.Text.Search

/-!
# `Proofs/Text/Words.lean` — a text is its words and the white space between them

Much of what is done to a line is done word by word: cutting it up, lower-casing it, shortening
what its words hold. Such a change leaves white space where it stands and does not look across it
(`WordWise`). If it makes no white space either, then its result falls into words where the text
did (`WordWise.split`). What holds no white space is found in a text just when it is found in one
of its words (`IsWord.infix_iff_exists_word`).

The induction behind that is `runs_induction`: a text is one run without white space, or such a
run, one blank and a text again.
-/

set_option autoImplicit false

namespace FeatureSurvey.Text

/-- There is no white space in it. -/
def IsRun (cs : List Char) : Prop := ∀ c ∈ cs, isBlank c = false

/-- A run that is not empty. -/
structure IsWord (cs : List Char) : Prop where
  ne_nil : cs ≠ []
  run : IsRun cs

/-- Where a run may end: nothing follows, or white space does. -/
def AtBreak (rest : List Char) : Prop := ∀ c ∈ rest.head?, isBlank c = true

-- There are finitely many characters, but the ones to be asked are those of the list.
instance (cs : List Char) : Decidable (IsRun cs) :=
  List.decidableBAll (fun c => isBlank c = false) cs

instance (rest : List Char) : Decidable (AtBreak rest) :=
  decidable_of_iff _ (Option.all_eq_true isBlank rest.head?)

instance (cs : List Char) : Decidable (IsWord cs) :=
  decidable_of_iff (cs ≠ [] ∧ IsRun cs) ⟨fun h => ⟨h.1, h.2⟩, fun h => ⟨h.ne_nil, h.run⟩⟩

variable {b c : Char} {run before rest pat xs ys : List Char}

/-! ## Runs -/

theorem isRun_nil : IsRun [] := by
  intro c hc
  cases hc

theorem isRun_cons : IsRun (c :: rest) ↔ isBlank c = false ∧ IsRun rest := by
  simp [IsRun]

theorem isRun_append : IsRun (xs ++ ys) ↔ IsRun xs ∧ IsRun ys := by
  simp only [IsRun, List.mem_append]
  constructor
  · intro h
    exact ⟨fun c hc => h c (.inl hc), fun c hc => h c (.inr hc)⟩
  · rintro ⟨hxs, hys⟩ c (hc | hc)
    · exact hxs c hc
    · exact hys c hc

theorem IsRun.subset (h : IsRun ys) (hsub : xs ⊆ ys) : IsRun xs :=
  fun c hc => h c (hsub hc)

theorem IsRun.not_mem (h : IsRun xs) (hb : isBlank b = true) : b ∉ xs := by
  intro hmem
  rw [h b hmem] at hb
  cases hb

/-- A text is one run, or a run, a blank and a text. -/
@[elab_as_elim]
theorem runs_induction {motive : List Char → Prop}
    (last : ∀ run, IsRun run → motive run)
    (more : ∀ run b rest, IsRun run → isBlank b = true → motive rest → motive (run ++ b :: rest))
    (cs : List Char) : motive cs := by
  -- the run in progress is what the induction is generalized over
  suffices h : ∀ run, IsRun run → motive (run ++ cs) from h [] isRun_nil
  induction cs with
  | nil =>
    intro run hrun
    rw [List.append_nil]
    exact last run hrun
  | cons c cs ih =>
    intro run hrun
    by_cases hc : isBlank c = true
    · exact more run c cs hrun hc (ih [] isRun_nil)
    · have hlonger : IsRun (run ++ [c]) :=
        isRun_append.2 ⟨hrun, isRun_cons.2 ⟨Bool.eq_false_iff.2 hc, isRun_nil⟩⟩
      have := ih (run ++ [c]) hlonger
      rwa [List.append_assoc] at this

/-- Where a run may begin: nothing stands before it, or white space does. -/
theorem AtBreak.eq_nil_or_concat (h : AtBreak before.reverse) :
    before = [] ∨ ∃ front b, before = front ++ [b] ∧ isBlank b = true := by
  rcases List.eq_nil_or_concat before with rfl | ⟨front, b, rfl⟩
  · exact .inl rfl
  · refine .inr ⟨front, b, List.concat_eq_append, h b ?_⟩
    simp

theorem AtBreak.behind_blank (h : AtBreak before.reverse) (hb : isBlank b = true) :
    AtBreak (run ++ b :: before).reverse := by
  intro c hc
  cases before with
  | nil =>
    obtain rfl : b = c := by simpa using hc
    exact hb
  | cons x before =>
    apply h c
    simpa [List.getLast?_append, List.getLast?_cons] using hc

/-- The run at the front of a text, and the rest. -/
theorem exists_front (cs : List Char) :
    ∃ run rest, cs = run ++ rest ∧ IsRun run ∧ AtBreak rest := by
  induction cs using runs_induction with
  | last run hrun => exact ⟨run, [], (List.append_nil run).symm, hrun, by simp [AtBreak]⟩
  | more run b rest hrun hb ih => exact ⟨run, b :: rest, rfl, hrun, by simp [AtBreak, hb]⟩

/-- The run at the end of a text, and what stands before it. -/
theorem exists_back (cs : List Char) :
    ∃ before run, cs = before ++ run ∧ IsRun run ∧ AtBreak before.reverse := by
  induction cs using runs_induction with
  | last run hrun => exact ⟨[], run, rfl, hrun, by simp [AtBreak]⟩
  | more run b rest hrun hb ih =>
    obtain ⟨before, back, rfl, hback, hbreak⟩ := ih
    exact ⟨run ++ b :: before, back, by simp, hback, hbreak.behind_blank hb⟩

/-! ## Occurrences -/

theorem occursIn_iff_isInfix (pat cs : List Char) : occursIn pat cs = true ↔ pat <:+: cs := by
  induction cs with
  | nil => simp [occursIn, List.infix_nil]
  | cons c cs ih => simp [occursIn, ih, List.infix_cons_iff]

theorem contains_iff_isInfix (s pat : String) : contains s pat = true ↔ pat.toList <:+: s.toList :=
  occursIn_iff_isInfix _ _

theorem startsWith_iff_isPrefix (s start : String) :
    startsWith s start = true ↔ start.toList <+: s.toList :=
  List.isPrefixOf_iff_prefix

theorem prefix_append_cons_iff (hb : b ∉ pat) : pat <+: xs ++ b :: ys ↔ pat <+: xs := by
  constructor
  · intro h
    rcases List.prefix_or_prefix_of_prefix h (List.prefix_append xs (b :: ys)) with hle | hle
    · exact hle
    · obtain ⟨tail, rfl⟩ := hle
      rw [List.prefix_append_right_inj] at h
      cases tail with
      | nil => simp
      | cons x tail =>
        obtain ⟨rfl, -⟩ := List.cons_prefix_cons.1 h
        simp at hb
  · intro h
    exact h.trans (List.prefix_append _ _)

theorem suffix_append_cons_iff (hb : b ∉ pat) : pat <:+ xs ++ b :: ys ↔ pat <:+ ys := by
  have hreverse : b ∉ pat.reverse := by simpa using hb
  rw [← List.reverse_prefix, List.reverse_append, List.reverse_cons, List.append_assoc,
    List.singleton_append, prefix_append_cons_iff hreverse, List.reverse_prefix]

/-- What has no white space and begins a text begins its first run. -/
theorem IsRun.prefix_append_iff (h : IsRun pat) (hrest : AtBreak rest) :
    pat <+: run ++ rest ↔ pat <+: run := by
  cases rest with
  | nil => rw [List.append_nil]
  | cons b rest => exact prefix_append_cons_iff (h.not_mem (hrest b rfl))

/-- What does not hold the character stands on one side of it. -/
theorem infix_append_cons_iff (hb : b ∉ pat) :
    pat <:+: xs ++ b :: ys ↔ pat <:+: xs ∨ pat <:+: ys := by
  induction xs with
  | nil =>
    rw [List.nil_append, List.infix_cons_iff]
    have hfront : pat <+: [] ++ b :: ys ↔ pat <+: [] := prefix_append_cons_iff hb
    rw [List.nil_append] at hfront
    rw [hfront, List.prefix_nil, List.infix_nil]
  | cons x xs ih =>
    have hfront : pat <+: (x :: xs) ++ b :: ys ↔ pat <+: x :: xs := prefix_append_cons_iff hb
    rw [List.cons_append] at hfront ⊢
    rw [List.infix_cons_iff, List.infix_cons_iff, hfront, ih, or_assoc]

/-- A text that holds a character is cut there, once the place is known. -/
theorem infix_cons_middle_iff {back front : List Char} :
    back ++ b :: front <:+: xs ↔
      ∃ left right, xs = left ++ b :: right ∧ back <:+ left ∧ front <+: right := by
  constructor
  · rintro ⟨before, after, rfl⟩
    exact ⟨before ++ back, front ++ after, by simp, List.suffix_append _ _, List.prefix_append _ _⟩
  · rintro ⟨left, right, rfl, ⟨before, rfl⟩, ⟨after, rfl⟩⟩
    exact ⟨before, after, by simp⟩

/-! ## Words -/

theorem wordsFrom_append_blank (hb : isBlank b = true) :
    wordsFrom run (before ++ b :: rest) = wordsFrom run before ++ wordsFrom [] rest := by
  induction before generalizing run with
  | nil =>
    simp only [List.nil_append, wordsFrom, hb, if_true]
    split <;> simp
  | cons c before ih =>
    simp only [List.cons_append, wordsFrom]
    split
    · split
      · exact ih
      · rw [ih, List.cons_append]
    · exact ih

theorem wordsFrom_append_run (h : IsRun xs) :
    wordsFrom run (xs ++ ys) = wordsFrom (xs.reverse ++ run) ys := by
  induction xs generalizing run with
  | nil => rfl
  | cons c xs ih =>
    obtain ⟨hc, hxs⟩ := isRun_cons.1 h
    simp only [List.cons_append, wordsFrom, hc, Bool.false_eq_true, if_false]
    rw [ih hxs, List.reverse_cons, List.append_assoc, List.singleton_append]

theorem IsWord.wordsFrom_eq (h : IsWord run) : wordsFrom [] run = [run] := by
  have hrun : wordsFrom [] (run ++ []) = wordsFrom (run.reverse ++ []) [] :=
    wordsFrom_append_run h.run
  rw [List.append_nil, List.append_nil] at hrun
  simp [hrun, wordsFrom, h.ne_nil]

/-- The word at the end of a text is its last word. -/
theorem wordsFrom_append_word (h : IsWord run) (hbreak : AtBreak before.reverse) :
    ∃ words, wordsFrom [] (before ++ run) = words ++ [run] := by
  rcases hbreak.eq_nil_or_concat with rfl | ⟨front, b, rfl, hb⟩
  · exact ⟨[], h.wordsFrom_eq⟩
  · refine ⟨wordsFrom [] front, ?_⟩
    rw [List.append_assoc, List.singleton_append, wordsFrom_append_blank hb, h.wordsFrom_eq]

/-- The word at the front of a text is its first word. -/
theorem wordsFrom_word_append (h : IsWord run) (hbreak : AtBreak rest) :
    ∃ words, wordsFrom [] (run ++ rest) = run :: words := by
  cases rest with
  | nil => exact ⟨[], by rw [List.append_nil, h.wordsFrom_eq]⟩
  | cons b rest =>
    have hb : isBlank b = true := hbreak b rfl
    exact ⟨wordsFrom [] rest, by rw [wordsFrom_append_blank hb, h.wordsFrom_eq]; rfl⟩

theorem infix_iff_exists_word_of_run (hpat : pat ≠ []) (hrun : IsRun run) :
    pat <:+: run ↔ ∃ word ∈ wordsFrom [] run, pat <:+: word := by
  cases run with
  | nil => simp [wordsFrom, hpat]
  | cons c run =>
    have hword : IsWord (c :: run) := ⟨List.cons_ne_nil c run, hrun⟩
    simp [hword.wordsFrom_eq]

/-- What stands in a text and holds no white space stands in one of its words. -/
theorem IsWord.infix_iff_exists_word (h : IsWord pat) (cs : List Char) :
    pat <:+: cs ↔ ∃ word ∈ wordsFrom [] cs, pat <:+: word := by
  induction cs using runs_induction with
  | last run hrun => exact infix_iff_exists_word_of_run h.ne_nil hrun
  | more run b rest hrun hb ih =>
    rw [infix_append_cons_iff (h.run.not_mem hb), wordsFrom_append_blank hb, ih,
      infix_iff_exists_word_of_run h.ne_nil hrun]
    simp only [List.mem_append, or_and_right, exists_or]

theorem isInfix_iff_exists_word {part : String} (h : IsWord part.toList) (line : String) :
    part.toList <:+: line.toList ↔ ∃ word ∈ words line, part.toList <:+: word.toList := by
  rw [h.infix_iff_exists_word]
  simp [words]

theorem contains_iff_exists_word {part : String} (h : IsWord part.toList) (line : String) :
    contains line part = true ↔ ∃ word ∈ words line, part.toList <:+: word.toList := by
  rw [contains_iff_isInfix, isInfix_iff_exists_word h]

/-- The word stands in the text, with nothing or white space on either side. -/
def StandsIn (word text : List Char) : Prop :=
  IsWord word ∧ ∃ before after, text = before ++ (word ++ after) ∧ AtBreak before.reverse ∧
    AtBreak after

/-- The words of a text are those that stand in it. -/
theorem mem_wordsFrom_iff {word cs : List Char} : word ∈ wordsFrom [] cs ↔ StandsIn word cs := by
  constructor
  · intro h
    induction cs using runs_induction with
    | last run hrun =>
      cases run with
      | nil => simp [wordsFrom] at h
      | cons c run =>
        have hrun : IsWord (c :: run) := ⟨List.cons_ne_nil c run, hrun⟩
        rw [hrun.wordsFrom_eq, List.mem_singleton] at h
        subst h
        exact ⟨hrun, [], [], by simp, by simp [AtBreak], by simp [AtBreak]⟩
    | more run b rest hrun hb ih =>
      rw [wordsFrom_append_blank hb, List.mem_append] at h
      rcases h with h | h
      · cases run with
        | nil => simp [wordsFrom] at h
        | cons c run =>
          have hrun : IsWord (c :: run) := ⟨List.cons_ne_nil c run, hrun⟩
          rw [hrun.wordsFrom_eq, List.mem_singleton] at h
          subst h
          exact ⟨hrun, [], b :: rest, rfl, by simp [AtBreak], by simp [AtBreak, hb]⟩
      · obtain ⟨hword, before, after, rfl, hbefore, hafter⟩ := ih h
        exact ⟨hword, run ++ b :: before, after, by simp, hbefore.behind_blank hb, hafter⟩
  · rintro ⟨hword, before, after, rfl, hbefore, hafter⟩
    obtain ⟨words, hwords⟩ := wordsFrom_word_append hword hafter
    rcases hbefore.eq_nil_or_concat with rfl | ⟨front, b, rfl, hb⟩
    · rw [List.nil_append, hwords]
      exact List.mem_cons_self
    · rw [List.append_assoc, List.singleton_append, wordsFrom_append_blank hb, hwords]
      exact List.mem_append_right _ List.mem_cons_self

theorem mem_words_iff {word text : String} :
    word ∈ words text ↔ StandsIn word.toList text.toList := by
  rw [words, ← mem_wordsFrom_iff, List.mem_map]
  constructor
  · rintro ⟨cs, hcs, rfl⟩
    rwa [String.toList_ofList]
  · intro h
    exact ⟨word.toList, h, String.ofList_toList⟩

/-! ## Changes that are made word by word -/

/-- White space stays, and what becomes of one side of it does not depend on the other. -/
def WordWise (f : List Char → List Char) : Prop :=
  ∀ before b rest, isBlank b = true → f (before ++ b :: rest) = f before ++ b :: f rest

section WordWise

variable {f change : List Char → List Char}

/-- Change each maximal run; `run` is the one in progress, reversed. -/
def onRunsFrom (change : List Char → List Char) (run : List Char) : List Char → List Char
  | [] => change run.reverse
  | c :: cs =>
    if isBlank c then change run.reverse ++ c :: onRunsFrom change [] cs
    else onRunsFrom change (c :: run) cs

/-- Change each maximal run without white space, and keep the white space. -/
def onRuns (change : List Char → List Char) (cs : List Char) : List Char := onRunsFrom change [] cs

theorem onRunsFrom_append_blank (hb : isBlank b = true) :
    onRunsFrom change run (before ++ b :: rest) =
      onRunsFrom change run before ++ b :: onRuns change rest := by
  induction before generalizing run with
  | nil => simp [onRunsFrom, onRuns, hb]
  | cons c before ih =>
    simp only [List.cons_append, onRunsFrom]
    split
    · rw [ih, List.append_assoc, List.cons_append]
    · exact ih

theorem onRuns_wordWise (change : List Char → List Char) : WordWise (onRuns change) :=
  fun _ _ _ hb => onRunsFrom_append_blank hb

theorem onRunsFrom_run (h : IsRun xs) : onRunsFrom change run xs = change (run.reverse ++ xs) := by
  induction xs generalizing run with
  | nil => simp [onRunsFrom]
  | cons c xs ih =>
    obtain ⟨hc, hxs⟩ := isRun_cons.1 h
    simp [onRunsFrom, hc, ih hxs]

theorem onRuns_run (h : IsRun run) : onRuns change run = change run := onRunsFrom_run h

/-- If no white space is made, then what is found around white space afterwards comes from what
stood around it before. -/
theorem WordWise.split (hf : WordWise f) (hruns : ∀ run, IsRun run → IsRun (f run))
    {cs left right : List Char} (hb : isBlank b = true) (h : f cs = left ++ b :: right) :
    ∃ before rest, cs = before ++ b :: rest ∧ f before = left ∧ f rest = right := by
  induction cs using runs_induction generalizing left with
  | last run hrun =>
    have hmem : b ∈ f run := by simp [h]
    exact absurd hmem ((hruns run hrun).not_mem hb)
  | more run b' rest hrun hb' ih =>
    rw [hf run b' rest hb'] at h
    rcases List.append_eq_append_iff.1 h with ⟨between, rfl, hright⟩ | ⟨between, hleft, hright⟩
    · cases between with
      | nil =>
        obtain ⟨rfl, rfl⟩ := List.cons.inj hright
        exact ⟨run, rest, rfl, (List.append_nil _).symm, rfl⟩
      | cons x between =>
        obtain ⟨rfl, hrest⟩ := List.cons.inj hright
        obtain ⟨before, rest, rfl, rfl, rfl⟩ := ih hrest
        exact ⟨run ++ b' :: before, rest, by simp, hf run b' before hb', rfl⟩
    · cases between with
      | nil =>
        obtain ⟨rfl, rfl⟩ := List.cons.inj hright
        exact ⟨run, rest, rfl, by rw [hleft, List.append_nil], rfl⟩
      | cons x between =>
        -- the blank would stand in what was made of a run
        obtain ⟨rfl, -⟩ := List.cons.inj hright
        have hmem : b ∈ f run := by simp [hleft]
        exact absurd hmem ((hruns run hrun).not_mem hb)

/-- What has no white space and ends what was made of a text ends what was made of its last run. -/
theorem WordWise.suffix_iff (hf : WordWise f) (hpat : IsRun pat) (hbreak : AtBreak before.reverse) :
    pat <:+ f (before ++ run) ↔ pat <:+ f run := by
  rcases hbreak.eq_nil_or_concat with rfl | ⟨front, b, rfl, hb⟩
  · rw [List.nil_append]
  · rw [List.append_assoc, List.singleton_append, hf front b run hb,
      suffix_append_cons_iff (hpat.not_mem hb)]

/-- What has no white space and begins what was made of a text begins what was made of its first
run. -/
theorem WordWise.prefix_iff (hf : WordWise f) (hpat : IsRun pat) (hbreak : AtBreak rest) :
    pat <+: f (run ++ rest) ↔ pat <+: f run := by
  cases rest with
  | nil => rw [List.append_nil]
  | cons b rest =>
    have hb : isBlank b = true := hbreak b rfl
    rw [hf run b rest hb, prefix_append_cons_iff (hpat.not_mem hb)]

/-- What is found around a blank in what was made of a text was made of the end of a word and of
what begins behind it. -/
theorem WordWise.infix_iff (hf : WordWise f) (hruns : ∀ run, IsRun run → IsRun (f run))
    {back front : List Char} (hback : IsRun back) (hb : isBlank b = true) (cs : List Char) :
    back ++ b :: front <:+: f cs ↔
      ∃ before run rest, cs = before ++ run ++ b :: rest ∧ AtBreak before.reverse ∧ IsRun run ∧
        back <:+ f run ∧ front <+: f rest := by
  rw [infix_cons_middle_iff]
  constructor
  · rintro ⟨left, right, hcs, hleft, hright⟩
    obtain ⟨upTo, rest, rfl, rfl, rfl⟩ := hf.split hruns hb hcs
    obtain ⟨before, run, rfl, hrun, hbreak⟩ := exists_back upTo
    exact ⟨before, run, rest, rfl, hbreak, hrun, (hf.suffix_iff hback hbreak).1 hleft, hright⟩
  · rintro ⟨before, run, rest, rfl, hbreak, -, hleft, hright⟩
    exact ⟨_, _, hf _ _ _ hb, (hf.suffix_iff hback hbreak).2 hleft, hright⟩

end WordWise

end FeatureSurvey.Text
