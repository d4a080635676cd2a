import FeatureSurvey.Detector.LanguageStandard
import FeatureSurvey.Proofs.Text.Pieces
import FeatureSurvey.Proofs.Text.Words

/-!
# `Proofs/Detector/Banner.lean` — what a banner is, and which one is read

A banner is written `g++ (= [epoch:]X.Y...)`: a version in parentheses with an epoch before it or
none (`IsBanner`). The reader tries every place of a text, from the left, and at one place it takes
digits before a colon for an epoch if anything behind can be the version (`Reads`). What it finds
is the version of the first banner (`version?_eq_some_iff`), and it finds none only where there
is no banner (`version?_eq_none_iff`).

A banner holds no line feed. So when lines are joined, the banner found in the whole is the one
found in the first line that has one (`version?_intercalate`).
-/

set_option autoImplicit false

namespace FeatureSurvey.Banner

open Text

variable {epoch version other text cs rest : List Char} {c : Char}

/-! ## How a banner is written -/

def opening : List Char := "g++ (= ".toList

/-- Digits and a colon. -/
def IsEpoch (epoch : List Char) : Prop :=
  ∃ digits, digits ≠ [] ∧ (∀ c ∈ digits, c.isDigit = true) ∧ epoch = digits ++ [':']

/-- Digits and points, as far as they go, and behind them a closing parenthesis on the same line. -/
structure IsClosed (version text : List Char) : Prop where
  ne_nil : version ≠ []
  chars : ∀ c ∈ version, isVersionChar c = true
  closes : ∃ between, text = version ++ (between ++ [')']) ∧ '\n' ∉ between ∧
    ∀ c ∈ between.head?, isVersionChar c = false

/-- A banner with this version. -/
structure IsBanner (epoch version text : List Char) : Prop where
  epoch_or_none : epoch = [] ∨ IsEpoch epoch
  written : ∃ closed, IsClosed version closed ∧ text = opening ++ (epoch ++ closed)

/-- The text begins with a banner. -/
def Begins (epoch version cs : List Char) : Prop :=
  ∃ text, IsBanner epoch version text ∧ text <+: cs

/-- There is a banner somewhere in the text. -/
def HasBanner (cs : List Char) : Prop :=
  ∃ epoch version text, IsBanner epoch version text ∧ text <:+: cs

/-- The version that is read at the front of the text: behind an epoch, if there can be one. -/
def Reads (version cs : List Char) : Prop :=
  ∃ epoch, Begins epoch version cs ∧
    (epoch = [] → ∀ epoch' other, Begins epoch' other cs → epoch' = [])

/-- The version of the first banner: it is read where it stands, and none begins before it. -/
inductive FirstVersion (version : List Char) : List Char → Prop where
  | here {cs : List Char} : Reads version cs → FirstVersion version cs
  | later {c : Char} {cs : List Char} : (∀ epoch other, ¬ Begins epoch other (c :: cs)) →
      FirstVersion version cs → FirstVersion version (c :: cs)

theorem IsEpoch.ne_nil (h : IsEpoch epoch) : epoch ≠ [] := by
  obtain ⟨digits, -, -, rfl⟩ := h
  simp

theorem IsBanner.ne_nil (h : IsBanner epoch version text) : text ≠ [] := by
  obtain ⟨closed, -, rfl⟩ := h.written
  have hopening : opening ≠ [] := by decide
  exact List.append_ne_nil_of_left_ne_nil hopening _

theorem newline_not_mem {p : Char → Bool} (hp : p '\n' = false) (h : ∀ c ∈ cs, p c = true) :
    '\n' ∉ cs := by
  intro hmem
  rw [h _ hmem] at hp
  cases hp

theorem IsClosed.newline_not_mem (h : IsClosed version text) : '\n' ∉ text := by
  obtain ⟨between, rfl, hbetween, -⟩ := h.closes
  have hversion : '\n' ∉ version := Banner.newline_not_mem rfl h.chars
  simp [hversion, hbetween]

theorem IsBanner.newline_not_mem (h : IsBanner epoch version text) : '\n' ∉ text := by
  obtain ⟨closed, hclosed, rfl⟩ := h.written
  have hopening : '\n' ∉ opening := by decide
  have hepoch : '\n' ∉ epoch := by
    rcases h.epoch_or_none with rfl | ⟨digits, -, hdigits, rfl⟩
    · simp
    · simp [Banner.newline_not_mem rfl hdigits]
  simp [hopening, hepoch, hclosed.newline_not_mem]

/-! ## What is read at one place -/

theorem dropStart?_eq_some_iff {start : List Char} :
    dropStart? start cs = some rest ↔ cs = start ++ rest := by
  unfold dropStart?
  split
  · rename_i hstart
    obtain ⟨behind, rfl⟩ := List.isPrefixOf_iff_prefix.1 hstart
    simp
  · rename_i hstart
    constructor
    · intro h
      cases h
    · rintro rfl
      exact absurd (List.isPrefixOf_iff_prefix.2 (List.prefix_append start rest)) hstart

theorem dropEpoch?_eq_some_iff :
    dropEpoch? cs = some rest ↔ ∃ epoch, IsEpoch epoch ∧ cs = epoch ++ rest := by
  constructor
  · intro h
    obtain ⟨digits, behind, rfl, hdigits, hbehind⟩ := exists_run Char.isDigit cs
    obtain ⟨htake, hdrop⟩ := takeWhile_dropWhile_append hdigits hbehind
    rw [dropEpoch?, htake, hdrop] at h
    split at h
    · rename_i c digits behind
      obtain rfl := Option.some.inj h
      exact ⟨c :: digits ++ [':'], ⟨c :: digits, List.cons_ne_nil _ _, hdigits, rfl⟩, by simp⟩
    · cases h
  · rintro ⟨epoch, ⟨digits, hne, hdigits, rfl⟩, rfl⟩
    have hcolon : ∀ x ∈ (':' :: rest).head?, x.isDigit = false := by simp
    obtain ⟨htake, hdrop⟩ := takeWhile_dropWhile_append hdigits hcolon
    obtain ⟨c, digits, rfl⟩ := List.exists_cons_of_ne_nil hne
    rw [List.append_assoc, List.singleton_append, dropEpoch?, htake, hdrop]
    rfl

/-- The line has a closing parenthesis. -/
theorem paren_mem_line_iff :
    ')' ∈ cs.takeWhile (fun c => c != '\n') ↔
      ∃ between, '\n' ∉ between ∧ between ++ [')'] <+: cs := by
  obtain ⟨line, beyond, rfl, hline, hbeyond⟩ := exists_run (fun c => c != '\n') cs
  rw [(takeWhile_dropWhile_append hline hbeyond).1]
  have hnewline : '\n' ∉ line := Banner.newline_not_mem rfl hline
  constructor
  · intro hmem
    obtain ⟨between, after, rfl⟩ := List.append_of_mem hmem
    exact ⟨between, by simp_all, after ++ beyond, by simp⟩
  · rintro ⟨between, hbetween, hprefix⟩
    have hparen : between ++ [')'] <+: line := by
      cases beyond with
      | nil => rwa [List.append_nil] at hprefix
      | cons b beyond =>
        obtain rfl : b = '\n' := by simpa using hbeyond b rfl
        exact (prefix_append_cons_iff (by simp [hbetween])).1 hprefix
    exact hparen.subset (by simp)

theorem closedVersion?_eq_some_iff :
    closedVersion? cs = some version ↔ ∃ text, IsClosed version text ∧ text <+: cs := by
  constructor
  · intro h
    obtain ⟨front, behind, rfl, hchars, hbehind⟩ := exists_run isVersionChar cs
    obtain ⟨htake, hdrop⟩ := takeWhile_dropWhile_append hchars hbehind
    simp only [closedVersion?, htake, hdrop] at h
    split at h
    · cases h
    · rename_i hclosed
      obtain rfl := Option.some.inj h
      simp only [Bool.or_eq_true, List.isEmpty_iff, Bool.not_eq_true', not_or,
        Bool.not_eq_false, List.contains_iff_mem] at hclosed
      obtain ⟨between, hnewline, hparen⟩ := paren_mem_line_iff.1 hclosed.2
      refine ⟨front ++ (between ++ [')']), ⟨hclosed.1, hchars, between, rfl, hnewline, ?_⟩,
        (List.prefix_append_right_inj front).2 hparen⟩
      intro c hc
      obtain ⟨beyond, rfl⟩ := hparen
      exact hbehind c (by simp [List.head?_append, Option.mem_def.1 hc])
  · rintro ⟨text, ⟨hne, hchars, between, rfl, hnewline, hhead⟩, beyond, rfl⟩
    have hbehind : ∀ c ∈ (between ++ [')'] ++ beyond).head?, isVersionChar c = false := by
      intro c hc
      cases between with
      | nil =>
        obtain rfl : ')' = c := by simpa using hc
        rfl
      | cons x between => exact hhead c hc
    obtain ⟨htake, hdrop⟩ := takeWhile_dropWhile_append hchars hbehind
    have hline : ')' ∈ (between ++ [')'] ++ beyond).takeWhile fun c => c != '\n' :=
      paren_mem_line_iff.2 ⟨between, hnewline, List.prefix_append _ _⟩
    rw [List.append_assoc version, closedVersion?, htake, hdrop]
    simp only [List.contains_iff_mem.2 hline, Bool.not_true, Bool.or_false, List.isEmpty_iff, hne,
      if_false]

theorem begins_opening_iff :
    Begins epoch version (opening ++ rest) ↔
      (epoch = [] ∨ IsEpoch epoch) ∧ ∃ behind, rest = epoch ++ behind ∧
        closedVersion? behind = some version := by
  constructor
  · rintro ⟨text, ⟨hepoch, closed, hclosed, rfl⟩, hprefix⟩
    rw [List.prefix_append_right_inj] at hprefix
    obtain ⟨beyond, rfl⟩ := hprefix
    refine ⟨hepoch, closed ++ beyond, List.append_assoc _ _ _, ?_⟩
    exact closedVersion?_eq_some_iff.2 ⟨closed, hclosed, List.prefix_append _ _⟩
  · rintro ⟨hepoch, behind, rfl, hversion⟩
    obtain ⟨closed, hclosed, hprefix⟩ := closedVersion?_eq_some_iff.1 hversion
    refine ⟨opening ++ (epoch ++ closed), ⟨hepoch, closed, hclosed, rfl⟩, ?_⟩
    rw [List.prefix_append_right_inj, List.prefix_append_right_inj]
    exact hprefix

theorem Begins.exists_rest (h : Begins epoch version cs) : ∃ rest, cs = opening ++ rest := by
  obtain ⟨text, ⟨-, closed, -, rfl⟩, beyond, rfl⟩ := h
  exact ⟨epoch ++ closed ++ beyond, List.append_assoc _ _ _⟩

/-- Behind an epoch. -/
theorem afterEpoch_eq_some_iff :
    (dropEpoch? rest).bind closedVersion? = some version ↔
      ∃ epoch, epoch ≠ [] ∧ Begins epoch version (opening ++ rest) := by
  simp only [Option.bind_eq_some_iff, dropEpoch?_eq_some_iff, begins_opening_iff]
  constructor
  · rintro ⟨behind, ⟨epoch, hepoch, rfl⟩, hversion⟩
    exact ⟨epoch, hepoch.ne_nil, .inr hepoch, behind, rfl, hversion⟩
  · rintro ⟨epoch, hne, hepoch, behind, rfl, hversion⟩
    exact ⟨behind, ⟨epoch, hepoch.resolve_left hne, rfl⟩, hversion⟩

theorem noEpoch_eq_some_iff :
    closedVersion? rest = some version ↔ Begins [] version (opening ++ rest) := by
  simp [begins_opening_iff]

theorem versionHere?_opening (rest : List Char) :
    versionHere? (opening ++ rest) =
      ((dropEpoch? rest).bind closedVersion?).or (closedVersion? rest) := by
  have hdrop : dropStart? "g++ (= ".toList (opening ++ rest) = some rest :=
    dropStart?_eq_some_iff.2 rfl
  rw [versionHere?, hdrop]
  exact Option.orElse_eq_or

theorem versionHere?_eq_none (h : ∀ rest, cs ≠ opening ++ rest) : versionHere? cs = none := by
  have hdrop : dropStart? "g++ (= ".toList cs = none := by
    apply Option.eq_none_iff_forall_ne_some.2
    intro rest hrest
    exact h rest (dropStart?_eq_some_iff.1 hrest)
  rw [versionHere?, hdrop]
  rfl

theorem versionHere?_eq_some_iff : versionHere? cs = some version ↔ Reads version cs := by
  by_cases hopening : ∃ rest, cs = opening ++ rest
  · obtain ⟨rest, rfl⟩ := hopening
    rw [versionHere?_opening, Option.or_eq_some_iff, afterEpoch_eq_some_iff, noEpoch_eq_some_iff,
      Option.eq_none_iff_forall_ne_some]
    constructor
    · rintro (⟨epoch, hne, hbegins⟩ | ⟨hnone, hbegins⟩)
      · exact ⟨epoch, hbegins, fun hnil => absurd hnil hne⟩
      · -- the way without an epoch is tried last, so no epoch has a version behind it
        refine ⟨[], hbegins, ?_⟩
        intro _ epoch other hother
        by_contra hne
        exact hnone other (afterEpoch_eq_some_iff.2 ⟨epoch, hne, hother⟩)
    · rintro ⟨epoch, hbegins, hfirst⟩
      by_cases hnil : epoch = []
      · subst hnil
        refine .inr ⟨?_, hbegins⟩
        intro other hother
        obtain ⟨epoch, hne, hother⟩ := afterEpoch_eq_some_iff.1 hother
        exact hne (hfirst rfl epoch other hother)
      · exact .inl ⟨epoch, hnil, hbegins⟩
  · rw [versionHere?_eq_none fun rest hrest => hopening ⟨rest, hrest⟩]
    constructor
    · intro h
      cases h
    · rintro ⟨epoch, hbegins, -⟩
      exact absurd hbegins.exists_rest hopening

/-- Where a banner begins, a version is read. -/
theorem Begins.exists_reads (h : Begins epoch version cs) : ∃ other, Reads other cs := by
  by_cases hepoch : ∃ epoch' other, epoch' ≠ [] ∧ Begins epoch' other cs
  · obtain ⟨epoch', other, hne, hbegins⟩ := hepoch
    exact ⟨other, epoch', hbegins, fun hnil => absurd hnil hne⟩
  · refine ⟨version, epoch, h, ?_⟩
    intro _ epoch' other hother
    by_contra hne
    exact hepoch ⟨epoch', other, hne, hother⟩

theorem versionHere?_eq_none_iff :
    versionHere? cs = none ↔ ∀ epoch version, ¬ Begins epoch version cs := by
  rw [Option.eq_none_iff_forall_ne_some]
  constructor
  · intro h epoch version hbegins
    obtain ⟨other, hreads⟩ := hbegins.exists_reads
    exact h other (versionHere?_eq_some_iff.2 hreads)
  · intro h version hversion
    obtain ⟨epoch, hbegins, -⟩ := versionHere?_eq_some_iff.1 hversion
    exact h epoch version hbegins

/-! ## The first banner of a text -/

theorem not_begins_nil : ¬ Begins epoch version [] := by
  rintro ⟨text, hbanner, hprefix⟩
  exact hbanner.ne_nil (List.prefix_nil.1 hprefix)

theorem version?_cons (c : Char) (cs : List Char) :
    version? (c :: cs) = (versionHere? (c :: cs)).or (version? cs) :=
  Option.orElse_eq_or

theorem version?_eq_some_iff : version? cs = some version ↔ FirstVersion version cs := by
  induction cs with
  | nil =>
    constructor
    · intro h
      cases h
    · intro h
      cases h with
      | here hreads =>
        obtain ⟨epoch, hbegins, -⟩ := hreads
        exact absurd hbegins not_begins_nil
  | cons c cs ih =>
    rw [version?_cons, Option.or_eq_some_iff, versionHere?_eq_some_iff, versionHere?_eq_none_iff,
      ih]
    constructor
    · rintro (hreads | ⟨hnone, hfirst⟩)
      · exact .here hreads
      · exact .later hnone hfirst
    · intro h
      cases h with
      | here hreads => exact .inl hreads
      | later hnone hfirst => exact .inr ⟨hnone, hfirst⟩

theorem Begins.chars (h : Begins epoch version cs) : ∀ c ∈ version, isVersionChar c = true := by
  obtain ⟨text, ⟨-, closed, hclosed, -⟩, -⟩ := h
  exact hclosed.chars

theorem FirstVersion.chars (h : FirstVersion version cs) :
    ∀ c ∈ version, isVersionChar c = true := by
  induction h with
  | here hreads =>
    obtain ⟨epoch, hbegins, -⟩ := hreads
    exact hbegins.chars
  | later hnone hfirst ih => exact ih

theorem hasBanner_cons :
    HasBanner (c :: cs) ↔ (∃ epoch version, Begins epoch version (c :: cs)) ∨ HasBanner cs := by
  simp only [HasBanner, Begins, List.infix_cons_iff, and_or_left, exists_or]

theorem version?_eq_none_iff : version? cs = none ↔ ¬ HasBanner cs := by
  induction cs with
  | nil =>
    refine iff_of_true rfl ?_
    rintro ⟨epoch, version, text, hbanner, hinfix⟩
    exact hbanner.ne_nil (List.infix_nil.1 hinfix)
  | cons c cs ih =>
    rw [version?_cons, Option.or_eq_none_iff, versionHere?_eq_none_iff, ih, hasBanner_cons, not_or]
    simp only [not_exists]

/-! ## Joined lines -/

theorem begins_append_newline :
    Begins epoch version (cs ++ '\n' :: rest) ↔ Begins epoch version cs := by
  simp only [Begins]
  apply exists_congr
  intro text
  apply and_congr_right
  intro hbanner
  exact prefix_append_cons_iff hbanner.newline_not_mem

theorem versionHere?_append_newline (cs rest : List Char) :
    versionHere? (cs ++ '\n' :: rest) = versionHere? cs := by
  apply Option.ext
  intro version
  rw [versionHere?_eq_some_iff, versionHere?_eq_some_iff]
  simp only [Reads, begins_append_newline]

theorem version?_append_newline (cs rest : List Char) :
    version? (cs ++ '\n' :: rest) = (version? cs).or (version? rest) := by
  induction cs with
  | nil =>
    have hnone : versionHere? ([] ++ '\n' :: rest) = none := versionHere?_append_newline [] rest
    rw [List.nil_append] at hnone ⊢
    rw [version?_cons, hnone]
    rfl
  | cons c cs ih =>
    have hhere := versionHere?_append_newline (c :: cs) rest
    rw [List.cons_append] at hhere ⊢
    rw [version?_cons, version?_cons, hhere, ih, Option.or_assoc]

/-- In joined lines the version is the one of the first line that has a banner. -/
theorem version?_intercalate (lines : List (List Char)) :
    version? (['\n'].intercalate lines) = lines.findSome? version? := by
  induction lines with
  | nil => rfl
  | cons line lines ih =>
    cases lines with
    | nil => simp
    | cons next lines =>
      rw [List.intercalate_cons_cons, List.append_assoc, List.singleton_append,
        version?_append_newline, ih, List.findSome?_cons (a := line)]
      cases version? line <;> rfl

end FeatureSurvey.Banner
