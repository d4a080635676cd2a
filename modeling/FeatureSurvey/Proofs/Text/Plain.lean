import FeatureSurvey.Proofs.Text.Trim
import FeatureSurvey.Text.Lines
import FeatureSurvey.Text.Search

/-!
# `Proofs/Text/Plain.lean` — names that are printed one a line

A tool that answers with names prints each of them on a line of its own. If the names are plain,
that is, if they consist of letters and digits, then nothing is lost on the way: cutting the text
into lines and trimming it give the names back.
-/

set_option autoImplicit false

namespace FeatureSurvey.Text

/-- Letters and digits, and at least one of them. -/
structure IsPlain (s : String) : Prop where
  ne_nil : s.toList ≠ []
  alphanum : ∀ c ∈ s.toList, c.isAlphanum = true

/-- Each name on a line of its own. -/
def onLines : List String → String
  | [] => ""
  | name :: rest => name ++ "\n" ++ onLines rest

/-! ## Letters and digits -/

theorem isBlank_of_isAlphanum {c : Char} (h : c.isAlphanum = true) : isBlank c = false := by
  delta Char.isAlphanum Char.isAlpha Char.isUpper Char.isLower Char.isDigit at h
  simp only [Bool.or_eq_true, Bool.and_eq_true, decide_eq_true_eq, ge_iff_le,
    UInt32.le_iff_toNat_le] at h
  have hrange : (65 ≤ c.toNat ∧ c.toNat ≤ 90) ∨ (97 ≤ c.toNat ∧ c.toNat ≤ 122) ∨
      (48 ≤ c.toNat ∧ c.toNat ≤ 57) := by
    rcases h with (h | h) | h
    · exact .inl h
    · exact .inr (.inl h)
    · exact .inr (.inr h)
  simp only [isBlank, Bool.or_eq_false_iff, Bool.and_eq_false_iff, decide_eq_false_iff_not,
    beq_eq_false_iff_ne, ne_eq]
  omega

namespace IsPlain

variable {s : String}

theorem isBlank_eq_false (h : IsPlain s) {c : Char} (hc : c ∈ s.toList) : isBlank c = false :=
  isBlank_of_isAlphanum (h.alphanum c hc)

theorem not_mem (h : IsPlain s) {c : Char} (hc : c.isAlphanum = false) : c ∉ s.toList := by
  intro hmem
  rw [h.alphanum c hmem] at hc
  cases hc

end IsPlain

/-! ## Trimming -/

theorem trimLeft_of_not_blank {cs : List Char} (h : ∀ c ∈ cs, isBlank c = false) :
    trimLeft cs = cs := by
  cases cs with
  | nil => rfl
  | cons c cs => simp [trimLeft, h c List.mem_cons_self]

theorem trimRight_of_not_blank {cs : List Char} (h : ∀ c ∈ cs, isBlank c = false) :
    trimRight cs = cs := by
  rw [trimRight, trimLeft_of_not_blank fun c hc => h c (List.mem_reverse.1 hc),
    List.reverse_reverse]

theorem IsPlain.trim_eq {s : String} (h : IsPlain s) : trim s = s := by
  have hblank : ∀ c ∈ s.toList, isBlank c = false := fun _ hc => h.isBlank_eq_false hc
  rw [trim, trimChars, trimLeft_of_not_blank hblank, trimRight_of_not_blank hblank,
    String.ofList_toList]

/-- The line feed behind a name is trimmed away. -/
theorem IsPlain.trim_append_newline {s : String} (h : IsPlain s) : trim (s ++ "\n") = s := by
  rw [trim_append_blank (by decide), h.trim_eq]

/-! ## Lines -/

theorem occursIn_newline {cs : List Char} (h : '\n' ∉ cs) : occursIn ['\n'] cs = false := by
  induction cs with
  | nil => rfl
  | cons c cs ih =>
    obtain ⟨hc, hcs⟩ := List.ne_and_not_mem_of_not_mem_cons h
    simp [occursIn, List.isPrefixOf, ih hcs, hc]

theorem linesFrom_append_newline {line cs rest : List Char} (h : '\n' ∉ cs) :
    linesFrom line (cs ++ '\n' :: rest) =
      dropReturn (line.reverse ++ cs) :: linesFrom [] rest := by
  induction cs generalizing line with
  | nil => simp [linesFrom]
  | cons c cs ih =>
    obtain ⟨hc, hcs⟩ := List.ne_and_not_mem_of_not_mem_cons h
    simp [linesFrom, Ne.symm hc, ih hcs]

theorem dropReturn_of_not_mem {cs : List Char} (h : '\r' ∉ cs) : dropReturn cs = cs := by
  rw [dropReturn]
  split
  · rename_i rest hrest
    have hmem : '\r' ∈ cs.reverse := by rw [hrest]; exact List.mem_cons_self
    exact absurd (List.mem_reverse.1 hmem) h
  · rfl

theorem lines_onLines {names : List String} (h : ∀ name ∈ names, IsPlain name) :
    lines (onLines names) = names := by
  induction names with
  | nil => rfl
  | cons name rest ih =>
    have hname := h name List.mem_cons_self
    have hrest := ih fun name hname => h name (List.mem_cons_of_mem _ hname)
    have htext : (onLines (name :: rest)).toList =
        name.toList ++ '\n' :: (onLines rest).toList := by
      simp [onLines]
    rw [lines, linesChars] at hrest ⊢
    rw [htext, linesFrom_append_newline (hname.not_mem rfl), List.reverse_nil, List.nil_append,
      dropReturn_of_not_mem (hname.not_mem rfl), List.map_cons, hrest, String.ofList_toList]

/-! ## Two parts -/

theorem cutAt?_append {sep : Char} {front : List Char} (h : sep ∉ front) (back : List Char) :
    cutAt? sep (front ++ sep :: back) = some (front, back) := by
  induction front with
  | nil => simp [cutAt?]
  | cons c front ih =>
    obtain ⟨hc, hfront⟩ := List.ne_and_not_mem_of_not_mem_cons h
    simp [cutAt?, Ne.symm hc, ih hfront]

theorem cutAt?_eq_none {sep : Char} {cs : List Char} (h : sep ∉ cs) : cutAt? sep cs = none := by
  induction cs with
  | nil => rfl
  | cons c cs ih =>
    obtain ⟨hc, hcs⟩ := List.ne_and_not_mem_of_not_mem_cons h
    simp [cutAt?, Ne.symm hc, ih hcs]

/-- A text is cut at a character in one way, if the first part does not contain it. -/
theorem append_cons_inj {c : Char} {xs ys xs' ys' : List Char} (h : c ∉ xs) (h' : c ∉ xs')
    (heq : xs ++ c :: ys = xs' ++ c :: ys') : xs = xs' ∧ ys = ys' := by
  induction xs generalizing xs' with
  | nil =>
    cases xs' with
    | nil => exact ⟨rfl, (List.cons.inj heq).2⟩
    | cons x xs' => exact absurd (List.cons.inj heq).1 (List.ne_of_not_mem_cons h')
  | cons x xs ih =>
    cases xs' with
    | nil => exact absurd (List.cons.inj heq).1.symm (List.ne_of_not_mem_cons h)
    | cons x' xs' =>
      obtain ⟨rfl, hrest⟩ := List.cons.inj heq
      obtain ⟨rfl, hys⟩ := ih (List.not_mem_of_not_mem_cons h)
        (List.not_mem_of_not_mem_cons h') hrest
      exact ⟨rfl, hys⟩

/-- The same from the other end: it is cut at the last such character. -/
theorem append_cons_inj_last {c : Char} {xs ys xs' ys' : List Char} (h : c ∉ ys) (h' : c ∉ ys')
    (heq : xs ++ c :: ys = xs' ++ c :: ys') : xs = xs' ∧ ys = ys' := by
  have hreverse : ys.reverse ++ c :: xs.reverse = ys'.reverse ++ c :: xs'.reverse := by
    simpa using congrArg List.reverse heq
  obtain ⟨hys, hxs⟩ := append_cons_inj (by simpa using h) (by simpa using h') hreverse
  exact ⟨List.reverse_inj.1 hxs, List.reverse_inj.1 hys⟩

end FeatureSurvey.Text
