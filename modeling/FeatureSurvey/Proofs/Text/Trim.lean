import FeatureSurvey.Text.Blank
import Mathlib.Data.List.DropRight

/-!
# `Proofs/Text/Trim.lean` — blanks at either end

White space that stands around a text makes no difference to what is left when the text is trimmed
(`trim_blank_append`, `trim_append_blank`), and a text of nothing else leaves nothing
(`trim_eq_empty_iff`).
-/

set_option autoImplicit false

namespace FeatureSurvey.Text

variable {cs gap : List Char} {s blanks : String}

theorem trimLeft_blank_append (h : ∀ c ∈ gap, isBlank c = true) :
    trimLeft (gap ++ cs) = trimLeft cs :=
  List.dropWhile_append_of_pos h

theorem trimRight_append_blank (h : ∀ c ∈ gap, isBlank c = true) :
    trimRight (cs ++ gap) = trimRight cs := by
  simp only [trimRight, List.reverse_append]
  rw [trimLeft_blank_append (by simpa using h)]

theorem trimChars_append_blank (h : ∀ c ∈ gap, isBlank c = true) :
    trimChars (cs ++ gap) = trimChars cs := by
  have hgap : trimLeft gap = [] := List.dropWhile_eq_nil_iff.2 h
  simp only [trimChars, trimLeft] at hgap ⊢
  rw [List.dropWhile_append, hgap]
  split
  · rename_i hempty
    rw [List.isEmpty_iff.1 hempty]
  · exact trimRight_append_blank h

theorem trimChars_eq_nil_iff : trimChars cs = [] ↔ ∀ c ∈ cs, isBlank c = true := by
  show (cs.dropWhile isBlank).rdropWhile isBlank = [] ↔ _
  rw [List.rdropWhile_eq_nil_iff]
  constructor
  · intro h c hc
    rw [← List.takeWhile_append_dropWhile (p := isBlank) (l := cs)] at hc
    cases List.mem_append.1 hc with
    | inl hc => exact List.mem_takeWhile_imp hc
    | inr hc => exact h c hc
  · intro h c hc
    exact h c ((List.dropWhile_suffix isBlank).subset hc)

theorem isBlankText_iff : isBlankText s = true ↔ ∀ c ∈ s.toList, isBlank c = true := by
  simp [isBlankText]

/-! ## On texts -/

theorem trim_blank_append (h : isBlankText blanks = true) : trim (blanks ++ s) = trim s := by
  rw [trim, trim, String.toList_append, trimChars, trimChars,
    trimLeft_blank_append (isBlankText_iff.1 h)]

theorem trim_append_blank (h : isBlankText blanks = true) : trim (s ++ blanks) = trim s := by
  rw [trim, trim, String.toList_append, trimChars_append_blank (isBlankText_iff.1 h)]

theorem trim_eq_empty_iff : trim s = "" ↔ isBlankText s = true := by
  rw [trim, isBlankText_iff, ← trimChars_eq_nil_iff, String.ofList_eq_empty_iff]

end FeatureSurvey.Text
