import FeatureSurvey.Proofs.Text.Plain

/-!
# `Proofs/Text/Lines.lean` — lines that are joined again

The lines of a text hold no line feed, and no character that the text does not hold. Joined by
line feeds they are a text again, which falls into the same lines (`lines_intercalate`), as long as
none of them is empty and no carriage return can be taken for a part of an ending.
-/

set_option autoImplicit false

namespace FeatureSurvey.Text

variable {c : Char} {cs line l : List Char}

theorem dropReturn_isPrefix (cs : List Char) : dropReturn cs <+: cs := by
  unfold dropReturn
  split
  · rename_i rest hrest
    have hcs := congrArg List.reverse hrest
    rw [List.reverse_reverse, List.reverse_cons] at hcs
    exact ⟨['\r'], hcs.symm⟩
  · exact List.prefix_refl cs

theorem mem_of_mem_linesFrom (h : l ∈ linesFrom line cs) (hc : c ∈ l) : c ∈ line ∨ c ∈ cs := by
  induction cs generalizing line with
  | nil =>
    rw [linesFrom] at h
    split at h
    · cases h
    · obtain rfl := List.mem_singleton.1 h
      exact .inl (List.mem_reverse.1 hc)
  | cons x cs ih =>
    rw [linesFrom] at h
    split at h
    · rcases List.mem_cons.1 h with rfl | h
      · exact .inl (List.mem_reverse.1 ((dropReturn_isPrefix _).subset hc))
      · rcases ih h with hnil | hmem
        · cases hnil
        · exact .inr (List.mem_cons_of_mem x hmem)
    · rcases ih h with hline | hmem
      · rcases List.mem_cons.1 hline with rfl | hline
        · exact .inr List.mem_cons_self
        · exact .inl hline
      · exact .inr (List.mem_cons_of_mem x hmem)

theorem newline_not_mem_of_mem_linesFrom (hline : '\n' ∉ line) (h : l ∈ linesFrom line cs) :
    '\n' ∉ l := by
  induction cs generalizing line with
  | nil =>
    rw [linesFrom] at h
    split at h
    · cases h
    · obtain rfl := List.mem_singleton.1 h
      simpa using hline
  | cons x cs ih =>
    rw [linesFrom] at h
    split at h
    · rcases List.mem_cons.1 h with rfl | h
      · intro hmem
        exact hline (List.mem_reverse.1 ((dropReturn_isPrefix _).subset hmem))
      · exact ih List.not_mem_nil h
    · rename_i hx
      refine ih ?_ h
      intro hmem
      rcases List.mem_cons.1 hmem with heq | hmem
      · exact hx heq.symm
      · exact hline hmem

theorem mem_of_mem_lines {text l : String} (h : l ∈ lines text) (hc : c ∈ l.toList) :
    c ∈ text.toList := by
  obtain ⟨cs, hcs, rfl⟩ := List.mem_map.1 h
  rw [String.toList_ofList] at hc
  exact (mem_of_mem_linesFrom hcs hc).resolve_left List.not_mem_nil

theorem newline_not_mem_of_mem_lines {text l : String} (h : l ∈ lines text) : '\n' ∉ l.toList := by
  obtain ⟨cs, hcs, rfl⟩ := List.mem_map.1 h
  rw [String.toList_ofList]
  exact newline_not_mem_of_mem_linesFrom List.not_mem_nil hcs

theorem linesFrom_of_not_mem (h : '\n' ∉ cs) (hne : line.reverse ++ cs ≠ []) :
    linesFrom line cs = [line.reverse ++ cs] := by
  induction cs generalizing line with
  | nil => simpa [linesFrom] using hne
  | cons c cs ih =>
    obtain ⟨hc, hcs⟩ := List.ne_and_not_mem_of_not_mem_cons h
    simp [linesFrom, Ne.symm hc, ih hcs]

/-- A line that can be read back: it is not empty and holds no part of an ending. -/
structure IsLine (line : String) : Prop where
  ne_nil : line.toList ≠ []
  no_newline : '\n' ∉ line.toList
  no_return : '\r' ∉ line.toList

theorem lines_intercalate {ls : List String} (h : ∀ line ∈ ls, IsLine line) :
    lines ("\n".intercalate ls) = ls := by
  induction ls with
  | nil => rfl
  | cons line rest ih =>
    have hline := h line List.mem_cons_self
    have hrest := ih fun line hline => h line (List.mem_cons_of_mem _ hline)
    cases rest with
    | nil =>
      have hlast : linesFrom [] line.toList = [line.toList] :=
        @linesFrom_of_not_mem line.toList [] hline.no_newline hline.ne_nil
      simp [lines, linesChars, hlast]
    | cons next rest =>
      have htext : ("\n".intercalate (line :: next :: rest)).toList =
          line.toList ++ '\n' :: ("\n".intercalate (next :: rest)).toList := by
        rw [String.intercalate_cons_cons, String.toList_append, String.toList_append,
          List.append_assoc]
        rfl
      rw [lines, linesChars] at hrest ⊢
      rw [htext, linesFrom_append_newline hline.no_newline, List.reverse_nil, List.nil_append,
        dropReturn_of_not_mem hline.no_return, List.map_cons, hrest, String.ofList_toList]

end FeatureSurvey.Text
