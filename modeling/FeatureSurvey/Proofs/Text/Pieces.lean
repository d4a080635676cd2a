import FeatureSurvey.Text.Search

/-!
# `Proofs/Text/Pieces.lean` — a text and its pieces between separators

A text is cut at every separator (`splitChars`), as lists are cut by the library
(`splitChars_eq_splitOn`). So a separator parts what stands on its two sides, and pieces that hold
none are got back from the text in which they are joined. What is put behind a text and holds no
separator belongs to the last piece (`exists_lastPiece`).

A reader that takes characters of one kind as far as they go parts a text as well, into the run at
its front and the rest (`exists_run`), and where that is follows from how the rest goes on
(`takeWhile_dropWhile_append`).
-/

set_option autoImplicit false

namespace FeatureSurvey.Text

variable {sep : Char}

theorem splitChars_eq_splitOn (sep : Char) (cs : List Char) :
    splitChars sep cs = cs.splitOn sep := by
  induction cs with
  | nil => rfl
  | cons c cs ih =>
    obtain ⟨piece, rest, hpieces⟩ := List.exists_cons_of_ne_nil (splitChars_ne_nil sep cs)
    rw [List.splitOn_cons_eq_if_modifyHead, ← ih]
    by_cases hc : c = sep <;> simp [splitChars, hpieces, hc]

theorem splitChars_of_not_mem {cs : List Char} (h : sep ∉ cs) : splitChars sep cs = [cs] := by
  rw [splitChars_eq_splitOn, List.splitOn_eq_singleton h]

theorem splitChars_append_cons (front back : List Char) :
    splitChars sep (front ++ sep :: back) = splitChars sep front ++ splitChars sep back := by
  simp only [splitChars_eq_splitOn]
  exact List.splitOn_append_cons_self front back

theorem splitChars_intercalate {pieces : List (List Char)} (h : ∀ piece ∈ pieces, sep ∉ piece)
    (hne : pieces ≠ []) : splitChars sep ([sep].intercalate pieces) = pieces := by
  rw [splitChars_eq_splitOn, List.splitOn_intercalate sep h hne]

theorem mem_of_mem_splitChars {c : Char} {cs piece : List Char} (h : piece ∈ splitChars sep cs)
    (hc : c ∈ piece) : c ∈ cs ∧ c ≠ sep := by
  induction cs generalizing piece with
  | nil =>
    obtain rfl := List.mem_singleton.1 h
    cases hc
  | cons x cs ih =>
    obtain ⟨front, rest, hpieces⟩ := List.exists_cons_of_ne_nil (splitChars_ne_nil sep cs)
    rw [hpieces] at ih
    have hbehind : ∀ piece ∈ front :: rest, c ∈ piece → c ∈ x :: cs ∧ c ≠ sep := by
      intro piece hpiece hmem
      obtain ⟨hcs, hsep⟩ := ih hpiece hmem
      exact ⟨List.mem_cons_of_mem x hcs, hsep⟩
    by_cases hx : x = sep
    · simp only [splitChars, hpieces, hx, if_true] at h
      rcases List.mem_cons.1 h with rfl | h
      · cases hc
      · exact hbehind piece h hc
    · simp only [splitChars, hpieces, hx, if_false] at h
      rcases List.mem_cons.1 h with rfl | h
      · rcases List.mem_cons.1 hc with rfl | hc
        · exact ⟨List.mem_cons_self, hx⟩
        · exact hbehind front List.mem_cons_self hc
      · exact hbehind piece (List.mem_cons_of_mem front h) hc

/-- The first piece of a text, and what follows it. -/
theorem splitChars_eq_cons {cs piece : List Char} {rest : List (List Char)}
    (h : splitChars sep cs = piece :: rest) :
    ∃ behind, cs = piece ++ behind ∧ ∀ c ∈ behind.head?, c = sep := by
  induction cs generalizing piece rest with
  | nil =>
    obtain ⟨rfl, rfl⟩ := List.cons.inj h
    exact ⟨[], rfl, by simp⟩
  | cons c cs ih =>
    obtain ⟨front, others, hcs⟩ := List.exists_cons_of_ne_nil (splitChars_ne_nil sep cs)
    simp only [splitChars, hcs] at h
    split at h
    · rename_i hc
      obtain ⟨rfl, -⟩ := List.cons.inj h
      exact ⟨c :: cs, rfl, by simp [hc]⟩
    · obtain ⟨rfl, -⟩ := List.cons.inj h
      obtain ⟨behind, hfront, hbehind⟩ := ih hcs
      exact ⟨behind, by rw [hfront, List.cons_append], hbehind⟩

/-- What does not go on with a run leaves the run at the front as it is. -/
theorem takeWhile_append_of_head {p : Char → Bool} {back : List Char}
    (h : ∀ c ∈ back.head?, p c = false) (front : List Char) :
    (front ++ back).takeWhile p = front.takeWhile p := by
  induction front with
  | nil =>
    cases back with
    | nil => rfl
    | cons c back => exact List.takeWhile_cons_of_neg (by simp [h c rfl])
  | cons c front ih => simp only [List.cons_append, List.takeWhile_cons, ih]

/-- Where the run at the front ends, once the place is known. -/
theorem takeWhile_dropWhile_append {p : Char → Bool} {front back : List Char}
    (hfront : ∀ c ∈ front, p c = true) (hback : ∀ c ∈ back.head?, p c = false) :
    (front ++ back).takeWhile p = front ∧ (front ++ back).dropWhile p = back := by
  have hnone : back.takeWhile p = [] := takeWhile_append_of_head hback []
  have htake : (front ++ back).takeWhile p = front := by
    rw [List.takeWhile_append_of_pos hfront, hnone, List.append_nil]
  have hboth : (front ++ back).takeWhile p ++ (front ++ back).dropWhile p = front ++ back :=
    List.takeWhile_append_dropWhile
  rw [htake] at hboth
  exact ⟨htake, List.append_cancel_left hboth⟩

/-- The run at the front of a text, and the rest. -/
theorem exists_run (p : Char → Bool) (cs : List Char) :
    ∃ front back, cs = front ++ back ∧ (∀ c ∈ front, p c = true) ∧
      ∀ c ∈ back.head?, p c = false := by
  induction cs with
  | nil => exact ⟨[], [], rfl, by simp, by simp⟩
  | cons c cs ih =>
    by_cases hc : p c = true
    · obtain ⟨front, back, rfl, hfront, hback⟩ := ih
      exact ⟨c :: front, back, rfl, by simpa [hc] using hfront, hback⟩
    · exact ⟨[], c :: cs, rfl, by simp, by simpa using hc⟩

/-- What is put behind a text belongs to its last piece, up to the next separator. -/
theorem exists_lastPiece (sep : Char) (front : List Char) :
    ∃ pieces last, ∀ tail, sep ∉ tail →
      splitChars sep (front ++ tail) = pieces ++ [last ++ tail] := by
  induction front with
  | nil =>
    refine ⟨[], [], ?_⟩
    intro tail htail
    exact splitChars_of_not_mem htail
  | cons c front ih =>
    obtain ⟨pieces, last, hpieces⟩ := ih
    by_cases hc : c = sep
    · refine ⟨[] :: pieces, last, ?_⟩
      intro tail htail
      subst hc
      exact (splitChars_append_cons [] (front ++ tail)).trans (by rw [hpieces tail htail]; rfl)
    · cases pieces with
      | nil =>
        refine ⟨[], c :: last, ?_⟩
        intro tail htail
        simp [splitChars, hpieces tail htail, hc]
      | cons piece pieces =>
        refine ⟨(c :: piece) :: pieces, last, ?_⟩
        intro tail htail
        simp [splitChars, hpieces tail htail, hc]

/-! ## On texts -/

theorem intercalate_splitOn (s : String) (sep : Char) :
    (String.singleton sep).intercalate (splitOn s sep) = s := by
  apply String.toList_injective
  rw [String.toList_intercalate, splitOn, List.map_map, splitChars_eq_splitOn]
  simp [Function.comp_def, List.intercalate_splitOn]

theorem not_mem_of_mem_splitOn {s piece : String} {sep : Char} (h : piece ∈ splitOn s sep) :
    sep ∉ piece.toList := by
  obtain ⟨cs, hcs, rfl⟩ := List.mem_map.1 h
  rw [String.toList_ofList]
  exact fun hmem => (mem_of_mem_splitChars hcs hmem).2 rfl

theorem splitOn_intercalate {pieces : List String} (h : ∀ piece ∈ pieces, sep ∉ piece.toList)
    (hne : pieces ≠ []) : splitOn ((String.singleton sep).intercalate pieces) sep = pieces := by
  rw [splitOn, String.toList_intercalate, String.toList_singleton,
    splitChars_intercalate (by simpa using h) (by simpa using hne), List.map_map]
  simp [Function.comp_def]

end FeatureSurvey.Text
