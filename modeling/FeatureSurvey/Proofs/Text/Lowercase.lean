import FeatureSurvey.Proofs.Text.Words
import FeatureSurvey.Text.Lowercase

/-!
# `Proofs/Text/Lowercase.lean` — lower case is taken word by word

Only the final sigma makes lower case depend on what stands around a character, and the search
for a cased neighbour ends at white space, which is neither cased nor stepped over. So a text is
lower-cased word by word (`lowerChars_wordWise`), and since no character becomes white space
either, the words of the result are the lower-cased words (`isRun_lowerChars`).

The facts on single characters are facts about tables: there are 25 blanks, and none of them lies
in one of the ranges or where one of the runs leads.
-/

set_option autoImplicit false

namespace FeatureSurvey.Text

/-- The code points of white space. -/
def blankCodes : List Nat :=
  [9, 10, 11, 12, 13, 32, 0x85, 0xA0, 0x1680, 0x2000, 0x2001, 0x2002, 0x2003, 0x2004, 0x2005,
    0x2006, 0x2007, 0x2008, 0x2009, 0x200A, 0x2028, 0x2029, 0x202F, 0x205F, 0x3000]

variable {b c : Char} {xs ys before rest : List Char}

/-! ## Blanks in the tables -/

theorem mem_blankCodes_of_isBlank (h : isBlank c = true) : c.toNat ∈ blankCodes := by
  simp only [isBlank, Bool.or_eq_true, Bool.and_eq_true, decide_eq_true_eq, beq_iff_eq] at h
  simp only [blankCodes, List.mem_cons, List.not_mem_nil, or_false]
  omega

/-- What holds of the 25 code points holds of white space. -/
theorem isBlank_induction {motive : Char → Prop} (h : ∀ n ∈ blankCodes, motive (Char.ofNat n))
    (hb : isBlank b = true) : motive b := by
  have := h b.toNat (mem_blankCodes_of_isBlank hb)
  rwa [Char.ofNat_toNat] at this

theorem isCased_of_isBlank (hb : isBlank b = true) : isCased b = false :=
  isBlank_induction (motive := fun b => isCased b = false) (by decide +kernel) hb

theorem isCaseIgnorable_of_isBlank (hb : isBlank b = true) : isCaseIgnorable b = false :=
  isBlank_induction (motive := fun b => isCaseIgnorable b = false) (by decide +kernel) hb

theorem isWordChar_of_isBlank (hb : isBlank b = true) : isWordChar b = false :=
  isBlank_induction (motive := fun b => isWordChar b = false) (by decide +kernel) hb

theorem lowerChar_of_isBlank (hb : isBlank b = true) : lowerChar b = b :=
  isBlank_induction (motive := fun b => lowerChar b = b) (by decide +kernel) hb

theorem isBlank_toLower : ∀ n < 128, isBlank (Char.ofNat n).toLower = isBlank (Char.ofNat n) := by
  decide +kernel

/-- No run of upper-case letters leads to white space. -/
theorem lowerRuns_avoid_blanks : ∀ run ∈ lowerRuns, ∀ n ∈ blankCodes,
    ¬ ((run.1 : Int) + run.2.2.2 ≤ n ∧ (n : Int) ≤ run.2.1 + run.2.2.2) := by
  decide +kernel

theorem toNat_ofNat_cases (n : Nat) : (Char.ofNat n).toNat = n ∨ (Char.ofNat n).toNat = 0 := by
  by_cases hn : n.isValidChar
  · rw [Char.ofNat, dif_pos hn]
    exact .inl rfl
  · rw [Char.ofNat, dif_neg hn]
    exact .inr rfl

theorem isBlank_lowerChar (hc : isBlank c = false) : isBlank (lowerChar c) = false := by
  rw [lowerChar]
  split
  · rename_i hascii
    have := isBlank_toLower c.toNat hascii
    rw [Char.ofNat_toNat] at this
    rw [this, hc]
  · split
    · rename_i first last step shift hfound
      have hmem := List.mem_of_find?_eq_some hfound
      have hwithin := List.find?_some hfound
      simp only [Bool.and_eq_true, decide_eq_true_eq] at hwithin
      obtain ⟨⟨hfirst, hlast⟩, -⟩ := hwithin
      rw [Bool.eq_false_iff]
      intro hblank
      have hcode := mem_blankCodes_of_isBlank hblank
      rcases toNat_ofNat_cases (Int.ofNat c.toNat + shift).toNat with hsame | hzero
      · rw [hsame] at hcode
        have hpositive : ∀ n ∈ blankCodes, 0 < n := by decide
        have hresult := hpositive _ hcode
        apply lowerRuns_avoid_blanks _ hmem _ hcode
        simp only [Int.ofNat_eq_natCast] at hresult ⊢
        omega
      · rw [hzero] at hcode
        exact absurd hcode (by decide)
    · exact hc

/-! ## Runs and words -/

theorem reachesCased_append_blank (hb : isBlank b = true) :
    reachesCased (xs ++ b :: ys) = reachesCased xs := by
  induction xs with
  | nil => simp [reachesCased, isCaseIgnorable_of_isBlank hb, isCased_of_isBlank hb]
  | cons c xs ih =>
    by_cases hc : isCaseIgnorable c = true
    · simpa [reachesCased, hc] using ih
    · simp [reachesCased, hc]

/-- What stands beyond white space on the left has no part in lower case. -/
theorem lowerFrom_behind_blank (hb : isBlank b = true) :
    lowerFrom (before ++ b :: ys) xs = lowerFrom before xs := by
  induction xs generalizing before with
  | nil => rfl
  | cons c xs ih =>
    have hnext : lowerFrom ((c :: before) ++ b :: ys) xs = lowerFrom (c :: before) xs := ih
    rw [List.cons_append] at hnext
    simp only [lowerFrom, reachesCased_append_blank hb, hnext]

theorem lowerFrom_append_blank (hb : isBlank b = true) :
    lowerFrom before (xs ++ b :: rest) = lowerFrom before xs ++ b :: lowerChars rest := by
  induction xs generalizing before with
  | nil =>
    have hdot : b ≠ '\u0130' := by rintro rfl; cases hb
    have hsigma : b ≠ 'Σ' := by rintro rfl; cases hb
    have hrest : lowerFrom (b :: before) rest = lowerFrom [] rest :=
      @lowerFrom_behind_blank b rest before [] hb
    simp [lowerFrom, hdot, hsigma, lowerChar_of_isBlank hb, hrest, lowerChars]
  | cons c xs ih =>
    simp only [List.cons_append, lowerFrom, reachesCased_append_blank hb, ih, List.append_assoc]

theorem lowerChars_wordWise : WordWise lowerChars :=
  fun _ _ _ hb => lowerFrom_append_blank hb

theorem isRun_lowerFrom (h : IsRun xs) : IsRun (lowerFrom before xs) := by
  induction xs generalizing before with
  | nil => exact isRun_nil
  | cons c xs ih =>
    obtain ⟨hc, hxs⟩ := isRun_cons.1 h
    refine isRun_append.2 ⟨?_, ih hxs⟩
    split
    · decide
    · split
      · split <;> decide
      · exact isRun_cons.2 ⟨isBlank_lowerChar hc, isRun_nil⟩

theorem isRun_lowerChars (h : IsRun xs) : IsRun (lowerChars xs) := isRun_lowerFrom h

theorem lowerFrom_ne_nil (c : Char) : lowerFrom before (c :: xs) ≠ [] := by
  rw [lowerFrom]
  split
  · simp
  · split
    · split <;> simp
    · simp

theorem IsWord.lowerChars (h : IsWord xs) : IsWord (lowerChars xs) := by
  refine ⟨?_, isRun_lowerChars h.run⟩
  cases xs with
  | nil => exact absurd rfl h.ne_nil
  | cons c xs => exact lowerFrom_ne_nil c

end FeatureSurvey.Text
