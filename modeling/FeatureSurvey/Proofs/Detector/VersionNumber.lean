import Mathlib.Data.Nat.Digits.Defs
import FeatureSurvey.Proofs.Detector.VersionOrder

/-!
# `Proofs/Detector/VersionNumber.lean` — versions as lists of numbers

A version is written as rows of digits with points between them (`dotted`) and meant as the list
of the numbers that the rows denote (`values`). Such lists are ordered at the first place where
they differ, and a number that is missing is a zero (`Lower`).

The comparison keeps to that order for the numbers that it takes the rows for (`counted`): the
number itself if a 64-bit word holds it, and zero if none does. **So versions are compared as
numbers as long as each of them fits a word, and a number that does not may come out below a
smaller one** (`compare_dotted`).
-/

set_option autoImplicit false

namespace FeatureSurvey.Version

open Text

/-! ## The lexicographic order -/

/-- At the first place where the lists differ, the first has the lower number. -/
def Lower (xs ys : List Nat) : Prop :=
  ∃ i, (∀ j < i, xs.getD j 0 = ys.getD j 0) ∧ xs.getD i 0 < ys.getD i 0

/-- The outcome tells how the lists are ordered. -/
structure Orders (outcome : Ordering) (xs ys : List Nat) : Prop where
  lt_iff : outcome = .lt ↔ Lower xs ys
  eq_iff : outcome = .eq ↔ ∀ i, xs.getD i 0 = ys.getD i 0
  gt_iff : outcome = .gt ↔ Lower ys xs

theorem not_lower_nil : ¬ Lower [] [] := by
  rintro ⟨i, -, hi⟩
  simp at hi

theorem lower_cons (m n : Nat) (xs ys : List Nat) :
    Lower (m :: xs) (n :: ys) ↔ m < n ∨ m = n ∧ Lower xs ys := by
  constructor
  · rintro ⟨i, hbefore, hi⟩
    cases i with
    | zero => exact .inl hi
    | succ i =>
      refine .inr ⟨hbefore 0 i.succ_pos, i, ?_, hi⟩
      intro j hj
      exact hbefore (j + 1) (Nat.succ_lt_succ hj)
  · rintro (hlt | ⟨rfl, i, hbefore, hi⟩)
    · exact ⟨0, fun j hj => absurd hj j.not_lt_zero, hlt⟩
    · refine ⟨i + 1, ?_, hi⟩
      intro j hj
      cases j with
      | zero => rfl
      | succ j => exact hbefore j (Nat.lt_of_succ_lt_succ hj)

/-- A list that has come to its end goes on with zeros. -/
theorem getD_nil_eq_zero (i : Nat) : ([] : List Nat).getD i 0 = [0].getD i 0 := by
  cases i <;> rfl

theorem lower_nil_left (ys : List Nat) : Lower [] ys ↔ Lower [0] ys := by
  simp only [Lower, getD_nil_eq_zero]

theorem lower_nil_right (xs : List Nat) : Lower xs [] ↔ Lower xs [0] := by
  simp only [Lower, getD_nil_eq_zero]

theorem forall_getD_cons (m n : Nat) (xs ys : List Nat) :
    (∀ i, (m :: xs).getD i 0 = (n :: ys).getD i 0) ↔ m = n ∧ ∀ i, xs.getD i 0 = ys.getD i 0 := by
  constructor
  · intro h
    exact ⟨h 0, fun i => h (i + 1)⟩
  · rintro ⟨rfl, h⟩ i
    cases i with
    | zero => rfl
    | succ i => exact h i

theorem compareParts_eq_lt_iff (xs ys : List Nat) : compareParts xs ys = .lt ↔ Lower xs ys := by
  fun_induction compareParts xs ys with
  | case1 => simp [not_lower_nil]
  | case2 m xs ih =>
    rw [Ordering.then_eq_lt, ih, Nat.compare_eq_lt, Nat.compare_eq_eq, lower_nil_right (m :: xs),
      lower_cons]
  | case3 n ys ih =>
    rw [Ordering.then_eq_lt, ih, Nat.compare_eq_lt, Nat.compare_eq_eq, lower_nil_left (n :: ys),
      lower_cons]
  | case4 m xs n ys ih =>
    rw [Ordering.then_eq_lt, ih, Nat.compare_eq_lt, Nat.compare_eq_eq, lower_cons]

theorem compareParts_eq_eq_iff (xs ys : List Nat) :
    compareParts xs ys = .eq ↔ ∀ i, xs.getD i 0 = ys.getD i 0 := by
  fun_induction compareParts xs ys with
  | case1 => simp
  | case2 m xs ih =>
    rw [Ordering.then_eq_eq, ih, Nat.compare_eq_eq, ← forall_getD_cons]
    simp only [getD_nil_eq_zero]
  | case3 n ys ih =>
    rw [Ordering.then_eq_eq, ih, Nat.compare_eq_eq, ← forall_getD_cons]
    simp only [getD_nil_eq_zero]
  | case4 m xs n ys ih => rw [Ordering.then_eq_eq, ih, Nat.compare_eq_eq, forall_getD_cons]

theorem compareParts_swap (xs ys : List Nat) : compareParts ys xs = (compareParts xs ys).swap := by
  rw [compareParts_eq_compare, compareParts_eq_compare]
  exact Std.OrientedCmp.eq_swap

theorem compareParts_orders (xs ys : List Nat) : Orders (compareParts xs ys) xs ys where
  lt_iff := compareParts_eq_lt_iff xs ys
  eq_iff := compareParts_eq_eq_iff xs ys
  gt_iff := by rw [← compareParts_eq_lt_iff, compareParts_swap xs ys, Ordering.swap_eq_lt]

/-! ## Rows of digits -/

/-- What a row of decimal digits denotes; the last one counts the units. -/
def value (digits : List Char) : Nat :=
  Nat.ofDigits 10 (digits.reverse.map fun c => c.toNat - '0'.toNat)

/-- What the comparison takes a row of digits for. -/
def counted (digits : List Char) : Nat :=
  if value digits ≤ maxWord then value digits else 0

theorem number_eq_value (digits : List Char) : number digits = value digits := by
  induction digits using List.reverseRecOn with
  | nil => rfl
  | append_singleton digits c ih =>
    have hlast : number (digits ++ [c]) = number digits * 10 + (c.toNat - '0'.toNat) :=
      List.foldl_concat _ _ _ _
    rw [hlast, ih, value, value, List.reverse_concat, List.map_cons, Nat.ofDigits_cons]
    omega

theorem component_of_digits {part : List Char} (h : ∀ c ∈ part, c.isDigit = true) :
    component part = counted part := by
  rw [component, List.takeWhile_eq_self_iff.2 h, number_eq_value]
  rfl

/-- Digits, and at least one. -/
structure IsNumeral (part : String) : Prop where
  ne_nil : part.toList ≠ []
  digits : ∀ c ∈ part.toList, c.isDigit = true

instance (part : String) : Decidable (IsNumeral part) :=
  decidable_of_iff (part.toList ≠ [] ∧ part.toList.all Char.isDigit = true)
    ⟨fun h => ⟨h.1, List.all_eq_true.1 h.2⟩, fun h => ⟨h.ne_nil, List.all_eq_true.2 h.digits⟩⟩

/-- The version that is written with these parts. -/
def dotted (parts : List String) : String := ".".intercalate parts

def values (parts : List String) : List Nat := parts.map fun part => value part.toList

def countedValues (parts : List String) : List Nat := parts.map fun part => counted part.toList

variable {a b parts : List String}

theorem IsNumeral.no_point {part : String} (h : IsNumeral part) : '.' ∉ part.toList := by
  intro hmem
  have := h.digits '.' hmem
  simp at this

/-- No part at all is written as one part without digits. -/
theorem significant_components_dotted (h : ∀ part ∈ parts, IsNumeral part) :
    significant (components (dotted parts)) = significant (countedValues parts) := by
  by_cases hparts : parts = []
  · subst hparts
    rfl
  · have htext : (dotted parts).toList = ['.'].intercalate (parts.map String.toList) :=
      String.toList_intercalate
    have hpoints : ∀ piece ∈ parts.map String.toList, '.' ∉ piece := by
      intro piece hpiece
      obtain ⟨part, hpart, rfl⟩ := List.mem_map.1 hpiece
      exact (h part hpart).no_point
    rw [components, htext, splitChars_intercalate hpoints (by simpa using hparts), List.map_map]
    congr 1
    apply List.map_congr_left
    intro part hpart
    exact component_of_digits (h part hpart).digits

theorem compare_dotted_eq (ha : ∀ part ∈ a, IsNumeral part) (hb : ∀ part ∈ b, IsNumeral part) :
    compare (dotted a) (dotted b) = compareParts (countedValues a) (countedValues b) := by
  rw [compare_eq_compare, compareParts_eq_compare, significant_components_dotted ha,
    significant_components_dotted hb]

theorem counted_of_le {digits : List Char} (h : value digits ≤ maxWord) :
    counted digits = value digits :=
  if_pos h

theorem countedValues_of_le (h : ∀ part ∈ parts, value part.toList ≤ maxWord) :
    countedValues parts = values parts :=
  List.map_congr_left fun part hpart => counted_of_le (h part hpart)

/-- What stands at a place counts by itself. -/
theorem getD_countedValues (parts : List String) (i : Nat) :
    (countedValues parts).getD i 0 =
      if (values parts).getD i 0 ≤ maxWord then (values parts).getD i 0 else 0 := by
  induction parts generalizing i with
  | nil => simp [countedValues, values]
  | cons part parts ih =>
    cases i with
    | zero => rfl
    | succ i => exact ih i

/-- A number that no word holds counts as less than every positive one that a word holds. -/
theorem lower_countedValues {i : Nat}
    (hbefore : ∀ j < i, (values a).getD j 0 = (values b).getD j 0)
    (hpos : 0 < (values a).getD i 0) (hword : (values a).getD i 0 ≤ maxWord)
    (hbeyond : maxWord < (values b).getD i 0) : Lower (countedValues b) (countedValues a) := by
  refine ⟨i, ?_, ?_⟩
  · intro j hj
    rw [getD_countedValues, getD_countedValues, hbefore j hj]
  · rw [getD_countedValues, getD_countedValues, if_neg (Nat.not_le.2 hbeyond), if_pos hword]
    exact hpos

/-- **Versions are compared as lists of numbers, where a number that no word holds is a zero.** That
is the order of the numbers that are written if a word holds each of them. It is the other way
round where, at the first difference, a positive number that fits meets one that does not. -/
theorem compare_dotted (a b : List String) (ha : ∀ part ∈ a, IsNumeral part)
    (hb : ∀ part ∈ b, IsNumeral part) :
    Orders (compare (dotted a) (dotted b)) (countedValues a) (countedValues b) ∧
    ((∀ part ∈ a ++ b, value part.toList ≤ maxWord) →
      Orders (compare (dotted a) (dotted b)) (values a) (values b)) ∧
    (∀ i, (∀ j < i, (values a).getD j 0 = (values b).getD j 0) → 0 < (values a).getD i 0 →
      (values a).getD i 0 ≤ maxWord → maxWord < (values b).getD i 0 →
        Lower (values a) (values b) ∧ compare (dotted a) (dotted b) = .gt) := by
  rw [compare_dotted_eq ha hb]
  have horders := compareParts_orders (countedValues a) (countedValues b)
  refine ⟨horders, ?_, ?_⟩
  · intro hwords
    rw [countedValues_of_le fun part hpart => hwords part (List.mem_append_left b hpart),
      countedValues_of_le fun part hpart => hwords part (List.mem_append_right a hpart)]
    exact compareParts_orders (values a) (values b)
  · intro i hbefore hpos hword hbeyond
    refine ⟨⟨i, hbefore, Nat.lt_of_le_of_lt hword hbeyond⟩, ?_⟩
    exact horders.gt_iff.2 (lower_countedValues hbefore hpos hword hbeyond)

theorem compare_dotted_releases :
    (∀ part ∈ ["6", "1"], IsNumeral part) ∧ (∀ part ∈ ["06", "10"], IsNumeral part) ∧
    compare (dotted ["6", "1"]) (dotted ["06", "10"]) = .lt ∧
    (∀ part ∈ ["18446744073709551616"], IsNumeral part) ∧
    compare (dotted ["6", "1"]) (dotted ["18446744073709551616"]) = .gt := by
  have hold : ∀ part ∈ ["6", "1"], IsNumeral part := by decide
  have hnew : ∀ part ∈ ["06", "10"], IsNumeral part := by decide
  have hhuge : ∀ part ∈ ["18446744073709551616"], IsNumeral part := by decide
  obtain ⟨-, hwords, -⟩ := compare_dotted ["6", "1"] ["06", "10"] hold hnew
  obtain ⟨-, -, hturned⟩ := compare_dotted ["6", "1"] ["18446744073709551616"] hold hhuge
  refine ⟨hold, hnew, (hwords (by decide)).lt_iff.2 ⟨1, by decide, by decide⟩, hhuge, ?_⟩
  exact (hturned 0 (by decide) (by decide) (by decide) (by decide)).2

/-- The first number that no word holds counts as zero, and so as less than six. -/
theorem compare_beyond_word :
    IsNumeral "18446744073709551616" ∧ value "18446744073709551616".toList = 2 ^ 64 ∧
    Lower (values ["6", "1"]) (values ["18446744073709551616"]) ∧
    compare "6.1" "18446744073709551616" = .gt := by
  refine ⟨by decide, by decide, ⟨0, by decide, by decide⟩, ?_⟩
  rw [compare_eq_compare]
  decide

end FeatureSurvey.Version
