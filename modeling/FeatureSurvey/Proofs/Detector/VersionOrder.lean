import Mathlib.Data.List.DropRight
import FeatureSurvey.Detector.Version
import FeatureSurvey.Proofs.Text.Pieces

/-!
# `Proofs/Detector/VersionOrder.lean` — versions in order

The comparison goes on with zeros where one version has no part, so zeros at the end of a version
say nothing. Without them (`significant`) the parts are in the lexicographic order of lists, and
that is all there is to the comparison:

> `compareParts xs ys = Ord.compare (significant xs) (significant ys)`

What the order of lists keeps is kept here too, for every three texts, however many parts they
have and whatever stands in them. **Versions are in a total preorder, and two of them are equal just
when they have the same significant parts** (`compare_totalPreorder`).
-/

set_option autoImplicit false

namespace FeatureSurvey.Version

open Text

variable {a b version front suffix back : String}

/-! ## Parts that count -/

/-- The parts up to the last one that is not zero. -/
def significant (parts : List Nat) : List Nat := parts.rdropWhile (· == 0)

@[simp] theorem significant_nil : significant [] = [] := rfl

theorem significant_cons (n : Nat) (parts : List Nat) :
    significant (n :: parts) =
      if significant parts = [] ∧ n = 0 then [] else n :: significant parts := by
  simp only [significant, List.rdropWhile, List.reverse_cons, List.dropWhile_append,
    List.isEmpty_iff, List.reverse_eq_nil_iff]
  by_cases hparts : List.dropWhile (· == 0) parts.reverse = []
  · by_cases hn : n = 0 <;> simp [hparts, hn]
  · simp [hparts]

@[simp] theorem significant_append_zero (parts : List Nat) :
    significant (parts ++ [0]) = significant parts :=
  List.rdropWhile_concat_pos _ _ _ rfl

/-- A part that is missing counts as a zero. -/
theorem compare_nil_significant_cons (n : Nat) (ys : List Nat) :
    Ord.compare [] (significant (n :: ys)) =
      (Ord.compare 0 n).then (Ord.compare [] (significant ys)) := by
  rw [significant_cons]
  by_cases hn : significant ys = [] ∧ n = 0
  · simp [hn]
  · rw [if_neg hn, List.compare_nil_cons]
    rcases Nat.eq_zero_or_pos n with rfl | hpos
    · -- then something counts further behind
      obtain ⟨y, rest, hys⟩ := List.exists_cons_of_ne_nil fun hys => hn ⟨hys, rfl⟩
      rw [hys, List.compare_nil_cons]
      rfl
    · rw [Nat.compare_eq_lt.2 hpos]
      rfl

theorem compare_significant_cons_nil (m : Nat) (xs : List Nat) :
    Ord.compare (significant (m :: xs)) [] =
      (Ord.compare m 0).then (Ord.compare (significant xs) []) := by
  have hswap : ∀ parts : List Nat, Ord.compare parts [] = (Ord.compare [] parts).swap :=
    fun parts => Std.OrientedCmp.eq_swap
  rw [hswap, compare_nil_significant_cons, Ordering.swap_then, Nat.compare_swap, hswap]

theorem compare_significant_cons (m n : Nat) (xs ys : List Nat) :
    Ord.compare (significant (m :: xs)) (significant (n :: ys)) =
      (Ord.compare m n).then (Ord.compare (significant xs) (significant ys)) := by
  by_cases hm : significant xs = [] ∧ m = 0
  · obtain ⟨hxs, rfl⟩ := hm
    rw [significant_cons 0 xs, if_pos ⟨hxs, rfl⟩, hxs, compare_nil_significant_cons]
  · by_cases hn : significant ys = [] ∧ n = 0
    · obtain ⟨hys, rfl⟩ := hn
      rw [significant_cons 0 ys, if_pos ⟨hys, rfl⟩, hys, compare_significant_cons_nil]
    · rw [significant_cons, significant_cons, if_neg hm, if_neg hn, List.compare_cons_cons]

theorem compareParts_eq_compare (xs ys : List Nat) :
    compareParts xs ys = Ord.compare (significant xs) (significant ys) := by
  fun_induction compareParts xs ys with
  | case1 => rfl
  | case2 m xs ih => rw [ih, significant_nil, compare_significant_cons_nil]
  | case3 n ys ih => rw [ih, significant_nil, compare_nil_significant_cons]
  | case4 m xs n ys ih => rw [ih, compare_significant_cons]

/-! ## The order of versions -/

theorem compare_eq_compare (a b : String) :
    compare a b = Ord.compare (significant (components a)) (significant (components b)) :=
  compareParts_eq_compare _ _

instance : Std.TransCmp compare where
  eq_swap := by
    intro a b
    rw [compare_eq_compare, compare_eq_compare]
    exact Std.OrientedCmp.eq_swap
  isLE_trans := by
    intro a b c hab hbc
    rw [compare_eq_compare] at hab hbc ⊢
    exact Std.TransCmp.isLE_trans hab hbc

theorem compare_eq_eq_iff (a b : String) :
    compare a b = .eq ↔ significant (components a) = significant (components b) := by
  rw [compare_eq_compare, Std.compare_eq_iff_eq]

theorem compare_total (a b : String) : (compare a b).isLE ∨ (compare b a).isLE := by
  have hswap : compare b a = (compare a b).swap := Std.OrientedCmp.eq_swap
  rw [hswap]
  cases compare a b <;> simp

/-- Versions with the same significant parts compare alike with every other. -/
theorem compare_congr (h : significant (components a) = significant (components b)) (c : String) :
    compare a c = compare b c ∧ compare c a = compare c b := by
  simp only [compare_eq_compare, h, and_self]

/-! ## Additions that do not count -/

/-- The version with so many parts `.0` behind it. -/
def withZeros (version : String) : Nat → String
  | 0 => version
  | n + 1 => withZeros version n ++ ".0"

theorem components_append_zero (version : String) :
    components (version ++ ".0") = components version ++ [0] := by
  have htext : (version ++ ".0").toList = version.toList ++ '.' :: ['0'] := by simp
  rw [components, htext, splitChars_append_cons, List.map_append]
  rfl

theorem significant_withZeros (version : String) (n : Nat) :
    significant (components (withZeros version n)) = significant (components version) := by
  induction n with
  | zero => rfl
  | succ n ih => rw [withZeros, components_append_zero, significant_append_zero, ih]

/-- Letters and the like behind the digits of a part: no point, and no digit at the front. -/
structure IsTag (suffix : String) : Prop where
  begins : ∃ c ∈ suffix.toList.head?, c.isDigit = false
  no_point : '.' ∉ suffix.toList

instance (suffix : String) : Decidable (IsTag suffix) :=
  decidable_of_iff (suffix.toList.head?.any (!·.isDigit) = true ∧ '.' ∉ suffix.toList)
    ⟨fun h => ⟨by simpa [Option.any_eq_true] using h.1, h.2⟩,
      fun h => ⟨by simpa [Option.any_eq_true] using h.begins, h.no_point⟩⟩

/-- The end of a part: of the version, or before a point. -/
def AtPoint (back : String) : Prop := ∀ c ∈ back.toList.head?, c = '.'

instance (back : String) : Decidable (AtPoint back) :=
  decidable_of_iff (back.toList.head?.all (· == '.') = true) (by simp [AtPoint, Option.all_eq_true])

theorem IsTag.component_append (h : IsTag suffix) (part : List Char) :
    component (part ++ suffix.toList) = component part := by
  obtain ⟨c, hc, hdigit⟩ := h.begins
  have hbehind : ∀ x ∈ suffix.toList.head?, x.isDigit = false := by
    intro x hx
    rw [Option.mem_unique hx hc]
    exact hdigit
  rw [component, component, takeWhile_append_of_head hbehind]

theorem IsTag.components_append (h : IsTag suffix) (front : String) :
    components (front ++ suffix) = components front := by
  obtain ⟨pieces, last, hpieces⟩ := exists_lastPiece '.' front.toList
  have hfront : splitChars '.' front.toList = pieces ++ [last] := by
    have := hpieces [] List.not_mem_nil
    rwa [List.append_nil, List.append_nil] at this
  rw [components, components, String.toList_append, hpieces _ h.no_point, hfront, List.map_append,
    List.map_append, List.map_singleton, List.map_singleton, h.component_append]

theorem IsTag.components_insert (h : IsTag suffix) (front : String) (hback : AtPoint back) :
    components (front ++ suffix ++ back) = components (front ++ back) := by
  cases hrest : back.toList with
  | nil =>
    obtain rfl : back = "" := String.toList_injective hrest
    rw [String.append_empty, String.append_empty, h.components_append]
  | cons c rest =>
    obtain rfl : c = '.' := hback c (by rw [hrest]; rfl)
    have hparts := h.components_append front
    simp only [components] at hparts ⊢
    rw [String.toList_append, String.toList_append (s := front) (t := back), hrest,
      splitChars_append_cons, splitChars_append_cons, List.map_append, List.map_append, hparts]

/-- **Versions are in a total preorder.** Swapping two of them swaps the answer, to be less or equal
is transitive, and two are equal just when they have the same significant parts. So parts `.0` at
the end and letters behind the digits of a part change no comparison. -/
theorem compare_totalPreorder :
    (∀ a b, compare b a = (compare a b).swap) ∧
    (∀ a b, (compare a b).isLE ∨ (compare b a).isLE) ∧
    (∀ a b c, (compare a b).isLE → (compare b c).isLE → (compare a c).isLE) ∧
    (∀ a b, compare a b = .eq ↔ significant (components a) = significant (components b)) ∧
    (∀ a n other, compare (withZeros a n) other = compare a other ∧
      compare other (withZeros a n) = compare other a) ∧
    (∀ front suffix back other, IsTag suffix → AtPoint back →
      compare (front ++ suffix ++ back) other = compare (front ++ back) other ∧
      compare other (front ++ suffix ++ back) = compare other (front ++ back)) := by
  refine ⟨?_, compare_total, ?_, compare_eq_eq_iff, ?_, ?_⟩
  · intro a b
    exact Std.OrientedCmp.eq_swap
  · intro a b c hab hbc
    exact Std.TransCmp.isLE_trans hab hbc
  · intro a n other
    exact compare_congr (significant_withZeros a n) other
  · intro front suffix back other hsuffix hback
    exact compare_congr (congrArg significant (hsuffix.components_insert front hback)) other

theorem compare_totalPreorder_releases :
    (compare "6.1rc2" "6.1.1").isLE ∧ (compare "6.1.1" "10").isLE ∧ (compare "6.1rc2" "10").isLE ∧
    IsTag "rc2" ∧ AtPoint ".3" ∧
    compare ("6.1" ++ "rc2" ++ ".3") "6.1.2" = compare ("6.1" ++ ".3") "6.1.2" := by
  obtain ⟨-, -, htrans, -, -, htag⟩ := compare_totalPreorder
  have hle : (compare "6.1rc2" "6.1.1").isLE := by
    rw [compare_eq_compare]
    decide
  have hle' : (compare "6.1.1" "10").isLE := by
    rw [compare_eq_compare]
    decide
  have hrc : IsTag "rc2" := by decide
  have hpoint : AtPoint ".3" := by decide
  exact ⟨hle, hle', htrans _ _ _ hle hle', hrc, hpoint, (htag "6.1" "rc2" ".3" _ hrc hpoint).1⟩

end FeatureSurvey.Version
