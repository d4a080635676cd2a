import Mathlib.Data.List.Nodup
import FeatureSurvey.Batch.Provider
import FeatureSurvey.Proofs.Text.Plain
import FeatureSurvey.Proofs.Text.Words

/-!
# `Proofs/Batch/Substitution.lean` — what a filled template says

A placeholder that stands in a template is to be read as its value, and everything else as it is
(`Fills`). That is a rule about the template alone: it does not ask in which order the values are
given (`Fills.perm`), and there is one text that it allows (`exists_fills`, `Fills.unique`).

The names are replaced one after another instead, so each but the first is looked for in what the
earlier values have made of the template. That is the same as long as they have not made a
placeholder of it (`Undisturbed`), and otherwise it is not: **a value is put in where it belongs
just when its placeholder stands there as often as in the template, or the value is this very
placeholder** (`fills_replaced_iff`). Values without an opening brace disturb nothing in a template
that has opening braces in its placeholders only (`Tidy.undisturbed`).

The argument cuts a text at the placeholders of one name (`Parted`). Names have no braces, so no
placeholder reaches into another one or across an opening brace, and what is filled on one side of
such a brace does not depend on the other.
-/

set_option autoImplicit false

namespace FeatureSurvey.Template

open Text (replaceFrom)

variable {name name' value : String} {values done : List (String × String)}
variable {c : Char} {xs cs rest out filled : List Char}

/-! ## Placeholders -/

/-- The characters of a placeholder. -/
def mark (name : String) : List Char := (placeholder name).toList

theorem mark_eq (name : String) : mark name = '\x7b' :: (name.toList ++ ['\x7d']) := by
  simp [mark, placeholder]

theorem mark_append (name : String) (rest : List Char) :
    mark name ++ rest = '\x7b' :: ((name.toList ++ ['\x7d']) ++ rest) := by
  rw [mark_eq, List.cons_append]

theorem length_lt_mark_append (name : String) (rest : List Char) :
    rest.length < (mark name ++ rest).length := by
  rw [mark_append, List.length_cons, List.length_append]
  omega

def Braceless (name : String) : Prop := '\x7b' ∉ name.toList ∧ '\x7d' ∉ name.toList

theorem Braceless.not_mem (h : Braceless name) : '\x7b' ∉ name.toList ++ ['\x7d'] := by simp [h.1]

/-- Each name has one value, and no name has a brace in it. -/
structure Distinct (values : List (String × String)) : Prop where
  nodup : (values.map (·.1)).Nodup
  braceless : ∀ entry ∈ values, Braceless entry.1

instance (name : String) : Decidable (Braceless name) :=
  inferInstanceAs (Decidable ('\x7b' ∉ name.toList ∧ '\x7d' ∉ name.toList))

instance (values : List (String × String)) : Decidable (Distinct values) :=
  decidable_of_iff ((values.map (·.1)).Nodup ∧ ∀ entry ∈ values, Braceless entry.1)
    ⟨fun h => ⟨h.1, h.2⟩, fun h => ⟨h.nodup, h.braceless⟩⟩

theorem mark_append_inj {rest' : List Char} (h : Braceless name) (h' : Braceless name')
    (heq : mark name ++ rest = mark name' ++ rest') : name = name' ∧ rest = rest' := by
  simp only [mark_eq, List.cons_append, List.append_assoc, List.nil_append, List.cons.injEq,
    true_and] at heq
  obtain ⟨hname, hrest⟩ := Text.append_cons_inj h.2 h'.2 heq
  exact ⟨String.toList_inj.1 hname, hrest⟩

theorem mark_not_front (h : c ≠ '\x7b') : ¬ mark name <+: c :: cs := by
  rw [mark_eq, List.cons_prefix_cons]
  exact fun hmark => h hmark.1.symm

/-- No placeholder reaches across an opening brace. -/
theorem mark_prefix_append_iff (h : Braceless name) :
    mark name <+: (c :: cs) ++ '\x7b' :: rest ↔ mark name <+: c :: cs := by
  rw [mark_eq, List.cons_append, List.cons_prefix_cons, List.cons_prefix_cons,
    Text.prefix_append_cons_iff h.not_mem]

theorem Distinct.value_unique {v : String} (h : Distinct values) (hv : (name, value) ∈ values)
    (hv' : (name, v) ∈ values) : value = v :=
  congrArg Prod.snd (List.inj_on_of_nodup_map h.nodup hv hv' rfl)

theorem Distinct.of_append {more : List (String × String)} (h : Distinct (done ++ more)) :
    Distinct done where
  nodup := (List.nodup_append.1 (by simpa using h.nodup)).1
  braceless entry hentry := h.braceless entry (List.mem_append_left _ hentry)

theorem Distinct.perm {values' : List (String × String)} (h : Distinct values)
    (hperm : values'.Perm values) : Distinct values' where
  nodup := (hperm.map _).nodup_iff.2 h.nodup
  braceless entry hentry := h.braceless entry (hperm.subset hentry)

theorem Distinct.not_mem {more : List (String × String)}
    (h : Distinct (done ++ (name, value) :: more)) : ∀ entry ∈ done, entry.1 ≠ name := by
  intro entry hentry heq
  have hnodup := h.nodup
  rw [List.map_append, List.map_cons] at hnodup
  exact (List.nodup_append.1 hnodup).2.2 entry.1 (List.mem_map_of_mem hentry) name
    List.mem_cons_self heq

/-! ## Filling -/

/-- `out` is the text with the value in the place of each placeholder, and nothing else changed. -/
inductive Fills (values : List (String × String)) : List Char → List Char → Prop
  | nil : Fills values [] []
  | place {name value : String} {rest out : List Char} (mem : (name, value) ∈ values)
      (fills : Fills values rest out) : Fills values (mark name ++ rest) (value.toList ++ out)
  | char {c : Char} {rest out : List Char} (plain : ∀ entry ∈ values, ¬ mark entry.1 <+: c :: rest)
      (fills : Fills values rest out) : Fills values (c :: rest) (c :: out)

theorem Fills.perm {values' : List (String × String)} (hperm : values'.Perm values)
    (h : Fills values cs out) : Fills values' cs out := by
  induction h with
  | nil => exact .nil
  | place mem _ ih => exact .place (hperm.symm.subset mem) ih
  | char plain _ ih => exact .char (fun entry hentry => plain entry (hperm.subset hentry)) ih

theorem exists_fills (values : List (String × String)) (cs : List Char) :
    ∃ out, Fills values cs out := by
  induction hlength : cs.length using Nat.strong_induction_on generalizing cs with
  | _ n ih =>
    cases cs with
    | nil => exact ⟨[], .nil⟩
    | cons c cs =>
      by_cases hplain : ∀ entry ∈ values, ¬ mark entry.1 <+: c :: cs
      · obtain ⟨out, hout⟩ := ih cs.length (by simp [← hlength]) cs rfl
        exact ⟨c :: out, .char hplain hout⟩
      · push Not at hplain
        obtain ⟨⟨name, value⟩, hmem, rest, hrest⟩ := hplain
        have hshort : rest.length < n := by
          rw [← hlength, ← hrest]
          exact length_lt_mark_append name rest
        obtain ⟨out, hout⟩ := ih rest.length hshort rest rfl
        exact ⟨value.toList ++ out, hrest ▸ .place hmem hout⟩

theorem Fills.of_nil (h : Fills values [] out) : out = [] := by
  generalize hcs : ([] : List Char) = cs at h
  cases h with
  | nil => rfl
  | place mem fills => simp [mark_eq] at hcs
  | char _ fills => cases hcs

theorem Fills.of_char (plain : ∀ entry ∈ values, ¬ mark entry.1 <+: c :: rest)
    (h : Fills values (c :: rest) out) : ∃ o, out = c :: o ∧ Fills values rest o := by
  generalize hcs : c :: rest = cs at h
  cases h with
  | nil => cases hcs
  | place mem fills => exact absurd (hcs ▸ List.prefix_append _ _) (plain _ mem)
  | char _ fills =>
    obtain ⟨rfl, rfl⟩ := List.cons.inj hcs
    exact ⟨_, rfl, fills⟩

theorem Fills.of_mark (hv : Distinct values) (mem : (name, value) ∈ values)
    (h : Fills values (mark name ++ rest) out) :
    ∃ o, out = value.toList ++ o ∧ Fills values rest o := by
  generalize hcs : mark name ++ rest = cs at h
  cases h with
  | nil => simp [mark_eq] at hcs
  | place mem' fills =>
    obtain ⟨rfl, rfl⟩ := mark_append_inj (hv.braceless _ mem) (hv.braceless _ mem') hcs
    exact ⟨_, by rw [hv.value_unique mem mem'], fills⟩
  | char plain fills => exact absurd (hcs ▸ List.prefix_append _ _) (plain _ mem)

/-- **There is one way to fill a text.** -/
theorem Fills.unique {out' : List Char} (hv : Distinct values) (h : Fills values cs out)
    (h' : Fills values cs out') : out = out' := by
  induction h generalizing out' with
  | nil => exact h'.of_nil.symm
  | place mem _ ih =>
    obtain ⟨o, rfl, ho⟩ := h'.of_mark hv mem
    rw [ih ho]
  | char plain _ ih =>
    obtain ⟨o, rfl, ho⟩ := h'.of_char plain
    rw [ih ho]

/-- What stands before the first opening brace is copied. -/
theorem Fills.of_front (hxs : '\x7b' ∉ xs) (h : Fills values (xs ++ rest) out) :
    ∃ o, out = xs ++ o ∧ Fills values rest o := by
  induction xs generalizing out with
  | nil => exact ⟨out, rfl, h⟩
  | cons x xs ih =>
    obtain ⟨hx, hxs⟩ := List.ne_and_not_mem_of_not_mem_cons hxs
    obtain ⟨o, rfl, ho⟩ := h.of_char fun entry _ => mark_not_front hx.symm
    obtain ⟨o', rfl, ho'⟩ := ih hxs ho
    exact ⟨o', rfl, ho'⟩

theorem Fills.front (hxs : '\x7b' ∉ xs) (h : Fills values rest out) :
    Fills values (xs ++ rest) (xs ++ out) := by
  induction xs with
  | nil => exact h
  | cons x xs ih =>
    obtain ⟨hx, hxs⟩ := List.ne_and_not_mem_of_not_mem_cons hxs
    exact .char (fun entry _ => mark_not_front hx.symm) (ih hxs)

/-- The placeholder of a name without a value is copied. -/
theorem Fills.other (hv : Distinct values) (hname : Braceless name)
    (hnot : ∀ entry ∈ values, entry.1 ≠ name) (h : Fills values rest out) :
    Fills values (mark name ++ rest) (mark name ++ out) := by
  rw [mark_append, mark_append]
  refine .char (fun entry hentry hmark => ?_) (h.front hname.not_mem)
  obtain ⟨rest', hrest'⟩ := hmark
  rw [← mark_append] at hrest'
  exact hnot entry hentry (mark_append_inj (hv.braceless entry hentry) hname hrest').1

/-- What is filled before an opening brace does not depend on what follows. -/
theorem Fills.append {o : List Char} (hv : Distinct values) (h : Fills values cs out)
    (ho : Fills values ('\x7b' :: rest) o) :
    Fills values (cs ++ '\x7b' :: rest) (out ++ o) := by
  induction h with
  | nil => exact ho
  | place mem _ ih =>
    rw [List.append_assoc, List.append_assoc]
    exact .place mem ih
  | char plain _ ih =>
    refine .char (fun entry hentry hmark => plain entry hentry ?_) ih
    exact (mark_prefix_append_iff (hv.braceless entry hentry)).1 hmark

/-! ## Counting placeholders -/

/-- At how many places a name's placeholder stands. -/
def standing (name : String) : List Char → Nat
  | [] => 0
  | c :: cs => standing name cs + if (mark name).isPrefixOf (c :: cs) then 1 else 0

theorem standing_cons_of_mark (h : mark name <+: c :: cs) :
    standing name (c :: cs) = standing name cs + 1 := by
  simp [standing, List.isPrefixOf_iff_prefix.2 h]

theorem standing_cons_of_plain (h : ¬ mark name <+: c :: cs) :
    standing name (c :: cs) = standing name cs := by
  have hfalse : (mark name).isPrefixOf (c :: cs) = false :=
    Bool.eq_false_iff.2 fun htrue => h (List.isPrefixOf_iff_prefix.1 htrue)
  simp [standing, hfalse]

theorem standing_front (hxs : '\x7b' ∉ xs) : standing name (xs ++ rest) = standing name rest := by
  induction xs with
  | nil => rfl
  | cons x xs ih =>
    obtain ⟨hx, hxs⟩ := List.ne_and_not_mem_of_not_mem_cons hxs
    rw [List.cons_append, standing_cons_of_plain (mark_not_front hx.symm), ih hxs]

theorem standing_mark (h : Braceless name) :
    standing name (mark name ++ rest) = standing name rest + 1 := by
  have hprefix : mark name <+: mark name ++ rest := List.prefix_append _ _
  rw [mark_append] at hprefix ⊢
  rw [standing_cons_of_mark hprefix, standing_front h.not_mem]

theorem standing_append (h : Braceless name) :
    standing name (cs ++ '\x7b' :: rest) = standing name cs + standing name ('\x7b' :: rest) := by
  induction cs with
  | nil => simp [standing]
  | cons c cs ih =>
    have hacross : mark name <+: c :: (cs ++ '\x7b' :: rest) ↔ mark name <+: c :: cs :=
      mark_prefix_append_iff h
    rw [List.cons_append]
    by_cases hmark : mark name <+: c :: cs
    · rw [standing_cons_of_mark hmark, standing_cons_of_mark (hacross.2 hmark), ih]
      omega
    · rw [standing_cons_of_plain hmark, standing_cons_of_plain (mt hacross.1 hmark), ih]

theorem standing_append_mark (h : Braceless name) :
    standing name (cs ++ (mark name ++ rest)) = standing name cs + (standing name rest + 1) := by
  rw [← standing_mark h, mark_append, standing_append h]

theorem standing_le_append : standing name rest ≤ standing name (xs ++ rest) := by
  induction xs with
  | nil => rfl
  | cons x xs ih =>
    rw [List.cons_append, standing]
    omega

/-- The first of the places. -/
theorem exists_first (h : standing name cs ≠ 0) :
    ∃ front rest, cs = front ++ (mark name ++ rest) ∧ standing name front = 0 := by
  induction cs with
  | nil => exact absurd rfl h
  | cons c cs ih =>
    by_cases hmark : mark name <+: c :: cs
    · obtain ⟨rest, hrest⟩ := hmark
      exact ⟨[], rest, hrest.symm, rfl⟩
    · rw [standing_cons_of_plain hmark] at h
      obtain ⟨front, rest, rfl, hfront⟩ := ih h
      refine ⟨c :: front, rest, rfl, ?_⟩
      rw [standing_cons_of_plain, hfront]
      exact fun hshort => hmark (hshort.trans (List.prefix_append (c :: front) _))

/-- A text is cut at the placeholders of one name. -/
@[elab_as_elim]
theorem marks_induction (name : String) {motive : List Char → Prop}
    (last : ∀ cs, standing name cs = 0 → motive cs)
    (more : ∀ front rest, standing name front = 0 → motive rest →
      motive (front ++ (mark name ++ rest)))
    (cs : List Char) : motive cs := by
  induction hlength : cs.length using Nat.strong_induction_on generalizing cs with
  | _ n ih =>
    by_cases hstanding : standing name cs = 0
    · exact last cs hstanding
    · obtain ⟨front, rest, rfl, hfront⟩ := exists_first hstanding
      have hshort : rest.length < n := by
        rw [← hlength, List.length_append]
        exact Nat.lt_add_left _ (length_lt_mark_append name rest)
      exact more front rest hfront (ih rest.length hshort rest rfl)

/-! ## Replacing one name -/

/-- What replacing a placeholder makes of a text. -/
def replaced (name value : String) (cs : List Char) : List Char :=
  replaceFrom (mark name) value.toList 0 cs

theorem toList_replace (word name value : String) :
    (Text.replace word (placeholder name) value).toList = replaced name value word.toList := by
  simp [Text.replace, replaced, mark]

theorem replaceFrom_length_append (pat v : List Char) :
    replaceFrom pat v xs.length (xs ++ rest) = replaceFrom pat v 0 rest := by
  induction xs with
  | nil => rfl
  | cons x xs ih => exact ih

/-- Replacing is filling with one value. -/
theorem fills_replaced (name value : String) (cs : List Char) :
    Fills [(name, value)] cs (replaced name value cs) := by
  induction hlength : cs.length using Nat.strong_induction_on generalizing cs with
  | _ n ih =>
    cases cs with
    | nil => exact .nil
    | cons c cs =>
      by_cases hmark : mark name <+: c :: cs
      · obtain ⟨rest, hrest⟩ := hmark
        have hcs : cs = (name.toList ++ ['\x7d']) ++ rest := by
          rw [mark_append] at hrest
          exact (List.cons.inj hrest).2.symm
        have hskip : (mark name).length - 1 = (name.toList ++ ['\x7d']).length := by
          simp [mark_eq]
        have hstep : replaced name value (c :: cs) = value.toList ++ replaced name value rest := by
          rw [replaced, replaceFrom, if_pos (List.isPrefixOf_iff_prefix.2 ⟨rest, hrest⟩), hskip,
            hcs, replaceFrom_length_append, replaced]
        have hshort : rest.length < n := by
          rw [← hlength, ← hrest]
          exact length_lt_mark_append name rest
        rw [hstep, ← hrest]
        exact .place List.mem_cons_self (ih rest.length hshort rest rfl)
      · have hstep : replaced name value (c :: cs) = c :: replaced name value cs := by
          rw [replaced, replaceFrom, if_neg (mt List.isPrefixOf_iff_prefix.1 hmark), replaced]
        rw [hstep]
        refine .char ?_ (ih cs.length (by simp [← hlength]) cs rfl)
        simpa using hmark

theorem distinct_single (h : Braceless name) : Distinct [(name, value)] where
  nodup := List.nodup_singleton name
  braceless entry hentry := by
    obtain rfl := List.mem_singleton.1 hentry
    exact h

theorem fills_without_values (cs : List Char) : Fills [] cs cs := by
  induction cs with
  | nil => exact .nil
  | cons c cs ih => exact .char (by simp) ih

theorem Fills.append_mark {o : List Char} (hv : Distinct values) (h : Fills values cs out)
    (ho : Fills values (mark name ++ rest) o) :
    Fills values (cs ++ (mark name ++ rest)) (out ++ o) := by
  rw [mark_append] at ho ⊢
  exact h.append hv ho

theorem replaced_eq_of_fills (h : Braceless name) (hout : Fills [(name, value)] cs out) :
    replaced name value cs = out :=
  (fills_replaced name value cs).unique (distinct_single h) hout

/-! ## One more name

`done` holds the values that were put in before, and `filled` is what they have made of the text. -/

/-- The text is cut at the placeholders of the name. What stands between them is filled with the
earlier values, and `out` has the value in the placeholders' stead. -/
inductive Parted (done : List (String × String)) (name value : String) :
    List Char → List Char → List Char → Prop
  | last {cs filled : List Char} (none : standing name cs = 0) (fills : Fills done cs filled) :
      Parted done name value cs filled filled
  | more {cs filled rest restFilled out : List Char} (none : standing name cs = 0)
      (fills : Fills done cs filled) (parted : Parted done name value rest restFilled out) :
      Parted done name value (cs ++ (mark name ++ rest)) (filled ++ (mark name ++ restFilled))
        (filled ++ (value.toList ++ out))

theorem exists_parted (done : List (String × String)) (name value : String) (cs : List Char) :
    ∃ filled out, Parted done name value cs filled out := by
  induction cs using marks_induction name with
  | last cs hnone =>
    obtain ⟨filled, hfilled⟩ := exists_fills done cs
    exact ⟨filled, filled, .last hnone hfilled⟩
  | more front rest hnone ih =>
    obtain ⟨filled, hfilled⟩ := exists_fills done front
    obtain ⟨restFilled, out, hparted⟩ := ih
    exact ⟨_, _, .more hnone hfilled hparted⟩

/-- A value for a name that stands nowhere changes nothing. -/
theorem Fills.snoc_of_none (hnone : standing name cs = 0) (h : Fills done cs out) :
    Fills (done ++ [(name, value)]) cs out := by
  induction h with
  | nil => exact .nil
  | place mem _ ih =>
    refine .place (List.mem_append_left _ mem) (ih (Nat.eq_zero_of_le_zero ?_))
    exact standing_le_append.trans_eq hnone
  | @char c rest out plain _ ih =>
    have hnot : ¬ mark name <+: c :: rest := by
      intro hmark
      rw [standing_cons_of_mark hmark] at hnone
      cases hnone
    rw [standing_cons_of_plain hnot] at hnone
    refine .char (fun entry hentry => ?_) (ih hnone)
    rcases List.mem_append.1 hentry with hentry | hentry
    · exact plain entry hentry
    · obtain rfl := List.mem_singleton.1 hentry
      exact hnot

theorem replaced_of_none (h : Braceless name) (hnone : standing name cs = 0) :
    replaced name value cs = cs :=
  replaced_eq_of_fills h ((fills_without_values cs).snoc_of_none hnone)

theorem replaced_append_mark (h : Braceless name) :
    replaced name value (cs ++ (mark name ++ rest)) =
      replaced name value cs ++ (value.toList ++ replaced name value rest) :=
  replaced_eq_of_fills h ((fills_replaced name value cs).append_mark (distinct_single h)
    (.place List.mem_cons_self (fills_replaced name value rest)))

namespace Parted

theorem fills_done (hv : Distinct done) (hname : Braceless name)
    (hnot : ∀ entry ∈ done, entry.1 ≠ name) (h : Parted done name value cs filled out) :
    Fills done cs filled := by
  induction h with
  | last _ fills => exact fills
  | more _ fills _ ih => exact fills.append_mark hv (ih.other hv hname hnot)

theorem fills_snoc (hv : Distinct (done ++ [(name, value)]))
    (h : Parted done name value cs filled out) : Fills (done ++ [(name, value)]) cs out := by
  have hmem : (name, value) ∈ done ++ [(name, value)] := by simp
  induction h with
  | last none fills => exact fills.snoc_of_none none
  | more none fills _ ih => exact (fills.snoc_of_none none).append_mark hv (.place hmem ih)

/-- Replacing a placeholder by itself changes nothing. -/
theorem eq_of_mark (hvalue : value.toList = mark name)
    (h : Parted done name value cs filled out) : out = filled := by
  induction h with
  | last _ _ => rfl
  | more _ _ _ ih => rw [hvalue, ih]

section Counting

variable (hname : Braceless name)

include hname

theorem standing_le (h : Parted done name value cs filled out) :
    standing name cs ≤ standing name filled := by
  induction h with
  | last none _ => omega
  | more none _ _ ih =>
    rw [standing_append_mark hname, standing_append_mark hname]
    omega

/-- If the name stands no more often than before, the value is put in where it belongs. -/
theorem replaced_eq (h : Parted done name value cs filled out)
    (hcount : standing name filled = standing name cs) : replaced name value filled = out := by
  induction h with
  | last none _ => exact replaced_of_none hname (hcount.trans none)
  | @more cs filled rest restFilled out none _ parted ih =>
    rw [standing_append_mark hname, standing_append_mark hname] at hcount
    have hle := parted.standing_le hname
    have hfront : standing name filled = 0 := by omega
    have hrest : standing name restFilled = standing name rest := by omega
    rw [replaced_append_mark hname, replaced_of_none hname hfront, ih hrest]

theorem length_out (h : Parted done name value cs filled out) :
    out.length + standing name cs * (mark name).length =
      filled.length + standing name cs * value.toList.length := by
  induction h with
  | last none _ => rw [none, Nat.zero_mul, Nat.zero_mul]
  | more none _ _ ih =>
    rw [standing_append_mark hname, none]
    simp only [List.length_append, Nat.zero_add, Nat.add_mul, Nat.one_mul] at ih ⊢
    omega

end Counting

end Parted

/-- Where nothing was put in before, replacing is right. -/
theorem parted_replaced (h : Braceless name) (value : String) (cs : List Char) :
    Parted [] name value cs cs (replaced name value cs) := by
  obtain ⟨filled, out, hparted⟩ := exists_parted [] name value cs
  have hempty : Distinct [] := ⟨List.nodup_nil, by simp⟩
  have hfilled : filled = cs :=
    (hparted.fills_done hempty h (by simp)).unique hempty (fills_without_values cs)
  subst hfilled
  rwa [hparted.replaced_eq h rfl]

/-- A text that is left as it was although the value is as long as the placeholder has no such
placeholder, or the value is the placeholder. -/
theorem eq_mark_of_replaced_eq_self (h : Braceless name)
    (hlength : value.toList.length = (mark name).length) (hself : replaced name value cs = cs) :
    standing name cs = 0 ∨ value.toList = mark name := by
  by_cases hnone : standing name cs = 0
  · exact .inl hnone
  · obtain ⟨front, rest, rfl, hfront⟩ := exists_first hnone
    rw [replaced_append_mark h, replaced_of_none h hfront] at hself
    exact .inr (List.append_inj_left (List.append_cancel_left hself) hlength)

/-- Putting in too much shows, also if the value is as long as the placeholder. -/
theorem Parted.eq_mark_of_replaced_eq (hname : Braceless name)
    (hlength : value.toList.length = (mark name).length)
    (h : Parted done name value cs filled out) (heq : replaced name value filled = out) :
    standing name filled = standing name cs ∨ value.toList = mark name := by
  induction h with
  | last none _ =>
    rw [none]
    exact eq_mark_of_replaced_eq_self hname hlength heq
  | @more cs filled rest restFilled out none _ parted ih =>
    have hfilled : (replaced name value filled).length = filled.length := by
      have hlengths := (parted_replaced hname value filled).length_out hname
      rw [hlength] at hlengths
      omega
    rw [replaced_append_mark hname] at heq
    obtain ⟨hfront, hrest⟩ := List.append_inj heq hfilled
    rcases eq_mark_of_replaced_eq_self hname hlength hfront with hzero | hmark
    · rcases ih (List.append_cancel_left hrest) with hcount | hmark
      · rw [standing_append_mark hname, standing_append_mark hname, hzero, none, hcount]
        exact .inl rfl
      · exact .inr hmark
    · exact .inr hmark

/-- **The last value is put in where it belongs just when its placeholder stands there as often as
in the text**, or when it is this placeholder itself. -/
theorem fills_replaced_iff (hv : Distinct (done ++ [(name, value)])) (h : Fills done cs filled) :
    Fills (done ++ [(name, value)]) cs (replaced name value filled) ↔
      standing name filled = standing name cs ∨ value.toList = mark name := by
  have hname : Braceless name := hv.braceless (name, value) (by simp)
  obtain ⟨filled', out, hparted⟩ := exists_parted done name value cs
  obtain rfl : filled' = filled :=
    (hparted.fills_done hv.of_append hname hv.not_mem).unique hv.of_append h
  have hout := hparted.fills_snoc hv
  constructor
  · intro hreplaced
    have heq : replaced name value filled' = out := hreplaced.unique hv hout
    by_cases hcount : standing name filled' = standing name cs
    · exact .inl hcount
    · -- the lengths agree, so a placeholder too many was paid for by a value of its own length
      have hlengths := (parted_replaced hname value filled').length_out hname
      have hlengthOut := hparted.length_out hname
      have hle := hparted.standing_le hname
      rw [heq] at hlengths
      obtain ⟨k, hk⟩ := Nat.exists_eq_add_of_le hle
      have hlength : value.toList.length = (mark name).length := by
        rw [hk, Nat.add_mul, Nat.add_mul] at hlengths
        have hmul : k * (mark name).length = k * value.toList.length := by omega
        exact (Nat.eq_of_mul_eq_mul_left (by omega) hmul).symm
      exact hparted.eq_mark_of_replaced_eq hname hlength heq
  · rintro (hcount | hvalue)
    · rwa [hparted.replaced_eq hname hcount]
    · rwa [(parted_replaced hname value filled').eq_of_mark hvalue, ← hparted.eq_of_mark hvalue]

/-! ## One name after another -/

theorem fill_snoc (word : String) (done : List (String × String)) (name value : String) :
    fill word (done ++ [(name, value)]) =
      Text.replace (fill word done) (placeholder name) value := by
  simp [fill]

/-- No value put in makes a placeholder for one that is still to come. -/
def Undisturbed (values : List (String × String)) (word : String) : Prop :=
  ∀ done name value rest, values = done ++ (name, value) :: rest →
    standing name (fill word done).toList = standing name word.toList

theorem Undisturbed.of_append {word : String} {more : List (String × String)}
    (h : Undisturbed (done ++ more) word) : Undisturbed done word := by
  rintro before name value rest rfl
  exact h before name value (rest ++ more) (by simp)

theorem Undisturbed.fills {word : String} (h : Undisturbed values word) (hv : Distinct values) :
    Fills values word.toList (fill word values).toList := by
  induction values using List.reverseRecOn with
  | nil => exact fills_without_values word.toList
  | append_singleton done entry ih =>
    obtain ⟨name, value⟩ := entry
    rw [fill_snoc, toList_replace, fills_replaced_iff hv (ih h.of_append hv.of_append)]
    exact .inl (h done name value [] rfl)

theorem fill_snoc_iff {word : String} (hv : Distinct (done ++ [(name, value)]))
    (h : Undisturbed done word) :
    Fills (done ++ [(name, value)]) word.toList (fill word (done ++ [(name, value)])).toList ↔
      standing name (fill word done).toList = standing name word.toList ∨
        value = placeholder name := by
  rw [fill_snoc, toList_replace, fills_replaced_iff hv (h.fills hv.of_append), mark,
    String.toList_inj]

theorem undisturbed_single (name value word : String) : Undisturbed [(name, value)] word := by
  intro done other v rest h
  cases done with
  | nil => rfl
  | cons entry done => simp at h

/-- The opening braces of the text belong to placeholders, and the values have none. -/
structure Tidy (values : List (String × String)) (cs : List Char) : Prop where
  marks : ∀ rest, '\x7b' :: rest <:+ cs → ∃ entry ∈ values, mark entry.1 <+: '\x7b' :: rest
  plain : ∀ entry ∈ values, '\x7b' ∉ entry.2.toList

instance (values : List (String × String)) (cs : List Char) : Decidable (Tidy values cs) :=
  decidable_of_iff
    ((∀ rest ∈ cs.tails, rest.head? = some '\x7b' → ∃ entry ∈ values, mark entry.1 <+: rest) ∧
      ∀ entry ∈ values, '\x7b' ∉ entry.2.toList)
    ⟨fun h => ⟨fun rest hrest => h.1 _ ((List.mem_tails _ _).2 hrest) rfl, h.2⟩,
      fun h => ⟨fun rest hrest hhead => by
        obtain ⟨back, rfl⟩ := List.head?_eq_some_iff.1 hhead
        exact h.marks back ((List.mem_tails _ _).1 hrest), h.plain⟩⟩

theorem Tidy.of_append (xs : List Char) (h : Tidy values (xs ++ rest)) : Tidy values rest where
  marks back hback := h.marks back (hback.trans (List.suffix_append xs rest))
  plain := h.plain

theorem Tidy.perm {values' : List (String × String)} (h : Tidy values cs)
    (hperm : values'.Perm values) : Tidy values' cs where
  marks rest hrest := by
    obtain ⟨entry, hentry, hmark⟩ := h.marks rest hrest
    exact ⟨entry, hperm.symm.subset hentry, hmark⟩
  plain entry hentry := h.plain entry (hperm.subset hentry)

/-- Filling some of the names leaves the placeholders of the others as they are, and makes none. -/
theorem Tidy.standing_eq (h : Tidy values cs) (hv : Distinct values) (hdone : done ⊆ values)
    (hname : Braceless name) (hnot : ∀ entry ∈ done, entry.1 ≠ name)
    (hfills : Fills done cs filled) : standing name filled = standing name cs := by
  induction hfills with
  | nil => rfl
  | @place other value rest out mem _ ih =>
    have hother : Braceless other := hv.braceless _ (hdone mem)
    have hmark : ¬ mark name <+: mark other ++ rest := by
      rintro ⟨rest', heq⟩
      exact hnot _ mem (mark_append_inj hname hother heq).1.symm
    rw [standing_front (h.plain _ (hdone mem)), ih (h.of_append (mark other))]
    rw [mark_append] at hmark ⊢
    rw [standing_cons_of_plain hmark, standing_front hother.not_mem]
  | @char c rest out plain fills ih =>
    have hrest : standing name out = standing name rest := ih (h.of_append [c])
    -- a placeholder that begins here stands there as it was: it has no other brace in it
    have hsame : mark name <+: c :: out ↔ mark name <+: c :: rest := by
      by_cases hc : c = '\x7b'
      · subst hc
        obtain ⟨entry, hentry, back, hback⟩ := h.marks rest List.suffix_rfl
        have hcopy : rest = (entry.1.toList ++ ['\x7d']) ++ back := by
          rw [mark_append] at hback
          exact (List.cons.inj hback).2.symm
        rw [hcopy] at fills
        obtain ⟨o, rfl, -⟩ := fills.of_front (hv.braceless entry hentry).not_mem
        rw [hcopy, ← mark_append, ← mark_append]
        constructor
        all_goals
          rintro ⟨back', heq⟩
          obtain ⟨rfl, -⟩ := mark_append_inj hname (hv.braceless entry hentry) heq
          exact List.prefix_append _ _
      · exact iff_of_false (mark_not_front hc) (mark_not_front hc)
    by_cases hmark : mark name <+: c :: rest
    · rw [standing_cons_of_mark hmark, standing_cons_of_mark (hsame.2 hmark), hrest]
    · rw [standing_cons_of_plain hmark, standing_cons_of_plain (mt hsame.1 hmark), hrest]

theorem Tidy.undisturbed {word : String} (h : Tidy values word.toList) (hv : Distinct values) :
    Undisturbed values word := by
  -- the longer front is filled as it should be since the shorter ones were
  suffices hfront : ∀ done more, values = done ++ more → Undisturbed done word by
    exact hfront values [] (List.append_nil values).symm
  intro done
  induction done using List.reverseRecOn with
  | nil =>
    intro more _ done name value rest h
    simp at h
  | append_singleton done entry ih =>
    obtain ⟨name, value⟩ := entry
    intro more hvalues
    have hsplit : values = done ++ (name, value) :: more := by simp [hvalues]
    have hdone : Undisturbed done word := ih _ hsplit
    have hdistinct : Distinct (done ++ (name, value) :: more) := hsplit ▸ hv
    have hcount : standing name (fill word done).toList = standing name word.toList := by
      refine h.standing_eq hv (hsplit ▸ List.subset_append_left _ _) ?_ hdistinct.not_mem
        (hdone.fills hdistinct.of_append)
      exact hdistinct.braceless (name, value) (by simp)
    intro before name' value' rest heq
    rcases List.eq_nil_or_concat rest with rfl | ⟨rest, last, rfl⟩
    · obtain ⟨rfl, hlast⟩ := List.append_inj' heq rfl
      obtain ⟨rfl, rfl⟩ := Prod.mk.inj (List.singleton_inj.1 hlast)
      exact hcount
    · have heq' : done ++ [(name, value)] = (before ++ (name', value') :: rest) ++ [last] := by
        simp [heq]
      exact hdone before name' value' rest (List.append_inj' heq' rfl).1

/-- With two values, the second is the only one that can go wrong. -/
theorem fill_pair_iff (word : String) {first second : String × String}
    (hv : Distinct [first, second]) :
    Fills [first, second] word.toList (fill word [first, second]).toList ↔
      standing second.1 (fill word [first]).toList = standing second.1 word.toList ∨
        second.2 = placeholder second.1 :=
  fill_snoc_iff hv (undisturbed_single first.1 first.2 word)

theorem distinct_packageValues (info : PackageInfo) :
    Distinct (CommandProvider.packageValues info) where
  nodup := by simp [CommandProvider.packageValues]
  braceless entry hentry := by
    have hnames : ∀ name ∈ ["package", "version"], Braceless name := by decide
    exact hnames entry.1 (List.mem_map_of_mem hentry)

/-- A word of a download says what it should unless the name of the package makes a placeholder of
its version. -/
theorem fill_packageValues_iff (info : PackageInfo) (word : String) :
    Fills (CommandProvider.packageValues info) word.toList
        (fill word (CommandProvider.packageValues info)).toList ↔
      standing "version" (fill word [("package", info.name)]).toList =
          standing "version" word.toList ∨
        info.version = placeholder "version" :=
  fill_pair_iff word (distinct_packageValues info)

theorem fill_eq_of_perm {values' : List (String × String)} {word : String} (hv : Distinct values)
    (hperm : values'.Perm values) (h : Undisturbed values word) (h' : Undisturbed values' word) :
    fill word values' = fill word values := by
  have hfills' := h'.fills (hv.perm hperm)
  exact String.toList_inj.1 (hfills'.unique (hv.perm hperm) ((h.fills hv).perm hperm))

/-- **A template gives one argument for each of its words.** The argument is the word with the
values in the place of its placeholders if no value makes a placeholder for a later one. If only the
last value is in question, it is that just when no placeholder of this value is made, or the value
is its own placeholder. Orders in which nothing is disturbed give the same arguments, and in a tidy
template nothing is disturbed in any order. -/
theorem render_substitutes (template : String) (hv : Distinct values) :
    List.Forall₂ (fun word argument =>
        (∃ out, Fills values word.toList out ∧ ∀ o, Fills values word.toList o → o = out) ∧
        (Undisturbed values word → Fills values word.toList argument.toList) ∧
        ∀ done name value, values = done ++ [(name, value)] → Undisturbed done word →
          (Fills values word.toList argument.toList ↔
            standing name (fill word done).toList = standing name word.toList ∨
              value = placeholder name))
      (Text.words template) (render template values) ∧
    ∀ values', values'.Perm values →
      ((∀ word ∈ Text.words template, Undisturbed values word ∧ Undisturbed values' word) →
        render template values' = render template values) ∧
      ((∀ word ∈ Text.words template, Tidy values word.toList) →
        ∀ word ∈ Text.words template, Undisturbed values' word) := by
  refine ⟨?_, fun values' hperm => ⟨fun h => ?_, fun h word hword => ?_⟩⟩
  · rw [render, List.forall₂_map_right_iff, List.forall₂_same]
    intro word _
    refine ⟨?_, fun h => h.fills hv, ?_⟩
    · obtain ⟨out, hout⟩ := exists_fills values word.toList
      exact ⟨out, hout, fun o ho => ho.unique hv hout⟩
    · rintro done name value rfl hdone
      exact fill_snoc_iff hv hdone
  · exact List.map_congr_left fun word hword => fill_eq_of_perm hv hperm (h word hword).1
      (h word hword).2
  · exact ((h word hword).perm hperm).undisturbed (hv.perm hperm)

/-- What a download is told of a package. -/
def widget : List (String × String) := [("package", "widget"), ("version", "1.0")]

/-- A download command for a build log. -/
def buildLogCommand : String := "getbuildlog \x7bpackage\x7d_\x7bversion\x7d last amd64"

theorem render_substitutes_widget :
    Distinct widget ∧
      (∀ word ∈ Text.words buildLogCommand,
        Undisturbed widget word ∧ Undisturbed widget.reverse word) ∧
      render buildLogCommand widget = ["getbuildlog", "widget_1.0", "last", "amd64"] ∧
      render buildLogCommand widget.reverse = render buildLogCommand widget := by
  have hdistinct : Distinct widget := by decide
  have htidy : ∀ word ∈ Text.words buildLogCommand, Tidy widget word.toList := by decide
  obtain ⟨-, horders⟩ := render_substitutes buildLogCommand hdistinct
  have hundisturbed : ∀ word ∈ Text.words buildLogCommand,
      Undisturbed widget word ∧ Undisturbed widget.reverse word := fun word hword =>
    ⟨(horders widget (List.Perm.refl _)).2 htidy word hword,
      (horders widget.reverse (List.reverse_perm _)).2 htidy word hword⟩
  exact ⟨hdistinct, hundisturbed, by decide,
    (horders widget.reverse (List.reverse_perm _)).1 hundisturbed⟩

/-- A package whose name has the placeholder of the version in it. -/
def nested : List (String × String) := [("package", "lib\x7bversion\x7d"), ("version", "1.0")]

/-- The placeholder in the name is filled as well, and only if the version comes second. -/
theorem render_fills_values :
    Distinct nested ∧
      render "getbuildlog \x7bpackage\x7d last amd64" nested =
        ["getbuildlog", "lib1.0", "last", "amd64"] ∧
      render "getbuildlog \x7bpackage\x7d last amd64" nested.reverse =
        ["getbuildlog", "lib\x7bversion\x7d", "last", "amd64"] ∧
      Fills nested "\x7bpackage\x7d".toList "lib\x7bversion\x7d".toList ∧
      ¬ Fills nested "\x7bpackage\x7d".toList "lib1.0".toList := by
  have hdistinct : Distinct nested := by decide
  have hfills : Fills nested (mark "package" ++ []) ("lib\x7bversion\x7d".toList ++ []) :=
    .place List.mem_cons_self .nil
  rw [List.append_nil, List.append_nil] at hfills
  refine ⟨hdistinct, by decide, by decide, hfills, fun h => ?_⟩
  exact absurd (hfills.unique hdistinct h) (by decide)

end FeatureSurvey.Template
