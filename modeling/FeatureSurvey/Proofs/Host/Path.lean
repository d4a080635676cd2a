import FeatureSurvey.Host.Path
import FeatureSurvey.Proofs.Text.Pieces
import Mathlib.Data.List.TakeWhile

/-!
# `Proofs/Host/Path.lean` — paths and their pieces

What is done to a path as a text is done to its pieces. Slashes at its end are pieces that say
nothing (`pieces_withoutTrailing`), a name put behind it is one more piece in place of those
(`pieces_join`), and the path without its last piece has the first pieces of the path
(`parent?_cases`).
-/

set_option autoImplicit false

namespace FeatureSurvey.Path

open Text

theorem isAbsolute_eq (path : String) : isAbsolute path = (path.toList.head? == some '/') := by
  show ['/'].isPrefixOf path.toList = _
  cases path.toList with
  | nil => rfl
  | cons c cs =>
    rw [Bool.eq_iff_iff, List.isPrefixOf_iff_prefix, List.cons_prefix_cons]
    simpa using eq_comm

/-- A path is absolute if something stands behind an empty first piece. -/
theorem isAbsolute_iff {path : String} :
    isAbsolute path = true ↔ ∃ piece rest, pieces path = "" :: piece :: rest := by
  rw [isAbsolute_eq, pieces, splitOn]
  cases path.toList with
  | nil => simp [splitChars]
  | cons c cs =>
    obtain ⟨front, rest, hpieces⟩ := List.exists_cons_of_ne_nil (splitChars_ne_nil '/' cs)
    by_cases hc : c = '/'
    · simp [splitChars, hpieces, hc]
    · simp [splitChars, hpieces, hc]

/-- A path is the path without the slashes at its end, and slashes. -/
theorem exists_slashes (path : String) :
    ∃ n, path.toList = (withoutTrailing path).toList ++ List.replicate n '/' := by
  have hslashes : ∀ c ∈ path.toList.reverse.takeWhile (fun c => c == '/'), c = '/' := by
    intro c hc
    simpa using List.mem_takeWhile_imp hc
  have hboth := List.takeWhile_append_dropWhile (p := fun c => c == '/') (l := path.toList.reverse)
  rw [List.eq_replicate_of_mem hslashes] at hboth
  have hpath := congrArg List.reverse hboth
  rw [List.reverse_append, List.reverse_replicate, List.reverse_reverse] at hpath
  unfold withoutTrailing
  dsimp only
  split
  · rename_i hnothing
    simp only [Bool.and_eq_true, List.isEmpty_iff, Bool.not_eq_true', String.isEmpty_eq_false_iff]
      at hnothing
    obtain ⟨hkept, hne⟩ := hnothing
    rw [hkept] at hpath
    generalize (path.toList.reverse.takeWhile fun c => c == '/').length = n at hpath
    cases n with
    | zero => exact absurd (String.toList_inj.1 hpath.symm) hne
    | succ n => exact ⟨n, hpath.symm⟩
  · exact ⟨_, by rw [String.toList_ofList, hpath]⟩

theorem splitChars_append_slashes (cs : List Char) (n : Nat) :
    splitChars '/' (cs ++ List.replicate n '/') = splitChars '/' cs ++ List.replicate n [] := by
  induction n generalizing cs with
  | zero => simp
  | succ n ih =>
    have hslashes := ih []
    rw [List.nil_append] at hslashes
    rw [List.replicate_succ, splitChars_append_cons, hslashes]
    rfl

/-- Slashes at the end of a path add pieces that say nothing. -/
theorem pieces_withoutTrailing (path : String) :
    ∃ silent, pieces path = pieces (withoutTrailing path) ++ silent ∧
      ∀ piece ∈ silent, isTelling piece = false := by
  obtain ⟨n, hn⟩ := exists_slashes path
  refine ⟨List.replicate n "", ?_, fun piece hpiece => ?_⟩
  · rw [pieces, splitOn, hn, splitChars_append_slashes, List.map_append, List.map_replicate]
    rfl
  · rw [List.eq_of_mem_replicate hpiece]
    rfl

theorem dropSilent_cons {piece : String} {rest : List String} (h : rest ≠ []) :
    dropSilent (piece :: rest) =
      if isTelling piece then piece :: rest else dropSilent rest := by
  cases rest with
  | nil => exact absurd rfl h
  | cons next rest => rfl

theorem dropSilent_suffix (pieces : List String) : dropSilent pieces <:+ pieces := by
  induction pieces using dropSilent.induct with
  | case1 => exact List.suffix_refl []
  | case2 front => exact List.suffix_refl [front]
  | case3 piece rest hrest htelling =>
    simp [dropSilent_cons hrest, htelling]
  | case4 piece rest hrest htelling ih =>
    rw [dropSilent_cons hrest, if_neg htelling]
    exact ih.trans (List.suffix_cons piece rest)

theorem dropSilent_ne_nil {pieces : List String} (h : pieces ≠ []) : dropSilent pieces ≠ [] := by
  induction pieces using dropSilent.induct with
  | case1 => exact absurd rfl h
  | case2 front => exact h
  | case3 piece rest hrest htelling =>
    rw [dropSilent_cons hrest, if_pos htelling]
    exact h
  | case4 piece rest hrest htelling ih =>
    rw [dropSilent_cons hrest, if_neg htelling]
    exact ih hrest

/-- Whether a path is absolute shows in its first pieces, if these are not a single empty one. -/
theorem isAbsolute_eq_of_pieces {path front : String} {back : List String}
    (h : pieces path = pieces front ++ back) (hfront : pieces front ≠ [""]) :
    isAbsolute front = isAbsolute path := by
  rw [Bool.eq_iff_iff, isAbsolute_iff, isAbsolute_iff, h]
  rcases hpieces : pieces front with _ | ⟨first, _ | ⟨second, rest⟩⟩
  · exact absurd (List.map_eq_nil_iff.1 hpieces) (splitChars_ne_nil '/' front.toList)
  · rw [hpieces] at hfront
    constructor
    · rintro ⟨_, _, heq⟩
      cases heq
    · rintro ⟨_, _, heq⟩
      obtain ⟨rfl, -⟩ := List.cons.inj heq
      exact absurd rfl hfront
  · constructor
    · rintro ⟨_, _, heq⟩
      obtain ⟨rfl, -⟩ := List.cons.inj heq
      exact ⟨second, rest ++ back, rfl⟩
    · rintro ⟨_, _, heq⟩
      obtain ⟨rfl, -⟩ := List.cons.inj heq
      exact ⟨second, rest, rfl⟩

/-- The path without its last piece is empty, or the root, or its pieces are the first ones. -/
theorem parent?_cases {path parent : String} (h : parent? path = some parent) :
    parent = "" ∨ parent = "/" ∨ isAbsolute parent = isAbsolute path ∧
      ∃ piece rest, pieces path = pieces parent ++ piece :: rest := by
  obtain ⟨silent, hsilent⟩ := dropSilent_suffix (pieces path).reverse
  rw [parent?] at h
  split at h
  · cases h
  · split at h
    · cases h
    · cases h
      exact .inl rfl
  · rename_i piece above hsome htelling
    have habove : above ≠ [] := fun hnone => hsome hnone
    obtain ⟨between, hbetween⟩ := dropSilent_suffix above
    split at h
    · cases h
      exact .inr (.inl rfl)
    · rename_i hroot
      cases h
      have hwhole : pieces path =
          (dropSilent above).reverse ++ (between.reverse ++ piece :: silent.reverse) := by
        rw [tellingPieces] at htelling
        have hreverse := congrArg List.reverse hsilent
        rw [htelling, ← hbetween] at hreverse
        simpa using hreverse.symm
      have hpieces : pieces ("/".intercalate (dropSilent above).reverse) =
          (dropSilent above).reverse := by
        refine splitOn_intercalate (fun piece hpiece => ?_)
          (by simpa using dropSilent_ne_nil habove)
        refine not_mem_of_mem_splitOn (s := path) ?_
        show piece ∈ pieces path
        rw [hwhole]
        exact List.mem_append_left _ hpiece
      refine .inr (.inr ?_)
      rw [← hpieces] at hwhole
      refine ⟨isAbsolute_eq_of_pieces hwhole ?_, ?_⟩
      · rw [hpieces]
        intro hsingle
        exact hroot (List.reverse_eq_iff.1 hsingle)
      · rw [hwhole]
        cases between.reverse with
        | nil => exact ⟨piece, silent.reverse, rfl⟩
        | cons first others => exact ⟨first, others ++ piece :: silent.reverse, rfl⟩

/-! ## Names behind a path -/

/-- A name that a directory can have. -/
structure IsName (name : String) : Prop where
  single : '/' ∉ name.toList
  telling : isTelling name = true
  down : name ≠ ".."

instance (name : String) : Decidable (IsName name) :=
  decidable_of_iff ('/' ∉ name.toList ∧ isTelling name = true ∧ name ≠ "..")
    ⟨fun ⟨single, telling, down⟩ => ⟨single, telling, down⟩,
      fun h => ⟨h.single, h.telling, h.down⟩⟩

variable {base name : String}

theorem isAbsolute_of_single (h : '/' ∉ name.toList) : isAbsolute name = false := by
  rw [isAbsolute_eq]
  cases hchars : name.toList with
  | nil => rfl
  | cons c cs =>
    rw [hchars, List.mem_cons, not_or] at h
    simpa using Ne.symm h.1

theorem isAbsolute_join (h : '/' ∉ name.toList) :
    isAbsolute (join base name) = isAbsolute base := by
  rw [join, isAbsolute_of_single h]
  by_cases hempty : base = ""
  · subst hempty
    exact isAbsolute_of_single h
  · obtain ⟨c, cs, hbase⟩ := List.exists_cons_of_ne_nil (mt String.toList_eq_nil_iff.1 hempty)
    simp only [Bool.false_eq_true, if_false]
    split <;> simp [isAbsolute_eq, hbase]

/-- A name behind a path is one more piece, in place of pieces that say nothing. -/
theorem pieces_join (base : String) (h : '/' ∉ name.toList) :
    ∃ front silent, pieces base = front ++ silent ∧
      (∀ piece ∈ silent, isTelling piece = false) ∧ pieces (join base name) = front ++ [name] := by
  have hname : pieces name = [name] := by
    rw [pieces, splitOn, splitChars_of_not_mem h]
    simp
  rw [join, isAbsolute_of_single h]
  simp only [Bool.false_eq_true, if_false]
  split
  · rename_i hopen
    rcases Bool.or_eq_true_iff.1 hopen with hempty | hslash
    · obtain rfl := String.isEmpty_iff.1 hempty
      refine ⟨[], [""], rfl, by simp [isTelling], ?_⟩
      rw [String.empty_append]
      exact hname
    · obtain ⟨front, hfront⟩ := List.isPrefixOf_iff_prefix.1 hslash
      have hbase : base.toList = front.reverse ++ ['/'] := by
        rw [← List.reverse_reverse base.toList, ← hfront]
        exact List.reverse_append
      refine ⟨(splitChars '/' front.reverse).map String.ofList, [""], ?_, by simp [isTelling], ?_⟩
      · rw [pieces, splitOn, hbase, splitChars_append_cons, List.map_append]
        rfl
      · rw [pieces, splitOn, String.toList_append, hbase, List.append_assoc, List.singleton_append,
          splitChars_append_cons, List.map_append]
        exact congrArg _ hname
  · refine ⟨pieces base, [], (List.append_nil _).symm, by simp, ?_⟩
    rw [pieces, splitOn, String.toList_append, String.toList_append, List.append_assoc]
    show List.map _ (splitChars '/' (base.toList ++ '/' :: name.toList)) = _
    rw [splitChars_append_cons, List.map_append]
    exact congrArg _ hname

theorem join_ne_empty (h : IsName name) : join base name ≠ "" := by
  intro hempty
  obtain ⟨front, -, -, -, hjoin⟩ := pieces_join base h.single
  have hlast := congrArg List.getLast? hjoin
  rw [hempty, List.getLast?_concat] at hlast
  obtain rfl : "" = name := Option.some.inj hlast
  exact absurd h.telling (by decide)

end FeatureSurvey.Path
