import Mathlib.Data.List.Chain
import FeatureSurvey.Proofs.Text.Plain

/-!
# `Proofs/Git/CommitGraph.lean` — commits and their parents

A commit graph gives every commit its parents, the first one first. Parents are older than their
children: that is what the generation numbers say, and it is why following parents comes to an end.

Two ways lead back from a commit. Following all parents gives its `ancestors`; following first
parents only gives its `firstParentLine`. On a history without merges these are the same
(`mem_firstParentLine_iff_of_linear`). In general they are not, and `range` uses both: it lists what
is on the line of the newer end and not among the ancestors of the older one.

**The older end in front of the range is a line of first parents just when it is on the line of
the newer end itself** (`cons_range_isLine_iff`). Being an ancestor of the newer end is not enough:
behind a merge, an ancestor may lie on the other branch.
-/

set_option autoImplicit false

namespace FeatureSurvey

structure CommitGraph where
  commits : List String
  parents : String → List String
  generation : String → Nat
  closed : ∀ {c p : String}, c ∈ commits → p ∈ parents c → p ∈ commits
  older : ∀ {c p : String}, p ∈ parents c → generation p < generation c
  plain : ∀ c ∈ commits, Text.IsPlain c

namespace CommitGraph

variable (G : CommitGraph)

def firstParent? (c : String) : Option String := (G.parents c).head?

/-- The commit, its first parent, the first parent of that one, and so on. -/
def firstParentLine (c : String) : List String :=
  match _h : G.firstParent? c with
  | none => [c]
  | some p => c :: firstParentLine p
termination_by G.generation c
decreasing_by exact G.older (List.mem_of_head? _h)

/-- Whatever can be reached from the commit, the commit included. -/
def ancestors (c : String) : List String :=
  c :: (G.parents c).attach.flatMap fun ⟨p, _⟩ => ancestors p
termination_by G.generation c
decreasing_by exact G.older ‹_›

/-- What is on the line of `new` and cannot be reached from `old`, oldest first. -/
def range (old new : String) : List String :=
  ((G.firstParentLine new).filter fun c => !decide (c ∈ G.ancestors old)).reverse

/-- Each commit is the first parent of the next one. -/
def IsLine (history : List String) : Prop :=
  history.IsChain fun older newer => G.firstParent? newer = some older

variable {G} {a b c o n : String}

/-! ## Ancestors -/

theorem mem_ancestors : a ∈ G.ancestors c ↔ a = c ∨ ∃ p ∈ G.parents c, a ∈ G.ancestors p := by
  rw [ancestors, List.mem_cons, List.mem_flatMap]
  constructor
  · rintro (rfl | ⟨⟨p, hp⟩, -, h⟩)
    · exact .inl rfl
    · exact .inr ⟨p, hp, h⟩
  · rintro (rfl | ⟨p, hp, h⟩)
    · exact .inl rfl
    · exact .inr ⟨⟨p, hp⟩, List.mem_attach _ _, h⟩

theorem self_mem_ancestors : c ∈ G.ancestors c := mem_ancestors.2 (.inl rfl)

theorem ancestors_trans (hab : a ∈ G.ancestors b) (hbc : b ∈ G.ancestors c) :
    a ∈ G.ancestors c := by
  induction c using ancestors.induct (G := G) with
  | case1 c ih =>
    rcases mem_ancestors.1 hbc with rfl | ⟨p, hp, h⟩
    · exact hab
    · exact mem_ancestors.2 (.inr ⟨p, hp, ih p hp h⟩)

theorem generation_of_mem_ancestors (h : a ∈ G.ancestors c) :
    a = c ∨ G.generation a < G.generation c := by
  induction c using ancestors.induct (G := G) with
  | case1 c ih =>
    rcases mem_ancestors.1 h with rfl | ⟨p, hp, h⟩
    · exact .inl rfl
    · have hpc := G.older hp
      rcases ih p hp h with rfl | hlt
      · exact .inr hpc
      · exact .inr (Nat.lt_trans hlt hpc)

theorem ancestors_antisymm (hab : a ∈ G.ancestors b) (hba : b ∈ G.ancestors a) : a = b := by
  rcases generation_of_mem_ancestors hab with h | h
  · exact h
  · rcases generation_of_mem_ancestors hba with h' | h'
    · exact h'.symm
    · omega

/-! ## The line of first parents -/

theorem firstParentLine_of_none (h : G.firstParent? c = none) : G.firstParentLine c = [c] := by
  rw [firstParentLine]
  split
  · rfl
  · simp_all

theorem firstParentLine_of_some {p : String} (h : G.firstParent? c = some p) :
    G.firstParentLine c = c :: G.firstParentLine p := by
  rw [firstParentLine]
  split <;> simp_all

theorem head?_firstParentLine : (G.firstParentLine c).head? = some c := by
  rcases h : G.firstParent? c with _ | p
  · rw [firstParentLine_of_none h]; rfl
  · rw [firstParentLine_of_some h]; rfl

theorem self_mem_firstParentLine : c ∈ G.firstParentLine c :=
  List.mem_of_head? head?_firstParentLine

/-- A property of lines, from the oldest commit on. -/
theorem line_induction {P : String → Prop} (root : ∀ c, G.firstParent? c = none → P c)
    (child : ∀ c p, G.firstParent? c = some p → P p → P c) (c : String) : P c := by
  induction c using firstParentLine.induct (G := G) with
  | case1 c h => exact root c h
  | case2 c p h ih => exact child c p h ih

theorem mem_parents_of_firstParent? {p : String} (h : G.firstParent? c = some p) :
    p ∈ G.parents c := List.mem_of_head? h

theorem mem_ancestors_of_mem_firstParentLine (h : a ∈ G.firstParentLine c) :
    a ∈ G.ancestors c := by
  induction c using line_induction (G := G) with
  | root c hc =>
    rw [firstParentLine_of_none hc, List.mem_singleton] at h
    exact h ▸ self_mem_ancestors
  | child c p hp ih =>
    rw [firstParentLine_of_some hp, List.mem_cons] at h
    rcases h with rfl | h
    · exact self_mem_ancestors
    · exact mem_ancestors.2 (.inr ⟨p, mem_parents_of_firstParent? hp, ih h⟩)

theorem firstParent_mem_firstParentLine (h : a ∈ G.firstParentLine c)
    (hb : G.firstParent? a = some b) : b ∈ G.firstParentLine c := by
  induction c using line_induction (G := G) with
  | root c hc =>
    rw [firstParentLine_of_none hc, List.mem_singleton] at h
    rw [h, hc] at hb
    cases hb
  | child c p hp ih =>
    rw [firstParentLine_of_some hp, List.mem_cons] at h ⊢
    rcases h with rfl | h
    · obtain rfl := Option.some.inj (hp.symm.trans hb)
      exact .inr self_mem_firstParentLine
    · exact .inr (ih h)

theorem firstParentLine_isChain :
    (G.firstParentLine c).IsChain fun newer older => G.firstParent? newer = some older := by
  induction c using line_induction (G := G) with
  | root c hc =>
    rw [firstParentLine_of_none hc]
    exact .singleton c
  | child c p hp ih =>
    rw [firstParentLine_of_some hp, List.isChain_cons, head?_firstParentLine]
    exact ⟨fun y hy => by rw [hp, hy], ih⟩

theorem mem_commits_of_mem_firstParentLine (hc : c ∈ G.commits) (h : a ∈ G.firstParentLine c) :
    a ∈ G.commits := by
  induction c using line_induction (G := G) with
  | root c hroot =>
    rw [firstParentLine_of_none hroot, List.mem_singleton] at h
    exact h ▸ hc
  | child c p hp ih =>
    rw [firstParentLine_of_some hp, List.mem_cons] at h
    rcases h with rfl | h
    · exact hc
    · exact ih (G.closed hc (mem_parents_of_firstParent? hp)) h

/-- Without merges, all that can be reached is on the line. -/
theorem mem_firstParentLine_iff_of_linear (linear : ∀ c, (G.parents c).length ≤ 1) :
    a ∈ G.firstParentLine c ↔ a ∈ G.ancestors c := by
  refine ⟨mem_ancestors_of_mem_firstParentLine, fun h => ?_⟩
  induction c using line_induction (G := G) with
  | root c hc =>
    have hparents : G.parents c = [] := List.head?_eq_none_iff.1 hc
    rcases mem_ancestors.1 h with rfl | ⟨p, hp, -⟩
    · exact self_mem_firstParentLine
    · rw [hparents] at hp
      cases hp
  | child c p hp ih =>
    obtain ⟨rest, hrest⟩ := List.head?_eq_some_iff.1 hp
    have hlength := linear c
    have hnil : rest = [] := by
      rw [hrest, List.length_cons] at hlength
      exact List.length_eq_zero_iff.1 (by omega)
    rw [firstParentLine_of_some hp, List.mem_cons]
    rcases mem_ancestors.1 h with rfl | ⟨p', hp', h⟩
    · exact .inl rfl
    · rw [hrest, hnil, List.mem_singleton] at hp'
      exact .inr (ih (hp' ▸ h))

/-! ## Ranges -/

/-- Once the line meets an ancestor of `o`, it stays among them. -/
theorem filter_firstParentLine :
    (G.firstParentLine n).filter (fun c => !decide (c ∈ G.ancestors o)) =
      (G.firstParentLine n).takeWhile fun c => !decide (c ∈ G.ancestors o) := by
  induction n using line_induction (G := G) with
  | root n hn =>
    rw [firstParentLine_of_none hn]
    by_cases h : n ∈ G.ancestors o <;> simp [h]
  | child n p hp ih =>
    rw [firstParentLine_of_some hp]
    by_cases h : n ∈ G.ancestors o
    · -- what `n` reaches, `o` reaches, so the filter keeps nothing behind it
      have hrest : ∀ a ∈ G.firstParentLine p, a ∈ G.ancestors o := fun a ha =>
        ancestors_trans (mem_ancestors.2 (.inr
          ⟨p, mem_parents_of_firstParent? hp, mem_ancestors_of_mem_firstParentLine ha⟩)) h
      simpa [h] using hrest
    · simp [h, ih]

theorem reverse_range_isPrefix : (G.range o n).reverse <+: G.firstParentLine n := by
  rw [range, List.reverse_reverse, filter_firstParentLine]
  exact List.takeWhile_prefix _

theorem mem_range : c ∈ G.range o n ↔ c ∈ G.firstParentLine n ∧ c ∉ G.ancestors o := by
  simp [range]

theorem mem_commits_of_mem_range (hn : n ∈ G.commits) (h : c ∈ G.range o n) : c ∈ G.commits :=
  mem_commits_of_mem_firstParentLine hn (mem_range.1 h).1

theorem range_isLine : G.IsLine (G.range o n) := by
  have h : (G.range o n).reverse.IsChain fun newer older => G.firstParent? newer = some older :=
    firstParentLine_isChain.prefix reverse_range_isPrefix
  rwa [List.isChain_reverse] at h

/-- With the older end in front, the range ends with the newer one. -/
theorem getLast?_cons_range (h : o ∈ G.ancestors n) :
    (o :: G.range o n).getLast? = some n := by
  by_cases hn : n ∈ G.ancestors o
  · obtain rfl := ancestors_antisymm h hn
    have hnil : G.range o o = [] := List.eq_nil_iff_forall_not_mem.2 fun c hc =>
      (mem_range.1 hc).2 (mem_ancestors_of_mem_firstParentLine (mem_range.1 hc).1)
    rw [hnil]
    rfl
  · obtain ⟨rest, hrest⟩ : ∃ rest, G.firstParentLine n = n :: rest :=
      List.head?_eq_some_iff.1 head?_firstParentLine
    rw [range, hrest, List.filter_cons_of_pos (by simp [hn]), List.reverse_cons,
      ← List.cons_append, List.getLast?_concat]

/-- A commit on the line stands right behind those that it cannot reach. -/
theorem takeWhile_append_isPrefix (h : o ∈ G.firstParentLine n) :
    ((G.firstParentLine n).takeWhile fun c => !decide (c ∈ G.ancestors o)) ++ [o] <+:
      G.firstParentLine n := by
  induction n using line_induction (G := G) with
  | root n hn =>
    rw [firstParentLine_of_none hn, List.mem_singleton] at h
    simp [firstParentLine_of_none hn, h, self_mem_ancestors]
  | child n p hp ih =>
    rw [firstParentLine_of_some hp, List.mem_cons] at h
    rw [firstParentLine_of_some hp]
    by_cases hn : n ∈ G.ancestors o
    · -- each reaches the other, so they are one commit
      have hon : o ∈ G.ancestors n := mem_ancestors_of_mem_firstParentLine
        (by rw [firstParentLine_of_some hp]; exact List.mem_cons.2 h)
      obtain rfl := ancestors_antisymm hon hn
      simp [self_mem_ancestors]
    · have hop : o ∈ G.firstParentLine p := by
        rcases h with rfl | h
        · exact absurd self_mem_ancestors hn
        · exact h
      rw [List.takeWhile_cons_of_pos (by simp [hn]), List.cons_append, List.prefix_cons_inj]
      exact ih hop

/-- **An ancestor in front of the range makes a line just when it is on the line itself.** -/
theorem cons_range_isLine_iff (h : o ∈ G.ancestors n) :
    G.IsLine (o :: G.range o n) ↔ o ∈ G.firstParentLine n := by
  constructor
  · intro hline
    rcases hrange : G.range o n with _ | ⟨c, rest⟩
    · -- nothing is new, so the two ends are one commit
      have hlast := getLast?_cons_range h
      rw [hrange] at hlast
      obtain rfl := Option.some.inj hlast
      exact self_mem_firstParentLine
    · have hc : c ∈ G.firstParentLine n := (mem_range.1 (hrange ▸ List.mem_cons_self)).1
      rw [hrange] at hline
      exact firstParent_mem_firstParentLine hc (List.isChain_cons_cons.1 hline).1
  · -- the range and `o` are the front of the line, reversed
    intro hmem
    have hchain := firstParentLine_isChain.prefix (takeWhile_append_isPrefix hmem)
    rw [← filter_firstParentLine] at hchain
    have heq : o :: G.range o n =
        (((G.firstParentLine n).filter fun c => !decide (c ∈ G.ancestors o)) ++ [o]).reverse := by
      rw [List.reverse_append]
      rfl
    rw [IsLine, heq, List.isChain_reverse]
    exact hchain

end CommitGraph

end FeatureSurvey
