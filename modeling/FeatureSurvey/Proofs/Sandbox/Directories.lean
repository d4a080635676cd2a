import FeatureSurvey.Proofs.Host.Path
import FeatureSurvey.Proofs.Sandbox.Ways
import FeatureSurvey.Sandbox.Host

/-!
# `Proofs/Sandbox/Directories.lean` — removing and making directories

What a system does when it removes a directory with all it holds, and when it makes one with those
above it that are missing, is described on trees: `Tree.Removal` and `Tree.Laying`. Both leave room
for a system that refuses for reasons of its own, or gives up half-way. A host of which this is true
is `Host.OnTree`.

A path that has been cleared leads to nothing (`Tree.Cleared.find`). That nothing is left at its
goal either takes more: a path leads to nothing also if a place is missing that it leads through and
out of again (`Tree.Cleared.gone`).

**The sandbox is such a host** (`World.onTree`).
-/

set_option autoImplicit false

namespace FeatureSurvey.Sandbox

/-! ## What a system does -/

namespace Tree

variable {t t' t'' : Tree} {here : Place} {path : String} {result : Except OsError Unit}

/-- What can come of removing what a path leads to: there is nothing; it is refused, and nothing is
changed; or there is a directory, and it goes with everything inside, or part of that does. -/
inductive Removal (t : Tree) (here : Place) (path : String) : Except OsError Unit → Tree → Prop
  | missing {t' : Tree} (h : t.find here path = .error .notFound) (same : t'.Same t) :
      Removal t here path (.error .notFound) t'
  | refused {e : OsError} {t' : Tree} (he : e ≠ .notFound) (same : t'.Same t) :
      Removal t here path (.error e) t'
  | stopped {e : OsError} {t' : Tree} (he : e ≠ .notFound)
      (there : t.find here path = .ok (goalOf here path, .directory))
      (outside : ∀ x, ¬ goalOf here path <+: x → t'.entryAt? x = t.entryAt? x) :
      Removal t here path (.error e) t'
  | removed {t' : Tree} (there : t.find here path = .ok (goalOf here path, .directory))
      (gone : ∀ x, goalOf here path <+: x → t'.entryAt? x = none)
      (outside : ∀ x, ¬ goalOf here path <+: x → t'.entryAt? x = t.entryAt? x) :
      Removal t here path (.ok ()) t'

/-- Directories are added at some places where there was nothing. -/
def Grown (t : Tree) (new : Place → Prop) (t' : Tree) : Prop := ∀ x, t'.entryAt? x = t.entryAt? x ∨
  (t.entryAt? x = none ∧ t'.entryAt? x = some .directory ∧ new x)

/-- What comes of making a directory with those above it: directories are added on the way, and in
the end the path leads to one. -/
structure Laying (t : Tree) (here : Place) (path : String) (result : Except OsError Unit)
    (t' : Tree) : Prop where
  grown : t.Grown (· ∈ wayOf here path) t'
  made : result = .ok () → path ≠ "" → t'.kind? here path = some .directory

end Tree

end Sandbox

/-- The files of a host form a tree, without links, and directories are removed and made in it. -/
structure Host.OnTree (W : Type) [Host W] (tree : W → Sandbox.Tree) (here : W → Sandbox.Place) :
    Prop where
  removeTree : ∀ {w v : W} {path : String} {result : Except OsError Unit},
    Host.removeTree path w = (result, v) →
      here v = here w ∧ (tree w).Removal (here w) path result (tree v)
  makeDirectories : ∀ {w v : W} {path : String} {result : Except OsError Unit},
    Host.makeDirectories path w = (result, v) →
      here v = here w ∧ (tree w).Laying (here w) path result (tree v)

namespace Sandbox

namespace Tree

variable {t t' : Tree} {here place : Place} {path : String}

/-! ## After a removal -/

/-- A path has been cleared: there was nothing, or what was there is gone with everything inside. -/
inductive Cleared (t : Tree) (here : Place) (path : String) (t' : Tree) : Prop
  | missing (h : t.find here path = .error .notFound) (same : t'.Same t)
  | removed (there : t.find here path = .ok (goalOf here path, .directory))
      (gone : ∀ x, goalOf here path <+: x → t'.entryAt? x = none)
      (outside : ∀ x, ¬ goalOf here path <+: x → t'.entryAt? x = t.entryAt? x)

section Removal

variable {result : Except OsError Unit}

theorem Removal.outside (h : t.Removal here path result t') {x : Place}
    (hx : ¬ goalOf here path <+: x) : t'.entryAt? x = t.entryAt? x := by
  cases h with
  | missing _ same => exact same x
  | refused _ same => exact same x
  | stopped _ _ outside => exact outside x hx
  | removed _ _ outside => exact outside x hx

/-- Where a path leads to nothing, nothing is removed. -/
theorem Removal.same (h : t.Removal here path result t')
    (hmissing : ∀ found, t.find here path ≠ .ok found) : t'.Same t := by
  cases h with
  | missing _ same => exact same
  | refused _ same => exact same
  | stopped _ there => exact absurd there (hmissing _)
  | removed there => exact absurd there (hmissing _)

theorem Removal.cleared (h : t.Removal here path result t')
    (hresult : result = .ok () ∨ result = .error .notFound) : t.Cleared here path t' := by
  cases h with
  | missing h same => exact .missing h same
  | refused he _ =>
    obtain hok | hmissing := hresult
    · cases hok
    · exact absurd (Except.error.inj hmissing) he
  | stopped he _ _ =>
    obtain hok | hmissing := hresult
    · cases hok
    · exact absurd (Except.error.inj hmissing) he
  | removed there gone outside => exact .removed there gone outside

end Removal

theorem Cleared.part (h : t.Cleared here path t') : t'.Part t := by
  cases h with
  | missing _ same => exact same.part
  | removed _ gone outside =>
    intro x
    by_cases hx : goalOf here path <+: x
    · exact .inl (gone x hx)
    · exact .inr (outside x hx)

/-- A path that has been cleared leads to nothing. -/
theorem Cleared.find (h : t.Cleared here path t') : t'.find here path = .error .notFound := by
  cases h with
  | missing h same => exact (same.find here path).trans h
  | removed there gone outside =>
    have hpart := Cleared.part (.removed there gone outside)
    rcases hpart.find here path with hmissing | hfound
    · exact hmissing
    · obtain ⟨-, hthere, -⟩ := find_eq_ok (hfound.trans there)
      rw [gone _ (List.prefix_refl _)] at hthere
      cases hthere

theorem Cleared.grounded (h : t.Cleared here path t') (ht : t.Grounded) : t'.Grounded := by
  cases h with
  | missing _ same =>
    intro x hx hthere
    rw [same] at hthere ⊢
    exact ht x hx hthere
  | removed _ gone outside =>
    intro x hx hthere
    have hout : ¬ goalOf here path <+: x := fun hbelow => hthere (gone x hbelow)
    rw [outside x hout] at hthere
    rw [outside x.dropLast fun hbelow => hout (hbelow.trans (List.dropLast_prefix x))]
    exact ht x hx hthere

/-- A place on the way of a path that is missing lies above the goal, unless the path leads out of
it again. -/
theorem prefix_goalOf_of_absent {x : Place} (hx : x ∈ wayOf here path)
    (habsent : t.entryAt? x = none)
    (hexits : ∀ y ∈ exits (origin here path) (Path.pieces path), t.entryAt? y ≠ none) :
    x <+: goalOf here path := by
  rcases List.mem_append.1 hx with hstop | hgoal
  · exact prefix_goal_of_mem_stops hstop (List.prefix_refl x) fun hexit => hexits x hexit habsent
  · exact List.mem_singleton.1 hgoal ▸ List.prefix_refl x

/-- A path that can be followed and has been cleared leads to a place where nothing is. -/
theorem Cleared.gone (h : t.Cleared here path t') (ht : t.Grounded) (hpath : path ≠ "")
    (hexits : ∀ y ∈ exits (origin here path) (Path.pieces path), t.entryAt? y ≠ none) {x : Place}
    (hx : goalOf here path <+: x) : t'.entryAt? x = none := by
  cases h with
  | missing h same =>
    -- what is missing is above the goal, and nothing is inside what is missing
    obtain ⟨y, hway, habsent⟩ := find_eq_notFound h hpath
    rw [same]
    exact ht.absent habsent ((prefix_goalOf_of_absent hway habsent hexits).trans hx)
  | removed _ gone _ => exact gone x hx

/-! ## Added directories -/

variable {new new' : Place → Prop}

theorem Grown.refl (t : Tree) (new : Place → Prop) : t.Grown new t := fun _ => .inl rfl

theorem Grown.mono (h : t.Grown new t') (hnew : ∀ x, t.entryAt? x = none → new x → new' x) :
    t.Grown new' t' := fun x =>
  (h x).imp_right fun ⟨habsent, hthere, hx⟩ => ⟨habsent, hthere, hnew x habsent hx⟩

theorem Grown.trans {t'' : Tree} (h : t.Grown new t') (h' : t'.Grown new t'') :
    t.Grown new t'' := by
  intro x
  rcases h' x with hsame | ⟨habsent, hthere, hx⟩
  · rw [hsame]
    exact h x
  · rcases h x with hsame | ⟨-, hlaid, -⟩
    · exact .inr ⟨hsame.symm.trans habsent, hthere, hx⟩
    · rw [hlaid] at habsent
      cases habsent

theorem Grown.part (h : t.Grown new t') : t.Part t' := by
  intro x
  rcases h x with hsame | ⟨habsent, -, -⟩
  · exact .inr hsame.symm
  · exact .inl habsent

/-! ## Removing in the sandbox -/

theorem removeDirectory_removal (t : Tree) (here : Place) (path : String) :
    t.Removal here path ((t.removeDirectory here path).map fun _ => ())
      ((t.removeDirectory here path).toOption.getD t) := by
  rw [removeDirectory]
  split
  · rename_i found hfind
    obtain ⟨rfl, -, -⟩ := find_eq_ok hfind
    split
    · exact .refused nofun fun _ => rfl
    · rename_i hroot
      refine .removed hfind (fun x hx => ?_) (fun x hx => ?_)
      · have hne : x ≠ [] := by
          rintro rfl
          exact hroot (List.isEmpty_iff.2 (List.prefix_nil.1 hx))
        exact (entryAt_remove t _ x hne).trans (if_pos (List.isPrefixOf_iff_prefix.2 hx))
      · by_cases hne : x = []
        · rw [hne]
          rfl
        · exact (entryAt_remove t _ x hne).trans
            (if_neg fun hbelow => hx (List.isPrefixOf_iff_prefix.1 hbelow))
  · exact .refused nofun fun _ => rfl
  · rename_i e hfind
    by_cases he : e = .notFound
    · subst he
      exact .missing hfind fun _ => rfl
    · exact .refused he fun _ => rfl

/-! ## Making in the sandbox -/

theorem follow_silent {silent : List String} (h : t.entryAt? place = some .directory)
    (hsilent : ∀ piece ∈ silent, Path.isTelling piece = false) :
    t.follow place silent = .ok place := by
  induction silent with
  | nil => rfl
  | cons piece silent ih =>
    obtain ⟨hpiece, hrest⟩ := List.forall_mem_cons.1 hsilent
    rw [follow_cons, h, next_of_not_isTelling hpiece]
    simpa [isTooLong, hpiece] using ih hrest

/-- A directory that was made is where the path leads, and there it is found. -/
theorem makeDirectory_eq_ok (h : t.makeDirectory here path = .ok t') :
    t' = t.put (goalOf here path) .directory ∧ t.entryAt? (goalOf here path) = none ∧
      t'.find here path = .ok (goalOf here path, .directory) := by
  rw [makeDirectory] at h
  split at h
  · cases h
  · rename_i place hlocate
    obtain ⟨hne, hnul, hfollow⟩ := locate_eq_ok hlocate
    obtain ⟨n, hslashes⟩ := Path.exists_slashes path
    obtain ⟨silent, hpieces, hsilent⟩ := Path.pieces_withoutTrailing path
    have horigin : origin here (Path.withoutTrailing path) = origin here path := by
      rw [origin, origin, Path.isAbsolute_eq_of_pieces hpieces]
      intro hsingle
      have hwhole := Text.intercalate_splitOn (Path.withoutTrailing path) '/'
      rw [← Path.pieces, hsingle] at hwhole
      exact hne hwhole.symm
    rw [horigin] at hfollow
    obtain rfl : place = goalOf here path := by
      rw [goalOf, hpieces, goal_append, goal_silent hsilent]
      exact (follow_eq_ok hfollow).1
    split at h
    · cases h
    · rename_i habsent
      cases h
      have hnone : t.entryAt? (goalOf here path) = none := by simpa using habsent
      have hroot : goalOf here path ≠ [] := by
        intro hroot
        rw [hroot] at hnone
        cases hnone
      have hput (x : Place) := entryAt_put t (goalOf here path) x .directory hroot
      refine ⟨rfl, hnone, ?_⟩
      have hthere := (hput (goalOf here path)).trans (if_pos rfl)
      -- the way was followed before, and a new entry closes no way
      have hpart : t.Part (t.put (goalOf here path) .directory) := by
        intro x
        by_cases hx : x = goalOf here path
        · exact .inl (hx ▸ hnone)
        · exact .inr ((hput x).trans (if_neg hx)).symm
      have hway : (t.put (goalOf here path) .directory).follow (origin here path)
          (Path.pieces path) = .ok (goalOf here path) := by
        rw [hpieces, follow_append]
        rcases hpart.follow (origin here path) (Path.pieces (Path.withoutTrailing path)) with
          hmissing | hsame
        · rw [hfollow] at hmissing
          cases hmissing
        · rw [← hsame, hfollow]
          exact follow_silent hthere hsilent
      have hlocated : (t.put (goalOf here path) .directory).locate here path =
          .ok (goalOf here path) := by
        have hempty : path.isEmpty = false := by
          rw [String.isEmpty_eq_false_iff]
          rintro rfl
          exact hne rfl
        have hnul' : path.toList.contains '\x00' = false := by
          rw [hslashes]
          simpa using hnul
        rw [locate, hempty, hnul']
        exact hway
      rw [find, hlocated]
      simp only [hthere]

theorem Laying.of_same {result : Except OsError Unit}
    (made : result = .ok () → path ≠ "" → t.kind? here path = some .directory) :
    t.Laying here path result t := ⟨.refl t _, made⟩

theorem Laying.of_makeDirectory (h : t.makeDirectory here path = .ok t') :
    t.Laying here path (.ok ()) t' := by
  obtain ⟨rfl, habsent, hfind⟩ := makeDirectory_eq_ok h
  refine ⟨fun x => ?_, fun _ _ => kind?_of_find hfind⟩
  have hroot : goalOf here path ≠ [] := by
    intro hroot
    rw [hroot] at habsent
    cases habsent
  rw [entryAt_put t _ x .directory hroot]
  by_cases hx : x = goalOf here path
  · rw [if_pos hx, hx]
    exact .inr ⟨habsent, rfl, List.mem_append_right _ List.mem_cons_self⟩
  · exact .inl (if_neg hx)

/-- The way to what is above lies on the way of the path. -/
theorem mem_wayOf_of_parent? {parent : String} (h : Path.parent? path = some parent)
    (hne : parent ≠ "") {x : Place} (hx : x ∈ wayOf here parent) :
    x = [] ∨ x ∈ wayOf here path := by
  rcases Path.parent?_cases h with rfl | rfl | ⟨habsolute, piece, rest, hpieces⟩
  · exact absurd rfl hne
  · have hroot : wayOf here "/" = [[], [], []] := by
      rfl
    rw [hroot] at hx
    exact .inl (by simpa using hx)
  · have horigin : origin here parent = origin here path := by rw [origin, origin, habsolute]
    right
    rw [wayOf, hpieces, stops_append, ← horigin]
    rw [wayOf] at hx
    rcases List.mem_append.1 hx with hx | hx
    · exact List.mem_append_left _ (List.mem_append_left _ hx)
    · rw [List.mem_singleton.1 hx]
      exact List.mem_append_left _ (List.mem_append_right _ List.mem_cons_self)

/-- What is made above a directory is on the way to it. -/
theorem Laying.grown_of_parent {parent : String} {result : Except OsError Unit}
    (h : t.Laying here parent result t') (hparent : Path.parent? path = some parent)
    (hempty : parent = "" → t' = t) : t.Grown (· ∈ wayOf here path) t' := by
  by_cases hne : parent = ""
  · rw [hempty hne]
    exact .refl t _
  · refine h.grown.mono fun x habsent hx => ?_
    rcases mem_wayOf_of_parent? hparent hne hx with rfl | hx
    · cases habsent
    · exact hx

theorem layDirectories_laying (t : Tree) (here : Place) (steps : Nat) (path : String) :
    t.Laying here path (t.layDirectories here steps path).1
      (t.layDirectories here steps path).2 := by
  induction steps generalizing path with
  | zero => exact .of_same nofun
  | succ steps ih =>
    rw [layDirectories]
    split
    · rename_i hempty
      exact .of_same fun _ hne => absurd (String.isEmpty_iff.1 hempty) hne
    · split
      · rename_i hmade
        exact .of_makeDirectory hmade
      · split
        · exact .of_same nofun
        · rename_i parent hparent
          have habove := ih parent
          -- an empty path above ends the climb, and nothing is made for it
          have hempty (hnone : parent = "") : (t.layDirectories here steps parent).2 = t := by
            subst hnone
            cases steps <;> rfl
          generalize t.layDirectories here steps parent = laid at habove hempty ⊢
          obtain ⟨r, t'⟩ := laid
          have hgrown := habove.grown_of_parent hparent hempty
          cases r with
          | error e => exact ⟨hgrown, nofun⟩
          | ok =>
            dsimp only at hgrown ⊢
            split
            · rename_i t'' hmade
              have hlast := Laying.of_makeDirectory hmade
              exact ⟨hgrown.trans hlast.grown, hlast.made⟩
            · refine ⟨hgrown, fun hok _ => ?_⟩
              split at hok
              · assumption
              · cases hok
      · refine .of_same fun hok _ => ?_
        split at hok
        · assumption
        · cases hok

end Tree

/-- **The sandbox is a host whose files form a tree.** -/
theorem World.onTree : Host.OnTree World World.tree World.here where
  removeTree {w v path result} h := by
    have hremoval := w.tree.removeDirectory_removal w.here path
    change World.change (fun t here => t.removeDirectory here path) w = _ at h
    rw [World.change] at h
    cases hremove : w.tree.removeDirectory w.here path with
    | error e =>
      rw [hremove] at h hremoval
      cases h
      exact ⟨rfl, hremoval⟩
    | ok tree =>
      rw [hremove] at h hremoval
      cases h
      exact ⟨rfl, hremoval⟩
  makeDirectories {w v path result} h := by
    have hlaid := w.tree.layDirectories_laying w.here ((Path.pieces path).length + 1) path
    obtain ⟨rfl, rfl⟩ := Prod.mk.inj h
    exact ⟨rfl, hlaid⟩

end Sandbox

end FeatureSurvey
