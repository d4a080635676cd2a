/-!
# `Sandbox/Tree.lean` — trees of files

A tree of files is a list of places with what stands there. A place is the list of names that
lead to it from the root; the root itself is always a directory. Of two entries for one place the
first counts, and writing an entry takes out the others.

Nothing here asks whether the directory above a place is there: the steps of `Sandbox/Walk.lean`
look at that before they write.
-/

set_option autoImplicit false

namespace FeatureSurvey.Sandbox

/-- The names that lead to a place, from the root. -/
abbrev Place := List String

inductive Entry where
  | directory
  | file (bytes : ByteArray) (executable : Bool)
  /-- A program of the system, by its name. -/
  | program (name : String)
  /-- Takes everything and gives nothing. -/
  | void

structure Tree where
  entries : List (Place × Entry)

namespace Tree

def empty : Tree := ⟨[]⟩

def entryAt? (t : Tree) (place : Place) : Option Entry :=
  if place.isEmpty then some .directory
  else (t.entries.find? fun e => e.1 == place).map (·.2)

/-- Put an entry at a place. -/
def put (t : Tree) (place : Place) (entry : Entry) : Tree :=
  ⟨(place, entry) :: t.entries.filter fun e => e.1 != place⟩

/-- Take out a place and everything inside it. -/
def remove (t : Tree) (place : Place) : Tree :=
  ⟨t.entries.filter fun e => !place.isPrefixOf e.1⟩

/-- The names of what stands right inside a place. -/
def namesIn (t : Tree) (place : Place) : List String :=
  t.entries.filterMap fun e =>
    if e.1.dropLast == place && !e.1.isEmpty then e.1.getLast? else none

/-! ## Looking at a changed tree -/

theorem entryAt_put (t : Tree) (place other : Place) (entry : Entry) (h : place ≠ []) :
    (t.put place entry).entryAt? other =
      if other = place then some entry else t.entryAt? other := by
  unfold put entryAt?
  by_cases ho : other = place
  · subst ho
    simp [h]
  · by_cases he : other = []
    · subst he
      simp [Ne.symm h]
    · have hf : (t.entries.filter fun e => e.1 != place).find? (fun e => e.1 == other) =
          t.entries.find? fun e => e.1 == other := by
        rw [List.find?_filter]
        congr 1
        funext e
        by_cases hp : e.1 = other
        · simp [hp, ho]
        · simp [hp]
      simp [he, ho, Ne.symm ho, hf]

theorem entryAt_remove (t : Tree) (place other : Place) (h : other ≠ []) :
    (t.remove place).entryAt? other =
      if place.isPrefixOf other then none else t.entryAt? other := by
  unfold remove entryAt?
  simp only [List.isEmpty_iff, h, if_false, List.find?_filter]
  split
  · rename_i hp
    rw [Option.map_eq_none_iff, List.find?_eq_none]
    intro e _
    by_cases he : e.1 = other
    · simp [he, hp]
    · simp [he]
  · rename_i hp
    congr 2
    funext e
    by_cases he : e.1 = other
    · simp [he, hp]
    · simp [he]

end Tree

end FeatureSurvey.Sandbox
