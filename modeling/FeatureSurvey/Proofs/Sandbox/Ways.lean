import FeatureSurvey.Proofs.Text.Pieces
import FeatureSurvey.Sandbox.Walk
import Mathlib.Data.List.Induction

/-!
# `Proofs/Sandbox/Ways.lean` — the way of a path

Where a path leads is a matter of the path alone (`goal`), and so are the places that it is followed
from (`stops`); the tree only says how far one gets. A path is followed to its end only if all its
stops are directories (`Tree.find_eq_ok`), and one that leads to nothing is missing a place on its
way (`Tree.find_eq_notFound`). What is found in a part of a tree is found in the tree
(`Tree.Part.find`).

A piece `..` leads out of the place it is followed from. **What a way enters and is not led out of
again, its goal lies inside** (`prefix_goal_of_mem_stops`). In a tree in which every entry stands in
a directory, a place that is missing has nothing inside it (`Tree.Grounded.absent`).
-/

set_option autoImplicit false

namespace FeatureSurvey.Sandbox

/-! ## Ways -/

/-- The place that one piece leads to. -/
def next (place : Place) (piece : String) : Place :=
  if !Path.isTelling piece then place
  else if piece == ".." then place.dropLast
  else place ++ [piece]

/-- The place that pieces lead to, whether or not one gets there. -/
def goal (place : Place) (pieces : List String) : Place := pieces.foldl next place

/-- The places that the pieces are followed from. -/
def stops : Place → List String → List Place
  | _, [] => []
  | place, piece :: rest => place :: stops (next place piece) rest

/-- The places that a piece `..` leads out of. -/
def exits : Place → List String → List Place
  | _, [] => []
  | place, piece :: rest =>
    if piece = ".." then place :: exits (next place piece) rest else exits (next place piece) rest

/-- The place that a path is followed from. -/
def origin (here : Place) (path : String) : Place := if Path.isAbsolute path then [] else here

/-- Where a path leads. -/
def goalOf (here : Place) (path : String) : Place := goal (origin here path) (Path.pieces path)

/-- The places on the way of a path, its goal among them. -/
def wayOf (here : Place) (path : String) : List Place :=
  stops (origin here path) (Path.pieces path) ++ [goalOf here path]

variable {place x d : Place} {front back pieces : List String}

theorem next_of_not_isTelling {piece : String} (h : Path.isTelling piece = false) :
    next place piece = place := by
  simp [next, h]

theorem next_name {name : String} (htelling : Path.isTelling name = true) (hup : name ≠ "..") :
    next place name = place ++ [name] := by
  simp [next, htelling, hup]

theorem next_up : next place ".." = place.dropLast := by
  have htelling : Path.isTelling ".." = true := by decide
  simp [next, htelling]

theorem goal_append (place : Place) (front back : List String) :
    goal place (front ++ back) = goal (goal place front) back := List.foldl_append

theorem stops_append (place : Place) (front back : List String) :
    stops place (front ++ back) = stops place front ++ stops (goal place front) back := by
  induction front generalizing place with
  | nil => rfl
  | cons piece front ih => exact congrArg (place :: ·) (ih (next place piece))

theorem exits_append (place : Place) (front back : List String) :
    exits place (front ++ back) = exits place front ++ exits (goal place front) back := by
  induction front generalizing place with
  | nil => rfl
  | cons piece front ih =>
    have hrest := ih (next place piece)
    simp only [List.cons_append, exits]
    split
    · exact congrArg (place :: ·) hrest
    · exact hrest

theorem goal_silent (h : ∀ piece ∈ pieces, Path.isTelling piece = false) :
    goal place pieces = place := by
  induction pieces with
  | nil => rfl
  | cons piece pieces ih =>
    obtain ⟨hpiece, hpieces⟩ := List.forall_mem_cons.1 h
    rw [goal, List.foldl_cons, next_of_not_isTelling hpiece]
    exact ih hpieces

theorem exits_silent (h : ∀ piece ∈ pieces, Path.isTelling piece = false) :
    exits place pieces = [] := by
  induction pieces with
  | nil => rfl
  | cons piece pieces ih =>
    obtain ⟨hpiece, hpieces⟩ := List.forall_mem_cons.1 h
    have hup : piece ≠ ".." := by
      rintro rfl
      exact absurd hpiece (by decide)
    rw [exits, if_neg hup, next_of_not_isTelling hpiece]
    exact ih hpieces

theorem mem_stops_of_mem_exits (h : x ∈ exits place pieces) : x ∈ stops place pieces := by
  induction pieces generalizing place with
  | nil => cases h
  | cons piece pieces ih =>
    rw [exits] at h
    split at h
    · rcases List.mem_cons.1 h with rfl | h
      · exact List.mem_cons_self
      · exact List.mem_cons_of_mem _ (ih h)
    · exact List.mem_cons_of_mem _ (ih h)

/-- What one is inside of at the beginning and is not led out of, one is inside of at the end. -/
theorem prefix_goal (h : d <+: place) (hexit : d ∉ exits place pieces) :
    d <+: goal place pieces := by
  induction pieces generalizing place with
  | nil => exact h
  | cons piece pieces ih =>
    by_cases hup : piece = ".."
    · subst hup
      rw [exits, if_pos rfl, List.mem_cons, not_or] at hexit
      refine ih ?_ hexit.2
      rw [next_up]
      -- one is led up from further inside, so at least to `d` itself
      obtain ⟨inside, rfl⟩ := h
      have hinside : inside ≠ [] := by
        rintro rfl
        exact hexit.1 (List.append_nil d).symm
      rw [List.dropLast_append_of_ne_nil hinside]
      exact List.prefix_append d _
    · rw [exits, if_neg hup] at hexit
      refine ih ?_ hexit
      by_cases htelling : Path.isTelling piece = true
      · rw [next_name htelling hup]
        exact h.trans (List.prefix_append place [piece])
      · rw [next_of_not_isTelling (by simpa using htelling)]
        exact h

theorem exists_split_of_mem_stops (h : x ∈ stops place pieces) :
    ∃ front back, pieces = front ++ back ∧ x = goal place front := by
  induction pieces generalizing place with
  | nil => cases h
  | cons piece pieces ih =>
    cases h with
    | head => exact ⟨[], piece :: pieces, rfl, rfl⟩
    | tail _ h =>
      obtain ⟨front, back, rfl, rfl⟩ := ih h
      exact ⟨piece :: front, back, rfl, rfl⟩

/-- What a way enters and is not led out of again, its goal lies inside. -/
theorem prefix_goal_of_mem_stops (hx : x ∈ stops place pieces) (h : d <+: x)
    (hexit : d ∉ exits place pieces) : d <+: goal place pieces := by
  obtain ⟨front, back, rfl, rfl⟩ := exists_split_of_mem_stops hx
  rw [exits_append, List.mem_append, not_or] at hexit
  rw [goal_append]
  exact prefix_goal h hexit.2

/-- The place above one on a way is on the way as well, unless it is above the beginning. -/
theorem dropLast_mem_stops (h : x ∈ stops place pieces ++ [goal place pieces]) :
    x <+: place ∨ x.dropLast ∈ stops place pieces ++ [goal place pieces] := by
  induction pieces generalizing place with
  | nil => exact .inl (List.mem_singleton.1 h ▸ List.prefix_refl _)
  | cons piece pieces ih =>
    rcases List.mem_cons.1 h with rfl | h
    · exact .inl (List.prefix_refl _)
    rcases ih h with hbegin | hway
    · by_cases htelling : Path.isTelling piece = true
      · by_cases hup : piece = ".."
        · rw [hup, next_up] at hbegin
          exact .inl (hbegin.trans (List.dropLast_prefix place))
        · rw [next_name htelling hup, List.prefix_concat_iff] at hbegin
          rcases hbegin with rfl | hbegin
          · right
            rw [List.dropLast_concat]
            exact List.mem_cons_self
          · exact .inl hbegin
      · rw [next_of_not_isTelling (by simpa using htelling)] at hbegin
        exact .inl hbegin
    · exact .inr (List.mem_cons_of_mem place hway)

/-! ## Following -/

/-- Is the piece a name that is too long? -/
def isTooLong (piece : String) : Bool :=
  Path.isTelling piece && piece != ".." && decide (255 < piece.utf8ByteSize)

namespace Tree

variable {t t' : Tree} {here found : Place} {path : String} {entry : Entry}

/-- One piece is followed from a directory. -/
theorem follow_cons (t : Tree) (place : Place) (piece : String) (rest : List String) :
    t.follow place (piece :: rest) =
      match t.entryAt? place with
      | none => .error .notFound
      | some .directory =>
        if isTooLong piece then .error .nameTooLong else t.follow (next place piece) rest
      | some _ => .error .notDirectory := by
  rw [follow]
  cases t.entryAt? place with
  | none => rfl
  | some entry =>
    cases entry with
    | directory =>
      unfold next isTooLong
      cases htelling : Path.isTelling piece with
      | false => simp
      | true => by_cases hup : piece = ".." <;> simp [hup]
    | file => rfl
    | program => rfl
    | void => rfl

theorem follow_append (t : Tree) (place : Place) (front back : List String) :
    t.follow place (front ++ back) =
      (t.follow place front).bind fun found => t.follow found back := by
  induction front generalizing place with
  | nil => rfl
  | cons piece front ih =>
    rw [List.cons_append, follow_cons, follow_cons]
    split <;> try rfl
    split
    · rfl
    · exact ih (next place piece)

theorem follow_eq_ok (h : t.follow place pieces = .ok found) :
    found = goal place pieces ∧ ∀ x ∈ stops place pieces, t.entryAt? x = some .directory := by
  induction pieces generalizing place with
  | nil =>
    cases h
    exact ⟨rfl, by simp [stops]⟩
  | cons piece pieces ih =>
    rw [follow_cons] at h
    split at h
    · cases h
    · rename_i hplace
      split at h
      · cases h
      · obtain ⟨hgoal, hstops⟩ := ih h
        exact ⟨hgoal, List.forall_mem_cons.2 ⟨hplace, hstops⟩⟩
    · cases h

theorem follow_eq_notFound (h : t.follow place pieces = .error .notFound) :
    ∃ x ∈ stops place pieces, t.entryAt? x = none := by
  induction pieces generalizing place with
  | nil => cases h
  | cons piece pieces ih =>
    rw [follow_cons] at h
    split at h
    · rename_i hplace
      exact ⟨place, List.mem_cons_self, hplace⟩
    · split at h
      · cases h
      · obtain ⟨x, hx, habsent⟩ := ih h
        exact ⟨x, List.mem_cons_of_mem _ hx, habsent⟩
    · cases h

/-- Where nothing but directories is in the way, one gets to the end or a place is missing. -/
theorem follow_open
    (hopen : ∀ x ∈ stops place pieces, t.entryAt? x = none ∨ t.entryAt? x = some .directory)
    (hshort : ∀ piece ∈ pieces, isTooLong piece = false) :
    t.follow place pieces = .ok (goal place pieces) ∨
      t.follow place pieces = .error .notFound := by
  induction pieces generalizing place with
  | nil => exact .inl rfl
  | cons piece pieces ih =>
    obtain ⟨hpiece, hrest⟩ := List.forall_mem_cons.1 hshort
    obtain ⟨hplace, hstops⟩ := List.forall_mem_cons.1 hopen
    rw [follow_cons]
    rcases hplace with hnone | hthere
    · exact .inr (by rw [hnone])
    · simp only [hthere, hpiece, Bool.false_eq_true, if_false]
      exact ih hstops hrest

theorem find_open (hpath : path ≠ "") (hnul : '\x00' ∉ path.toList)
    (hopen : ∀ x ∈ wayOf here path, t.entryAt? x = none ∨ t.entryAt? x = some .directory)
    (hshort : ∀ piece ∈ Path.pieces path, isTooLong piece = false) :
    t.find here path = .ok (goalOf here path, .directory) ∨
      t.find here path = .error .notFound := by
  have hempty : path.isEmpty = false := by
    rw [String.isEmpty_eq_false_iff]
    exact hpath
  have hcontains : path.toList.contains '\x00' = false := by simpa using hnul
  have hlocate : t.locate here path = t.follow (origin here path) (Path.pieces path) := by
    rw [locate, hempty, hcontains]
    rfl
  rw [find, hlocate]
  rcases follow_open (fun x hx => hopen x (List.mem_append_left _ hx)) hshort with hok | hmissing
  · rw [hok]
    dsimp only
    rcases hopen (goalOf here path) (List.mem_append_right _ List.mem_cons_self) with hnone | hthere
    · exact .inr (by rw [← goalOf, hnone])
    · exact .inl (by rw [← goalOf, hthere])
  · exact .inr (by rw [hmissing])

theorem locate_eq_ok (h : t.locate here path = .ok found) : path ≠ "" ∧
    '\x00' ∉ path.toList ∧ t.follow (origin here path) (Path.pieces path) = .ok found := by
  rw [locate] at h
  split at h
  · cases h
  · rename_i hempty
    split at h
    · cases h
    · rename_i hnul
      refine ⟨?_, by simpa using hnul, h⟩
      rintro rfl
      exact hempty rfl

/-- What a path leads to, if it leads to something. -/
theorem find_eq_ok (h : t.find here path = .ok (place, entry)) : place = goalOf here path ∧
    t.entryAt? place = some entry ∧
    ∀ x ∈ stops (origin here path) (Path.pieces path), t.entryAt? x = some .directory := by
  rw [find] at h
  split at h
  · cases h
  · rename_i found hlocate
    obtain ⟨-, -, hfollow⟩ := locate_eq_ok hlocate
    obtain ⟨hgoal, hstops⟩ := follow_eq_ok hfollow
    split at h
    · rename_i found' hfound
      cases h
      exact ⟨hgoal, hfound, hstops⟩
    · cases h

/-- A path that leads to nothing is missing a place on its way. -/
theorem find_eq_notFound (h : t.find here path = .error .notFound) (hpath : path ≠ "") :
    ∃ x ∈ wayOf here path, t.entryAt? x = none := by
  rw [find] at h
  split at h
  · rename_i e hlocate
    cases h
    rw [locate] at hlocate
    split at hlocate
    · rename_i hempty
      exact absurd (String.isEmpty_iff.1 hempty) hpath
    · split at hlocate
      · cases hlocate
      · obtain ⟨x, hx, habsent⟩ := follow_eq_notFound hlocate
        exact ⟨x, List.mem_append_left _ hx, habsent⟩
  · rename_i found hlocate
    obtain ⟨-, -, hfollow⟩ := locate_eq_ok hlocate
    split at h
    · cases h
    · rename_i habsent
      rw [(follow_eq_ok hfollow).1] at habsent
      exact ⟨_, List.mem_append_right _ List.mem_cons_self, habsent⟩

theorem kind?_eq_directory (h : t.kind? here path = some .directory) :
    t.find here path = .ok (goalOf here path, .directory) := by
  rw [kind?] at h
  split at h
  · rename_i place entry hfind
    obtain ⟨hgoal, -, -⟩ := find_eq_ok hfind
    cases entry with
    | directory => rw [hfind, hgoal]
    | file => cases h
    | program => cases h
    | void => cases h
  · cases h

theorem kind?_of_find (h : t.find here path = .ok (place, .directory)) :
    t.kind? here path = some .directory := by
  rw [kind?, h]
  rfl

theorem kind?_eq_none (h : t.entryAt? (goalOf here path) = none) : t.kind? here path = none := by
  rw [kind?]
  cases hfind : t.find here path with
  | error e => rfl
  | ok found =>
    obtain ⟨hgoal, hthere, -⟩ := find_eq_ok hfind
    rw [hgoal, h] at hthere
    cases hthere

theorem entryAt?_ne_none {e : Place × Entry} (h : e ∈ t.entries) : t.entryAt? e.1 ≠ none := by
  rw [entryAt?]
  split
  · nofun
  · intro hnone
    rw [Option.map_eq_none_iff, List.find?_eq_none] at hnone
    exact hnone e h (beq_self_eq_true e.1)

/-- A directory in which nothing stands is listed as empty. -/
theorem list_eq_nil (h : t.kind? here path = some .directory)
    (hempty : ∀ name, t.entryAt? (goalOf here path ++ [name]) = none) :
    t.list here path = .ok [] := by
  rw [list, kind?_eq_directory h]
  refine congrArg Except.ok (List.filterMap_eq_nil_iff.2 fun e he => ?_)
  split
  · rename_i hinside
    rw [Bool.and_eq_true, beq_iff_eq, Bool.not_eq_true', List.isEmpty_eq_false_iff] at hinside
    obtain ⟨habove, hne⟩ := hinside
    refine absurd ?_ (entryAt?_ne_none he)
    rw [← List.dropLast_concat_getLast hne, habove]
    exact hempty _
  · rfl

/-! ## Parts of trees -/

/-- What stands in the one tree stands in the other. -/
def Part (t t' : Tree) : Prop := ∀ x, t.entryAt? x = none ∨ t.entryAt? x = t'.entryAt? x

/-- The same stands everywhere. -/
def Same (t t' : Tree) : Prop := ∀ x, t.entryAt? x = t'.entryAt? x

theorem Same.part (h : t.Same t') : t.Part t' := fun x => .inr (h x)

theorem Same.symm (h : t.Same t') : t'.Same t := fun x => (h x).symm

theorem Part.follow (h : t.Part t') (place : Place) (pieces : List String) :
    t.follow place pieces = .error .notFound ∨
      t.follow place pieces = t'.follow place pieces := by
  induction pieces generalizing place with
  | nil => exact .inr rfl
  | cons piece pieces ih =>
    rw [follow_cons, follow_cons]
    rcases h place with hnone | hsame
    · exact .inl (by rw [hnone])
    · rw [← hsame]
      split
      · exact .inl rfl
      · split
        · exact .inr rfl
        · exact ih (next place piece)
      · exact .inr rfl

theorem Part.locate (h : t.Part t') (here : Place) (path : String) :
    t.locate here path = .error .notFound ∨ t.locate here path = t'.locate here path := by
  rw [Tree.locate, Tree.locate]
  split
  · exact .inl rfl
  · split
    · exact .inr rfl
    · exact h.follow (origin here path) (Path.pieces path)

/-- In a part of a tree one finds nothing, or what one finds in the tree. -/
theorem Part.find (h : t.Part t') (here : Place) (path : String) :
    t.find here path = .error .notFound ∨ t.find here path = t'.find here path := by
  rw [Tree.find, Tree.find]
  rcases h.locate here path with hnone | hsame
  · exact .inl (by rw [hnone])
  · rw [← hsame]
    cases t.locate here path with
    | error e => exact .inr rfl
    | ok found =>
      rcases h found with hnone | hsame
      · exact .inl (by simp only [hnone])
      · exact .inr (by simp only [hsame])

theorem Part.find_notFound (h : t.Part t') (hmissing : t'.find here path = .error .notFound) :
    t.find here path = .error .notFound := by
  rcases h.find here path with hnone | hsame
  · exact hnone
  · exact hsame.trans hmissing

theorem Part.find_ok {result : Place × Entry} (h : t.Part t')
    (hfound : t.find here path = .ok result) : t'.find here path = .ok result := by
  rcases h.find here path with hnone | hsame
  · rw [hfound] at hnone
    cases hnone
  · exact hsame.symm.trans hfound

theorem Part.absent (h : t.Part t') (hx : t'.entryAt? x = none) : t.entryAt? x = none := by
  rcases h x with hnone | hsame
  · exact hnone
  · exact hsame.trans hx

theorem Part.present (h : t.Part t') (hx : t.entryAt? x = some entry) :
    t'.entryAt? x = some entry := by
  rcases h x with hnone | hsame
  · rw [hx] at hnone
    cases hnone
  · exact hsame.symm.trans hx

theorem Same.find (h : t.Same t') (here : Place) (path : String) :
    t.find here path = t'.find here path := by
  rcases h.part.find here path with hnone | hsame
  · rcases h.symm.part.find here path with hnone' | hsame
    · rw [hnone, hnone']
    · exact hsame.symm
  · exact hsame

/-! ## Grounded trees -/

/-- Every entry stands in a directory. -/
def Grounded (t : Tree) : Prop :=
  ∀ x, x ≠ [] → t.entryAt? x ≠ none → t.entryAt? x.dropLast = some .directory

theorem grounded_of_entries (h : ∀ e ∈ t.entries, t.entryAt? e.1.dropLast = some .directory) :
    t.Grounded := by
  intro x hx hthere
  rw [entryAt?, List.isEmpty_eq_false_iff.2 hx, if_neg Bool.false_ne_true, ne_eq,
    Option.map_eq_none_iff] at hthere
  obtain ⟨e, he⟩ := Option.ne_none_iff_exists'.1 hthere
  have heq := List.find?_some he
  rw [beq_iff_eq] at heq
  rw [← heq]
  exact h e (List.mem_of_find?_eq_some he)

/-- A place that is missing has nothing inside it. -/
theorem Grounded.absent (h : t.Grounded) (hx : t.entryAt? x = none) (hbelow : x <+: d) :
    t.entryAt? d = none := by
  obtain ⟨inside, rfl⟩ := hbelow
  induction inside using List.reverseRecOn with
  | nil => rwa [List.append_nil]
  | append_singleton inside name ih =>
    by_contra hthere
    rw [← List.append_assoc] at hthere
    have hparent := h _ (by simp) hthere
    rw [List.dropLast_concat, ih] at hparent
    cases hparent

end Tree

end FeatureSurvey.Sandbox
