import FeatureSurvey.Batch.Provider
import FeatureSurvey.Proofs.Batch.View
import FeatureSurvey.Proofs.Run.Standstill

/-!
# `Proofs/Batch/TreeHost.lean` — a host with a tree of files

What the laws of a view ask of a host can be kept, and here is a host that keeps them, whatever its
tools do (`TreeHost.laws`). A `TreeHost` has a tree of files, and directories of our own with copies
of what stands in the tree. A tool is any function of its command line and of what stands in the
scratch directories, and what it makes, it makes in these. So two such hosts are alike if the same
stands in their scratch directories, whatever our own directories are called.

All of this takes a root that directories alone lead to (`Layout.Site`). It may lead through a
scratch directory and out of it again, and **also then the scratch directories can always be made
afresh** (`TreeHost.exec_reset`), though not always without what was left in them.

Our own directories are named as in a world that stands still, by rows of hashes, and no scratch
directory may have such a name.
-/

set_option autoImplicit false

namespace FeatureSurvey

open Sandbox (Place Tree Entry goalOf wayOf)

/-! ## Trees -/

namespace Sandbox.Tree

/-- Make a place a directory, if nothing is there. -/
def ensure (t : Tree) (x : Place) : Tree :=
  if (t.entryAt? x).isNone then t.put x .directory else t

/-- Make all the directories that are missing on a way. -/
def layWay (t : Tree) (dir : String) : Tree := (wayOf [] dir).foldl ensure t

theorem entryAt?_ensure (t : Tree) (x y : Place) :
    (t.ensure x).entryAt? y = (t.entryAt? y).or (if y = x then some .directory else none) := by
  unfold ensure
  split
  · rename_i habsent
    have hne : x ≠ [] := by
      rintro rfl
      cases habsent
    rw [Tree.entryAt_put t x y .directory hne]
    split
    · rename_i heq
      rw [heq, Option.isNone_iff_eq_none.1 habsent]
      rfl
    · exact (Option.or_none).symm
  · rename_i hthere
    split
    · rename_i heq
      obtain ⟨entry, hentry⟩ := Option.ne_none_iff_exists'.1 fun hnone =>
        hthere (Option.isNone_iff_eq_none.2 hnone)
      rw [heq, hentry]
      rfl
    · exact (Option.or_none).symm

theorem entryAt?_layWay (t : Tree) (dir : String) (y : Place) : (t.layWay dir).entryAt? y =
    (t.entryAt? y).or (if y ∈ wayOf [] dir then some .directory else none) := by
  unfold layWay
  generalize wayOf [] dir = way
  induction way generalizing t with
  | nil => exact (Option.or_none).symm
  | cons x rest ih =>
    rw [List.foldl_cons, ih, entryAt?_ensure, Option.or_assoc]
    by_cases heq : y = x <;> simp [heq]

theorem layWay_grown (t : Tree) (dir : String) : t.Grown (· ∈ wayOf [] dir) (t.layWay dir) := by
  intro x
  rw [entryAt?_layWay]
  cases t.entryAt? x with
  | some entry => exact .inl rfl
  | none =>
    by_cases hway : x ∈ wayOf [] dir
    · exact .inr ⟨rfl, by rw [if_pos hway]; rfl, hway⟩
    · exact .inl (by rw [if_neg hway]; rfl)

end Sandbox.Tree

namespace Layout

variable {l : Layout} {base t t' : Tree} {x : Place} {e : Place × Entry} {dir : String}

/-- The tree in which the scratch directories will be. The way to each of them is made of
directories outside and of scratch directories. -/
structure Site (l : Layout) (base : Tree) : Prop where
  grounded : base.Grounded
  way : ∀ dir ∈ l.scratchDirs, ∀ x ∈ wayOf [] dir, x ∈ l.scratchDirs.map (goalOf []) ∨
    ¬ l.Inside [] x ∧ (base.entryAt? x).map Tree.Entry.kind = some .directory
  short : ∀ dir ∈ l.scratchDirs, ∀ piece ∈ Path.pieces dir, Sandbox.isTooLong piece = false
  noNul : ∀ dir ∈ l.scratchDirs, '\x00' ∉ dir.toList
  plain : ∀ dir ∈ l.scratchDirs, Standstill.Plain dir

/-- Nothing is different but what stands in the scratch directories, and these are directories if
they are there. -/
structure Stands (l : Layout) (base t : Tree) : Prop where
  grounded : t.Grounded
  outside : ∀ x, ¬ l.Inside [] x → t.entryAt? x = base.entryAt? x
  scratch : ∀ x ∈ l.scratchDirs.map (goalOf []),
    t.entryAt? x = none ∨ t.entryAt? x = some .directory

theorem inside_goal (h : x ∈ l.scratchDirs.map (goalOf [])) : l.Inside [] x := by
  obtain ⟨dir, hdir, rfl⟩ := List.mem_map.1 h
  exact .of_goalOf hdir

theorem Inside.ne_nil (h : l.Inside [] x) : x ≠ [] := by
  rintro rfl
  obtain ⟨dir, hdir, hroot⟩ := h
  obtain ⟨name, hgoal⟩ := exists_goalOf [] hdir
  rw [List.prefix_nil.1 hroot] at hgoal
  simp at hgoal

/-! ### What a tool puts into them -/

/-- Put an entry into a scratch directory, where there is room for it. -/
def deposit (l : Layout) (t : Tree) (e : Place × Entry) : Tree :=
  if l.Inside [] e.1 ∧ (t.entryAt? e.1).isNone ∧
      (t.entryAt? e.1.dropLast).map Tree.Entry.kind = some .directory then
    t.put e.1 (if e.1 ∈ l.scratchDirs.map (goalOf []) then .directory else e.2)
  else t

theorem kind_eq_directory {entry : Option Entry}
    (h : entry.map Tree.Entry.kind = some .directory) : entry = some .directory := by
  rcases entry with _ | (_ | _ | _ | _) <;> first | rfl | cases h

/-- Either there is room, and one entry is added, or nothing is done. -/
theorem deposit_cases (l : Layout) (t : Tree) (e : Place × Entry) :
    l.deposit t e = t ∨ (l.Inside [] e.1 ∧ t.entryAt? e.1 = none ∧
      t.entryAt? e.1.dropLast = some .directory ∧ ∃ entry,
        (e.1 ∈ l.scratchDirs.map (goalOf []) → entry = .directory) ∧
        ∀ y, (l.deposit t e).entryAt? y = if y = e.1 then some entry else t.entryAt? y) := by
  unfold deposit
  split
  · rename_i h
    obtain ⟨hinside, habsent, hparent⟩ := h
    refine .inr ⟨hinside, Option.isNone_iff_eq_none.1 habsent, kind_eq_directory hparent, _,
      fun hgoal => if_pos hgoal, fun y => Tree.entryAt_put t e.1 y _ hinside.ne_nil⟩
  · exact .inl rfl

theorem Stands.deposit (h : l.Stands base t) (e : Place × Entry) :
    l.Stands base (l.deposit t e) := by
  rcases l.deposit_cases t e with hsame | ⟨hinside, habsent, hparent, entry, hentry, hput⟩
  · rwa [hsame]
  constructor
  · intro x hx hthere
    rw [hput] at hthere ⊢
    by_cases heq : x = e.1
    · have hne : x.dropLast ≠ e.1 := by
        intro habove
        have hlength := congrArg List.length (habove.trans heq.symm)
        rw [List.length_dropLast] at hlength
        have hpositive := List.length_pos_of_ne_nil hx
        omega
      rw [if_neg hne, heq]
      exact hparent
    · rw [if_neg heq] at hthere
      have habove := h.grounded x hx hthere
      have hne : x.dropLast ≠ e.1 := by
        intro habove'
        rw [habove', habsent] at habove
        cases habove
      rwa [if_neg hne]
  · intro x hx
    have hne : x ≠ e.1 := by
      rintro rfl
      exact hx hinside
    rw [hput, if_neg hne]
    exact h.outside x hx
  · intro x hx
    rw [hput]
    split
    · rename_i heq
      exact .inr (congrArg some (hentry (heq ▸ hx)))
    · exact h.scratch x hx

theorem deposit_same (h : t.Same t') (e : Place × Entry) :
    (l.deposit t e).Same (l.deposit t' e) := by
  unfold deposit
  rw [h e.1, h e.1.dropLast]
  split
  · rename_i hroom
    intro x
    rw [Tree.entryAt_put _ _ _ _ hroom.1.ne_nil, Tree.entryAt_put _ _ _ _ hroom.1.ne_nil, h x]
  · exact h

/-- Put entries into the scratch directories, one after another. -/
def deposits (l : Layout) (t : Tree) (es : List (Place × Entry)) : Tree := es.foldl l.deposit t

theorem Stands.deposits (h : l.Stands base t) (es : List (Place × Entry)) :
    l.Stands base (l.deposits t es) := by
  induction es generalizing t with
  | nil => exact h
  | cons e rest ih => exact ih (h.deposit e)

theorem deposits_same (h : t.Same t') (es : List (Place × Entry)) :
    (l.deposits t es).Same (l.deposits t' es) := by
  induction es generalizing t t' with
  | nil => exact h
  | cons e rest ih => exact ih (deposit_same h e)

/-! ### Removing and making them -/

/-- On the way to a scratch directory there is nothing but directories. -/
theorem Stands.way (h : l.Stands base t) (site : l.Site base) (hdir : dir ∈ l.scratchDirs)
    (hx : x ∈ wayOf [] dir) : t.entryAt? x = none ∨ t.entryAt? x = some .directory := by
  rcases site.way dir hdir x hx with hgoal | ⟨houtside, hthere⟩
  · exact h.scratch x hgoal
  · exact .inr ((h.outside x houtside).trans (kind_eq_directory hthere))

theorem Stands.find (h : l.Stands base t) (site : l.Site base) (hdir : dir ∈ l.scratchDirs) :
    t.find [] dir = .ok (goalOf [] dir, .directory) ∨ t.find [] dir = .error .notFound :=
  Tree.find_open (ne_empty hdir) (site.noNul dir hdir) (fun _ hx => h.way site hdir hx)
    (site.short dir hdir)

theorem Stands.removed (h : l.Stands base t) (hdir : dir ∈ l.scratchDirs)
    (hremoved : t.removeDirectory [] dir = .ok t') : l.Stands base t' := by
  have hremoval := t.removeDirectory_removal [] dir
  rw [hremoved] at hremoval
  have hcleared : t.Cleared [] dir t' := hremoval.cleared (.inl rfl)
  refine ⟨hcleared.grounded h.grounded, fun x hx => ?_, fun x hx => ?_⟩
  · have hout : ¬ goalOf [] dir <+: x := fun hbelow => hx ⟨dir, hdir, hbelow⟩
    exact (hremoval.outside hout).trans (h.outside x hx)
  · rcases hcleared.part x with hnone | hsame
    · exact .inl hnone
    · rw [hsame]
      exact h.scratch x hx

/-- After that the whole way is there. -/
theorem Stands.laid (h : l.Stands base t) (site : l.Site base) (hdir : dir ∈ l.scratchDirs)
    (hx : x ∈ wayOf [] dir) : (t.layWay dir).entryAt? x = some .directory := by
  rw [Tree.entryAt?_layWay, if_pos hx]
  rcases h.way site hdir hx with hnone | hthere
  · rw [hnone]
    rfl
  · rw [hthere]
    rfl

theorem Stands.kind?_layWay (h : l.Stands base t) (site : l.Site base)
    (hdir : dir ∈ l.scratchDirs) : (t.layWay dir).kind? [] dir = some .directory := by
  have hway (x : Place) (hx : x ∈ wayOf [] dir) := h.laid site hdir hx
  rcases Tree.find_open (ne_empty hdir) (site.noNul dir hdir) (fun x hx => .inr (hway x hx))
    (site.short dir hdir) with hfound | hmissing
  · exact Tree.kind?_of_find hfound
  · obtain ⟨x, hx, habsent⟩ := Tree.find_eq_notFound hmissing (ne_empty hdir)
    rw [hway x hx] at habsent
    cases habsent

theorem Stands.layWay (h : l.Stands base t) (site : l.Site base) (hdir : dir ∈ l.scratchDirs) :
    l.Stands base (t.layWay dir) := by
  constructor
  · intro x hx hthere
    rcases t.layWay_grown dir x with hsame | ⟨-, -, hway⟩
    · rw [hsame] at hthere
      exact (t.layWay_grown dir).part.present (h.grounded x hx hthere)
    · -- the place above is on the way as well, since the way begins at the root
      have horigin : Sandbox.origin [] dir = [] := by simp [Sandbox.origin]
      rcases Sandbox.dropLast_mem_stops hway with hroot | habove
      · rw [horigin] at hroot
        exact absurd (List.prefix_nil.1 hroot) hx
      · exact h.laid site hdir habove
  · intro x hx
    rcases t.layWay_grown dir x with hsame | ⟨habsent, -, hway⟩
    · exact hsame.trans (h.outside x hx)
    · rcases site.way dir hdir x hway with hgoal | ⟨-, hbase⟩
      · exact absurd (inside_goal hgoal) hx
      · rw [h.outside x hx, kind_eq_directory hbase] at habsent
        cases habsent
  · intro x hx
    rcases t.layWay_grown dir x with hsame | ⟨-, hthere, -⟩
    · rw [hsame]
      exact h.scratch x hx
    · exact .inr hthere

end Layout

/-! ## The host -/

/-- What becomes of a tool, and what it puts into the scratch directories, by its command line and
by what stands in them. -/
abbrev TreeTool := CommandLine → (Place → Option Entry) → ToolRun × List (Place × Entry)

structure TreeHost (l : Layout) (tool : TreeTool) where
  tree : Tree
  own : String → Option Holding := fun _ => none
  /-- How many directories of our own have been made. -/
  made : Nat := 0
  /-- How many tools have been run; the clock on the wall goes by it. -/
  runs : Nat := 0

namespace TreeHost

open Standstill (Plain)

variable {l : Layout} {tool : TreeTool} {base : Tree}

def put (w : TreeHost l tool) (name : String) (holding : Option Holding) : TreeHost l tool :=
  { w with own := Function.update w.own name holding }

/-- What stands in the scratch directories. -/
def content (w : TreeHost l tool) (x : Place) : Option Entry :=
  if l.Inside [] x then w.tree.entryAt? x else none

instance : Host (TreeHost l tool) where
  environment? _ _ := none
  workingDirectory _ := .ok "/"
  entryKind? w path := w.tree.kind? [] path
  readFile w path := w.tree.read [] path
  listDirectory w path := w.tree.list [] path
  canonicalPath _ path := .ok path
  uptime _ := 0
  wallClock w := w.runs
  run command _ w :=
    let (result, made) := tool (CommandLine.seen w.own command) w.content
    (result, { w with tree := l.deposits w.tree made, runs := w.runs + 1 })
  writeFile _ _ w := (.error .accessDenied, w)
  appendFile path _ w :=
    match w.own path with
    | some (.copied rules) => (.ok (), w.put path (some (.ready rules)))
    | _ => (.error .accessDenied, w)
  copyFile rules path w :=
    if w.tree.kind? [] rules = some .file then (.ok (), w.put path (some (.copied rules)))
    else (.error .notFound, w)
  makeDirectories dir w :=
    if dir ∈ l.scratchDirs then (.ok (), { w with tree := w.tree.layWay dir })
    else (.error .accessDenied, w)
  removeTree dir w :=
    if dir ∈ l.scratchDirs then
      match w.tree.removeDirectory [] dir with
      | .ok tree => (.ok (), { w with tree })
      | .error e => (.error e, w)
    else (.ok (), w.put (RulesParser.makefileIn dir) none)
  makeTemporary _ w :=
    (.ok (Standstill.scratch w.made), { w with made := w.made + 1 }.put
      (RulesParser.makefileIn (Standstill.scratch w.made)) (some .empty))
  temporaryRoot _ := "/"

/-- Our own directories have got their names one after another. -/
def Counted (w : TreeHost l tool) : Prop := ∀ name, w.own name ≠ none →
  ∃ n < w.made, name = RulesParser.makefileIn (Standstill.scratch n)

/-- What a batch sees, if all began with this tree. -/
def view (l : Layout) (tool : TreeTool) (base : Tree) : HostView (TreeHost l tool) l where
  Settled w := w.Counted ∧ l.Stands base w.tree
  tree := tree
  here := []
  Ours dir := ∃ n, dir = Standstill.scratch n
  own := own
  Apart := Plain
  Limit timeout := (timeout.deadline? 0).isSome = true

/-! ### Directories of our own -/

variable {w v : TreeHost l tool}

theorem Counted.put (h : w.Counted) {name : String} (hname : w.own name ≠ none)
    (holding : Option Holding) : (w.put name holding).Counted := by
  intro other hother
  by_cases heq : other = name
  · exact h other (heq ▸ hname)
  · refine h other ?_
    have hsame : (w.put name holding).own other = w.own other := Function.update_of_ne heq _ _
    rwa [hsame] at hother

theorem Counted.remove (h : w.Counted) (name : String) : (w.put name none).Counted := by
  by_cases hname : w.own name = none
  · have hsame : w.put name none = w := by
      rw [TreeHost.put, ← hname, Function.update_eq_self]
    rwa [hsame]
  · exact h.put hname none

theorem Counted.unmade (h : w.Counted) :
    w.own (RulesParser.makefileIn (Standstill.scratch w.made)) = none := by
  by_contra hheld
  obtain ⟨n, hn, heq⟩ := h _ hheld
  exact (Nat.ne_of_lt hn) (Standstill.makefileIn_scratch_inj heq).symm

theorem Counted.make (h : w.Counted) :
    ({ w with made := w.made + 1 }.put (RulesParser.makefileIn (Standstill.scratch w.made))
      (some .empty) : TreeHost l tool).Counted := by
  intro other hother
  by_cases heq : other = RulesParser.makefileIn (Standstill.scratch w.made)
  · exact ⟨w.made, Nat.lt_succ_self _, heq⟩
  · have hsame : Function.update w.own (RulesParser.makefileIn (Standstill.scratch w.made))
      (some .empty) other = w.own other := Function.update_of_ne heq _ _
    have hheld : w.own other ≠ none := by
      rw [← hsame]
      exact hother
    obtain ⟨n, hn, heq⟩ := h other hheld
    exact ⟨n, Nat.lt_succ_of_lt hn, heq⟩

theorem Counted.own_of_plain (h : w.Counted) {name : String} (hname : Plain name) :
    w.own name = none := by
  by_contra hheld
  obtain ⟨n, -, rfl⟩ := h name hheld
  refine hname ?_
  rw [Standstill.makefileIn_scratch, List.replicate_succ]
  rfl

/-! ### The laws -/

/-- What is printed does not depend on how the command was spelled. -/
theorem toOption_judge (command command' : Command) (timeout : Timeout) (result : ToolRun) :
    (Tool.judge command timeout 0 result).toOption =
      (Tool.judge command' timeout 0 result).toOption := by
  cases result with
  | exited output | overran | lost output =>
    simp only [Tool.judge]
    split <;> rfl
  | notStarted cause => rfl

section Alike

variable {own own' : String → Option Holding} (h : (view l tool base).Alike own own' w v)

include h

/-- Outside the scratch directories nothing can be different, so the trees are the same. -/
theorem same_of_alike : w.tree.Same v.tree := by
  intro x
  by_cases hx : l.Inside [] x
  · exact h.inside x hx
  · exact (h.settled.2.outside x hx).trans (h.settled'.2.outside x hx).symm

theorem content_of_alike : w.content = v.content := by
  funext x
  rw [content, content, same_of_alike h x]

theorem kind?_of_alike (path : String) : w.tree.kind? [] path = v.tree.kind? [] path := by
  rw [Tree.kind?, Tree.kind?, (same_of_alike h).find]

theorem alike_put {name name' : String} (hname : own name ≠ none) (hname' : own' name' ≠ none)
    (holding : Option Holding) :
    (view l tool base).Alike (Function.update own name holding) (Function.update own' name' holding)
      (w.put name holding) (v.put name' holding) := by
  obtain ⟨⟨hw, htree⟩, ⟨hv, htree'⟩, hinside, rfl, rfl⟩ := h
  exact ⟨⟨hw.put hname holding, htree⟩, ⟨hv.put hname' holding, htree'⟩, hinside, rfl, rfl⟩

end Alike

theorem not_mem_scratchDirs (site : l.Site base) (n : Nat) :
    Standstill.scratch n ∉ l.scratchDirs := by
  intro hdir
  refine site.plain _ hdir ?_
  rw [Standstill.scratch, String.toList_ofList, List.replicate_succ]
  rfl

/-- **Such a host keeps to the laws, whatever its tools do.** -/
theorem laws (site : l.Site base) (tool : TreeTool) : (view l tool base).Laws where
  apart hw hname := hw.1.own_of_plain hname
  environment _ _ := fun _ => rfl
  look h _ := by
    simp only [Host.isFile, Host.entryKind?, Host.readFile, Tree.read, kind?_of_alike h,
      (same_of_alike h).find, implies_true, and_self]
  inTime _ limit := limit
  run {own own' w v command command' timeout} h _ _ hseen _ := by
    have hcontent := content_of_alike h
    have htrees := same_of_alike h
    obtain ⟨⟨hw, htree⟩, ⟨hv, htree'⟩, -, rfl, rfl⟩ := h
    have hline : CommandLine.seen w.own command = CommandLine.seen v.own command' := hseen
    refine ⟨?_, ⟨hw, htree.deposits _⟩, ⟨hv, htree'.deposits _⟩, fun x _ => ?_, rfl, rfl⟩
    · rw [Tool.exec_run, Tool.exec_run]
      simp only [Host.run, Host.uptime, hline, hcontent]
      exact toOption_judge command command' timeout _
    · show (l.deposits w.tree (tool (CommandLine.seen w.own command) w.content).2).entryAt? x =
        (l.deposits v.tree (tool (CommandLine.seen v.own command') v.content).2).entryAt? x
      rw [hline, hcontent]
      exact Layout.deposits_same htrees _ x
  makeTemporary {own own' w v} h := by
    obtain ⟨⟨hw, htree⟩, ⟨hv, htree'⟩, hinside, rfl, rfl⟩ := h
    exact .done ⟨⟨_, rfl⟩, hw.unmade⟩ ⟨⟨_, rfl⟩, hv.unmade⟩
      ⟨⟨hw.make, htree⟩, ⟨hv.make, htree'⟩, hinside, rfl, rfl⟩
  copyFile {own own' w v rules makefile makefile'} h _ hempty hempty' := by
    have hheld : own makefile ≠ none := by simp [hempty]
    have hheld' : own' makefile' ≠ none := by simp [hempty']
    have hleft : (view l tool base).Alike (Function.update own makefile (own makefile))
        (Function.update own' makefile' (own' makefile')) w v := by
      rwa [Function.update_eq_self, Function.update_eq_self]
    simp only [Host.copyFile, kind?_of_alike h]
    split
    · exact .done (alike_put h hheld hheld' _)
    · exact .failed hleft
  appendFile {own own' w v rules makefile makefile'} h hcopied hcopied' := by
    have hheld : own makefile ≠ none := by simp [hcopied]
    have hheld' : own' makefile' ≠ none := by simp [hcopied']
    have hown : w.own makefile = some (.copied rules) := (congrFun h.own makefile).trans hcopied
    have hown' : v.own makefile' = some (.copied rules) :=
      (congrFun h.own' makefile').trans hcopied'
    simp only [Host.appendFile, hown, hown']
    exact .done (alike_put h hheld hheld' _)
  removeOwn {w directory} hw hours := by
    obtain ⟨n, rfl⟩ := hours
    simp only [Host.removeTree, if_neg (not_mem_scratchDirs site n)]
    exact ⟨⟨hw.1.remove _, hw.2⟩, fun _ _ => rfl, rfl⟩
  grounded hw := hw.2.grounded
  removeTree {w v dir result} hw hdir h := by
    have hremoval := w.tree.removeDirectory_removal [] dir
    simp only [Host.removeTree, if_pos hdir] at h
    cases hremove : w.tree.removeDirectory [] dir with
    | ok tree =>
      rw [hremove] at h hremoval
      cases h
      exact ⟨⟨hw.1, hw.2.removed hdir hremove⟩, rfl, hremoval⟩
    | error e =>
      rw [hremove] at h hremoval
      cases h
      exact ⟨hw, rfl, hremoval⟩
  makeDirectories {w v dir result} hw hdir h := by
    have hscratch := Layout.mem_scratchDirs_of_packageDirs hdir
    simp only [Host.makeDirectories, if_pos hscratch] at h
    cases h
    exact ⟨⟨hw.1, hw.2.layWay site hscratch⟩, rfl, w.tree.layWay_grown dir,
      fun _ _ => hw.2.kind?_layWay site hscratch⟩

/-- **The directories can be made afresh, whatever was left.** -/
theorem exec_reset (site : l.Site base) (hw : (view l tool base).Clear w) :
    ∃ fresh, l.reset.exec w = (.ok (), fresh) := by
  refine Layout.exec_reset (P := fun w => l.Stands base w.tree) (fun dir hdir w hw => ?_)
    (fun dir hdir w hw => ?_) hw.settled.2
  · show (Layout.removeIfThere dir w).1 = _ ∧ l.Stands base (Layout.removeIfThere dir w).2.tree
    have hscratch : goalOf [] dir ≠ [] := (Layout.Inside.of_goalOf hdir).ne_nil
    rw [Layout.removeIfThere]
    simp only [Host.removeTree, if_pos hdir]
    rcases hw.find site hdir with hfound | hmissing
    · have hremove : w.tree.removeDirectory [] dir = .ok (w.tree.remove (goalOf [] dir)) := by
        rw [Tree.removeDirectory, hfound]
        exact if_neg fun hroot => hscratch (List.isEmpty_iff.1 hroot)
      simp only [hremove]
      exact ⟨trivial, hw.removed hdir hremove⟩
    · have hremove : w.tree.removeDirectory [] dir = .error .notFound := by
        rw [Tree.removeDirectory, hmissing]
      simp only [hremove]
      exact ⟨trivial, hw⟩
  · have hscratch := Layout.mem_scratchDirs_of_packageDirs hdir
    simp only [Host.makeDirectories, if_pos hscratch]
    exact ⟨trivial, hw.layWay site hscratch⟩

/-- The command that fetches a package. -/
def fetching (info : PackageInfo) : Command := ⟨"fetch", [info.name], none⟩

/-- A provider that has a tool fetch the source, and nothing else. -/
def provider : ArtifactProvider (TreeHost l tool) where
  source info layout := do
    let _ ← Job.toTask (Tool.runChecked (fetching info) (.ofSeconds 60))
    return layout.sourceDir
  binary _ _ := pure none
  buildLog _ _ := pure none
  creationDate _ := pure none

end TreeHost

end FeatureSurvey
