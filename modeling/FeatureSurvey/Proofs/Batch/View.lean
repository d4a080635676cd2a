import FeatureSurvey.Proofs.Batch.Leftovers
import FeatureSurvey.Proofs.Registry.BuiltIn
import FeatureSurvey.Proofs.Run.Period

/-!
# `Proofs/Batch/View.lean` — what a batch sees of a host

Whether packages can be told apart from what was done before them is a matter of where things are
done. A `HostView` says what a world is made of, as far as a batch is concerned: the tree of files,
of which the scratch directories are seen, our own directories for copies of rules, and everything
else, which stays as it is.

Two worlds are `Alike` if the same stands in their scratch directories and our own directories are
those we know of. `HostView.Laws` is what is asked of a host: in worlds that are alike the same
question has the same answer and the same command has the same outcome, and the worlds are alike
after it. Nothing is asked about other paths than those that are in use. Of the scratch directories
themselves it is only asked that they are removed and made as in any tree of files, and that alone
does not clear them: it takes a root that can be passed (`Layout.Passable`).

Hence **after a reset under a root that can be passed it cannot be told what was there before**
(`HostView.fresh_of_reset`).
-/

set_option autoImplicit false

namespace FeatureSurvey

open Sandbox (Place Tree goalOf)

/-! ## Command lines -/

/-- A word of a command, where our own directories hold this. -/
def Word.seen (own : String → Option Holding) (argument : String) : Word :=
  match own argument with
  | some holding => .own holding
  | none => .text argument

/-- The command line of a command, up to the names of our own directories. -/
def CommandLine.seen (own : String → Option Holding) (command : Command) : CommandLine :=
  ⟨command.program, command.arguments.map (Word.seen own), command.directory⟩

/-! ## Worlds of a batch -/

/-- What a batch sees of a host. -/
structure HostView (W : Type) (l : Layout) where
  /-- Everything but the scratch directories and our own directories is as always. -/
  Settled : W → Prop
  tree : W → Tree
  /-- Where a path is followed from that does not begin at the root. -/
  here : Place
  /-- The names that our own directories may get. -/
  Ours : String → Prop
  /-- What the makefiles of our own directories hold, by their names. -/
  own : W → String → Option Holding
  /-- The texts and paths that are in use besides. -/
  Apart : String → Prop
  /-- The limits of time that are in use. -/
  Limit : Timeout → Prop

namespace HostView

/-- No directory of our own is there. -/
def nothing : String → Option Holding := fun _ => none

variable {W : Type} {l : Layout} (V : HostView W l)

/-- The same stands in the scratch directories, and our own directories hold what is said of
them. -/
structure Alike (own own' : String → Option Holding) (w v : W) : Prop where
  settled : V.Settled w
  settled' : V.Settled v
  inside : ∀ x, l.Inside V.here x → (V.tree w).entryAt? x = (V.tree v).entryAt? x
  own : V.own w = own
  own' : V.own v = own'

/-- Alike, and nothing of our own is there. -/
abbrev Same : W → W → Prop := V.Alike nothing nothing

/-- No directory of our own is left over. -/
structure Clear (w : W) : Prop where
  settled : V.Settled w
  own : V.own w = nothing

abbrev BothClear (w v : W) : Prop := V.Clear w ∧ V.Clear v

/-- Nothing is in the scratch directories but the directories that are made afresh. -/
structure Fresh (w : W) : Prop where
  clear : V.Clear w
  inside : ∀ x, l.Inside V.here x → (V.tree w).entryAt? x =
    if x ∈ l.packageDirs.map (goalOf V.here) then some .directory else none

/-- A directory of our own that was not there before. -/
structure New (own : String → Option Holding) (directory : String) : Prop where
  ours : V.Ours directory
  unused : own (RulesParser.makefileIn directory) = none

/-- No word of the command is taken for the name of a directory of our own: there is none, or each
word is in use otherwise or names a makefile of our own. -/
def Knows (own : String → Option Holding) (command : Command) : Prop :=
  own = nothing ∨ ∀ a ∈ command.arguments, V.Apart a ∨ own a ≠ none

/-- A directory of our own was made in both worlds or in neither. -/
inductive Made {ε α : Type} (own own' : String → Option Holding) (holding : Holding)
    (answer : String → α) : Except ε α × W → Except ε α × W → Prop
  | done {directory directory' : String} {w v : W} (new : V.New own directory)
      (new' : V.New own' directory')
      (alike : V.Alike
        (Function.update own (RulesParser.makefileIn directory) (some holding))
        (Function.update own' (RulesParser.makefileIn directory') (some holding)) w v) :
      Made own own' holding answer (.ok (answer directory), w) (.ok (answer directory'), v)
  | failed {e e' : ε} {w v : W} (alike : V.Alike own own' w v) :
      Made own own' holding answer (.error e, w) (.error e', v)

/-- A makefile of our own was written to in both worlds or in neither. A write that fails may have
left anything. -/
inductive Filled {ε : Type} (own own' : String → Option Holding) (makefile makefile' : String)
    (holding : Holding) : Except ε Unit × W → Except ε Unit × W → Prop
  | done {w v : W} (alike : V.Alike (Function.update own makefile (some holding))
        (Function.update own' makefile' (some holding)) w v) :
      Filled own own' makefile makefile' holding (.ok (), w) (.ok (), v)
  | failed {e e' : ε} {w v : W} {left left' : Option Holding}
      (alike : V.Alike (Function.update own makefile left) (Function.update own' makefile' left')
        w v) : Filled own own' makefile makefile' holding (.error e, w) (.error e', v)

/-- What is asked of a host. -/
structure Laws [Host W] : Prop where
  /-- Nothing of our own ever has a name that is in use otherwise. -/
  apart : ∀ {w : W} {name : String}, V.Settled w → V.Apart name → V.own w name = none
  environment : ∀ {w v : W}, V.Settled w → V.Settled v → Host.SameEnvironment w v
  look : ∀ {own own' : String → Option Holding} {w v : W} {path : String},
    V.Alike own own' w v → V.Apart path →
      Host.isFile w path = Host.isFile v path ∧
        (Host.isFile w path = true → Host.readFile w path = Host.readFile v path)
  inTime : ∀ {w : W} {timeout : Timeout}, V.Settled w → V.Limit timeout →
    (timeout.deadline? (Host.uptime w)).isSome = true
  /-- A tool goes by its command line and by what stands in the scratch directories. -/
  run : ∀ {own own' : String → Option Holding} {w v : W} {command command' : Command}
    {timeout : Timeout}, V.Alike own own' w v → V.Knows own command → V.Knows own' command' →
      CommandLine.seen own command = CommandLine.seen own' command' → V.Limit timeout →
        ((Tool.run command timeout).exec w).1.toOption =
            ((Tool.run command' timeout).exec v).1.toOption ∧
          V.Alike own own' (Host.run command timeout w).2 (Host.run command' timeout v).2
  makeTemporary : ∀ {own own' : String → Option Holding} {w v : W}, V.Alike own own' w v →
    V.Made own own' .empty id (Host.makeTemporary RulesParser.directoryName w)
      (Host.makeTemporary RulesParser.directoryName v)
  copyFile : ∀ {own own' : String → Option Holding} {w v : W} {rules makefile makefile' : String},
    V.Alike own own' w v → V.Apart rules →
      own makefile = some .empty → own' makefile' = some .empty →
      V.Filled own own' makefile makefile' (.copied rules) (Host.copyFile rules makefile w)
        (Host.copyFile rules makefile' v)
  appendFile : ∀ {own own' : String → Option Holding} {w v : W}
      {rules makefile makefile' : String}, V.Alike own own' w v →
      own makefile = some (.copied rules) → own' makefile' = some (.copied rules) →
      V.Filled own own' makefile makefile' (.ready rules)
        (Host.appendFile makefile ("\n" ++ RulesParser.printRule ++ "\n").toUTF8 w)
        (Host.appendFile makefile' ("\n" ++ RulesParser.printRule ++ "\n").toUTF8 v)
  /-- Our own directories can be removed. -/
  removeOwn : ∀ {w : W} {directory : String}, V.Settled w → V.Ours directory →
    V.Settled (Host.removeTree directory w).2 ∧
      (∀ x, l.Inside V.here x →
        (V.tree (Host.removeTree directory w).2).entryAt? x = (V.tree w).entryAt? x) ∧
      V.own (Host.removeTree directory w).2 =
        Function.update (V.own w) (RulesParser.makefileIn directory) none
  grounded : ∀ {w : W}, V.Settled w → (V.tree w).Grounded
  removeTree : ∀ {w v : W} {dir : String} {result : Except OsError Unit}, V.Settled w →
    dir ∈ l.scratchDirs → Host.removeTree dir w = (result, v) →
      V.Settled v ∧ V.own v = V.own w ∧ (V.tree w).Removal V.here dir result (V.tree v)
  makeDirectories : ∀ {w v : W} {dir : String} {result : Except OsError Unit}, V.Settled w →
    dir ∈ l.packageDirs → Host.makeDirectories dir w = (result, v) →
      V.Settled v ∧ V.own v = V.own w ∧ (V.tree w).Laying V.here dir result (V.tree v)

variable {V}

theorem Alike.clear {w v : W} (h : V.Same w v) : V.BothClear w v :=
  ⟨⟨h.settled, h.own⟩, h.settled', h.own'⟩

theorem Fresh.alike {w v : W} (hw : V.Fresh w) (hv : V.Fresh v) : V.Same w v where
  settled := hw.clear.settled
  settled' := hv.clear.settled
  inside x hx := (hw.inside x hx).trans (hv.inside x hx).symm
  own := hw.clear.own
  own' := hv.clear.own

/-- What is written over was not there. -/
theorem Filled.over {ε : Type} {own own' : String → Option Holding} {makefile makefile' : String}
    {left left' : Option Holding} {holding : Holding} {result result' : Except ε Unit × W}
    (h : V.Filled (Function.update own makefile left) (Function.update own' makefile' left')
      makefile makefile' holding result result') :
    V.Filled own own' makefile makefile' holding result result' := by
  cases h with
  | done alike =>
    rw [Function.update_idem, Function.update_idem] at alike
    exact .done alike
  | failed alike =>
    rw [Function.update_idem, Function.update_idem] at alike
    exact .failed alike

theorem Filled.mapError {ε η : Type} {own own' : String → Option Holding}
    {makefile makefile' : String} {holding : Holding} {result result' : Except ε Unit × W}
    (h : V.Filled own own' makefile makefile' holding result result') (f g : ε → η) :
    V.Filled own own' makefile makefile' holding (result.1.mapError f, result.2)
      (result'.1.mapError g, result'.2) := by
  cases h with
  | done alike => exact .done alike
  | failed alike => exact .failed alike

section Laws

variable [Host W] {w : W}

theorem Alike.unused (laws : V.Laws) {own own' : String → Option Holding} {w v : W}
    (h : V.Alike own own' w v) {name : String} (apart : V.Apart name) :
    own name = none ∧ own' name = none := by
  rw [← h.own, ← h.own']
  exact ⟨laws.apart h.settled apart, laws.apart h.settled' apart⟩

/-! ## Resets -/

/-- While nothing of our own is there, the scratch directories are removed and made in the tree. -/
theorem inTree (laws : V.Laws) : l.InTree V.Clear V.tree fun _ => V.here where
  removeTree hw hdir h := by
    obtain ⟨hsettled, hown, hremoval⟩ := laws.removeTree hw.settled hdir h
    exact ⟨⟨hsettled, hown.trans hw.own⟩, rfl, hremoval⟩
  makeDirectories hw hdir h := by
    obtain ⟨hsettled, hown, hlaying⟩ := laws.makeDirectories hw.settled hdir h
    exact ⟨⟨hsettled, hown.trans hw.own⟩, rfl, hlaying⟩

theorem clear_of_teardown (laws : V.Laws) (hw : V.Clear w) : V.Clear (l.teardown.exec w).2 :=
  (Layout.outside_of_teardown (inTree laws) hw rfl).1

/-- **After a reset it cannot be told what was there before**, if the root can be passed. -/
theorem fresh_of_reset (laws : V.Laws) (hw : V.Clear w) (hpass : l.Passable V.here (V.tree w))
    {fresh : W} (h : l.reset.exec w = (.ok (), fresh)) : V.Fresh fresh := by
  obtain ⟨-, -, -, -, hclear, -⟩ := Layout.torn_of_reset (inTree laws) hw h
  exact ⟨hclear, Layout.afresh_of_reset (inTree laws) hw (laws.grounded hw.settled) hpass h⟩

end Laws

end HostView

end FeatureSurvey
