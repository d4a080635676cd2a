import FeatureSurvey.Proofs.Run.Period
import FeatureSurvey.Text.Utf8

/-!
# `Proofs/Rules/FileHost.lean` — files of our own, and a host that keeps to them

Copies of rules are made in directories of our own. What stands in these is written by us alone,
and what we write stands nowhere else: `Enclosed` says so of the operations on files, one by one,
and says what a copy holds and what a file holds that was added to. It speaks of two sorts of paths,
those of our own files and those of others that we look at, and **of no path besides**. Of a tool
that is run it asks that it leave our own files alone; what tools do with other files is not asked
at all.

A `FileHost` is a small host of this kind (`FileHost.enclosed`). It has files, among them those of
our own, and a `make` that prints a variable from the makefile it is given.
-/

set_option autoImplicit false

namespace FeatureSurvey

namespace Host

variable {W : Type} [Host W] {path : String} {w v u : W} {others : String → Prop}

/-- The path leads to the same in both worlds. -/
structure SameAt (path : String) (w v : W) : Prop where
  kind : entryKind? w path = entryKind? v path
  bytes : readFile w path = readFile v path

theorem SameAt.refl (path : String) (w : W) : SameAt path w w := ⟨rfl, rfl⟩

theorem SameAt.trans (h : SameAt path w v) (h' : SameAt path v u) : SameAt path w u :=
  ⟨h.kind.trans h'.kind, h.bytes.trans h'.bytes⟩

/-- The files of others are what they were. -/
def Untouched (others : String → Prop) (w v : W) : Prop := ∀ path, others path → SameAt path w v

theorem Untouched.refl (others : String → Prop) (w : W) : Untouched others w w :=
  fun path _ => .refl path w

theorem Untouched.trans (h : Untouched others w v) (h' : Untouched others v u) :
    Untouched others w u :=
  fun path hpath => (h path hpath).trans (h' path hpath)

/-- What is asked of a host in which these are paths of our own files and these of others. -/
structure Enclosed (W : Type) [Host W] (own others : String → Prop) : Prop where
  makeTemporary : ∀ {w v : W} {result : Except OsError String},
    Host.makeTemporary RulesParser.directoryName w = (result, v) → Untouched others w v ∧
      ∀ directory, result = .ok directory → own (RulesParser.makefileIn directory)
  copyFile : ∀ {w v : W} {source dest : String} {result : Except OsError Unit},
    Host.copyFile source dest w = (result, v) → others source → own dest → Untouched others w v ∧
      (result = .ok () → ∃ bytes, readFile w source = .ok bytes ∧ readFile v dest = .ok bytes)
  appendFile : ∀ {w v : W} {path : String} {bytes : ByteArray} {result : Except OsError Unit},
    Host.appendFile path bytes w = (result, v) → own path → Untouched others w v ∧
      (result = .ok () → ∀ held, readFile w path = .ok held → readFile v path = .ok (held ++ bytes))
  removeTree : ∀ (w : W) {directory : String}, own (RulesParser.makefileIn directory) →
    Untouched others w (Host.removeTree directory w).2
  /-- A tool leaves our own files alone. -/
  run : ∀ (w : W) (command : Command) (timeout : Timeout) (path : String), own path →
    SameAt path w (Host.run command timeout w).2

end Host

/-! ## A host that keeps to them -/

structure FileHost where
  files : String → Option ByteArray
  /-- How many directories of our own have been made. -/
  made : Nat := 0
  /-- Is there room for another one? -/
  room : Bool := true
  /-- What comes of starting `make`, if that goes wrong. -/
  fault : Option ToolRun := none

namespace FileHost

/-- What the paths of our own begin with. -/
def root : String := "/tmp/rules-parser"

def Own (path : String) : Prop := root.toList <+: path.toList

def Others (path : String) : Prop := ¬ root.toList <+: path.toList

instance (path : String) : Decidable (Own path) :=
  inferInstanceAs (Decidable (root.toList <+: path.toList))

instance (path : String) : Decidable (Others path) :=
  inferInstanceAs (Decidable (¬ root.toList <+: path.toList))

/-- The name of a directory of our own: the root of all names and a row of hashes. -/
def directory (n : Nat) : String := root ++ String.ofList (List.replicate n '#')

def put (w : FileHost) (path : String) (bytes : Option ByteArray) : FileHost :=
  { w with files := Function.update w.files path bytes }

/-- What `make` prints, given the bytes of a makefile with the rule that prints. A definition that
stands on one line, with single blanks, is printed as it stands there. -/
def printed (makefile : ByteArray) (variableName : String) : String :=
  let lines := (Text.lines (Text.decode makefile)).filter fun line =>
    Text.startsWith line (variableName ++ " =")
  lines.getLast?.getD (variableName ++ " =") ++ "\n"

def make (w : FileHost) (command : Command) : ToolRun :=
  match w.fault, command.arguments with
  | some result, _ => result
  | none, ["-s", "-C", _, "-f", makefile, target] =>
    match w.files makefile, Text.stripStart? target "print-" with
    | some bytes, some variableName => .exited ⟨some 0, printed bytes variableName, ""⟩
    | _, _ => .exited ⟨some 2, "", "make: *** No rule to make target.  Stop.\n"⟩
  | none, _ => .exited ⟨some 2, "", "make: *** No targets.  Stop.\n"⟩

instance : Host FileHost where
  environment? _ _ := none
  workingDirectory _ := .error .notFound
  entryKind? w path := (w.files path).map fun _ => .file
  readFile w path := (w.files path).elim (.error .notFound) .ok
  listDirectory _ _ := .error .notFound
  canonicalPath _ path := .ok path
  uptime _ := 0
  wallClock _ := 0
  run command _ w := (w.make command, w)
  writeFile _ _ w := (.error .accessDenied, w)
  appendFile path bytes w :=
    match w.files path with
    | some held => (.ok (), w.put path (some (held ++ bytes)))
    | none => (.error .notFound, w)
  copyFile source dest w :=
    match w.files source with
    | some bytes => (.ok (), w.put dest (some bytes))
    | none => (.error .notFound, w)
  makeDirectories _ w := (.error .accessDenied, w)
  removeTree directory w := (.ok (), w.put (RulesParser.makefileIn directory) none)
  makeTemporary _ w :=
    if w.room then (.ok (directory w.made), { w with made := w.made + 1 })
    else (.error .accessDenied, w)
  temporaryRoot _ := "/tmp"

theorem own_makefileIn_directory (n : Nat) : Own (RulesParser.makefileIn (directory n)) := by
  unfold RulesParser.makefileIn Path.join
  split
  · rename_i habsolute
    cases habsolute
  · split
    all_goals simp [Own, directory, List.prefix_append]

theorem sameAt_put {path other : String} (h : other ≠ path) (w : FileHost)
    (bytes : Option ByteArray) : Host.SameAt other w (w.put path bytes) := by
  have hsame : (w.put path bytes).files other = w.files other := Function.update_of_ne h _ _
  constructor
  · simp only [Host.entryKind?, hsame]
  · simp only [Host.readFile, hsame]

theorem untouched_put {w : FileHost} {path : String} (h : Own path) (bytes : Option ByteArray) :
    Host.Untouched Others w (w.put path bytes) := by
  intro other hother
  apply sameAt_put
  intro heq
  exact hother (heq ▸ h)

theorem readFile_put (w : FileHost) (path : String) (bytes : ByteArray) :
    Host.readFile (w.put path (some bytes)) path = .ok bytes := by
  simp [Host.readFile, put]

theorem readFile_eq_ok_iff {w : FileHost} {path : String} {bytes : ByteArray} :
    Host.readFile w path = .ok bytes ↔ w.files path = some bytes := by
  cases h : w.files path with
  | none => simp [Host.readFile, h]
  | some held => simp [Host.readFile, h]

/-- **Our own files and all others are kept apart here.** -/
theorem enclosed : Host.Enclosed FileHost Own Others where
  makeTemporary {w v result} h := by
    simp only [Host.makeTemporary] at h
    split at h
    · cases h
      constructor
      · intro path _
        exact ⟨rfl, rfl⟩
      · intro directory hdirectory
        cases hdirectory
        exact own_makefileIn_directory w.made
    · cases h
      exact ⟨.refl Others _, fun directory hdirectory => nomatch hdirectory⟩
  copyFile {w v source dest result} h _ hdest := by
    simp only [Host.copyFile] at h
    split at h
    · rename_i bytes hbytes
      cases h
      exact ⟨untouched_put hdest _, fun _ => ⟨bytes, readFile_eq_ok_iff.2 hbytes,
        readFile_put w dest bytes⟩⟩
    · cases h
      exact ⟨.refl Others _, fun hok => nomatch hok⟩
  appendFile {w v path bytes result} h hpath := by
    simp only [Host.appendFile] at h
    split at h
    · rename_i held hheld
      cases h
      refine ⟨untouched_put hpath _, fun _ held' hheld' => ?_⟩
      obtain rfl : held = held' := Option.some.inj (hheld.symm.trans (readFile_eq_ok_iff.1 hheld'))
      exact readFile_put w path _
    · cases h
      exact ⟨.refl Others _, fun hok => nomatch hok⟩
  removeTree w directory hdirectory := untouched_put hdirectory none
  run w _ _ path _ := .refl path w

end FileHost

end FeatureSurvey
