import FeatureSurvey.Batch.Provider
import FeatureSurvey.Proofs.Batch.Leftovers
import Mathlib.Logic.Function.Basic

/-!
# `Proofs/Batch/ScratchHost.lean` — a host of scratch directories

On a `ScratchHost` there are the scratch directories of one layout and nothing else, and a tool is
any function of its command and of what these directories hold. What a tool cannot be there is one
that writes elsewhere: `Scratch` has no place for it.

Directories can always be removed and made, so **a batch can always begin a turn**
(`ScratchHost.exec_reset`). Sources are fetched by a tool (`ScratchHost.provider`).
-/

set_option autoImplicit false

namespace FeatureSurvey

/-- The scratch directories that are there, and the names in each of them. -/
structure Scratch (l : Layout) where
  names? : String → Option (List String) := fun _ => none
  within : ∀ dir, names? dir ≠ none → dir ∈ l.scratchDirs := by exact fun _ h => absurd rfl h

namespace Scratch

variable {l : Layout}

def put (s : Scratch l) (dir : String) (names : Option (List String))
    (h : names ≠ none → dir ∈ l.scratchDirs) : Scratch l where
  names? := Function.update s.names? dir names
  within other hother := by
    by_cases heq : other = dir
    · rw [heq, Function.update_self] at hother
      exact heq ▸ h hother
    · rw [Function.update_of_ne heq] at hother
      exact s.within other hother

/-- Put names where a scratch directory may be. -/
def fill (s : Scratch l) (dir : String) (names : List String) : Scratch l :=
  if h : dir ∈ l.scratchDirs then s.put dir (some names) fun _ => h else s

def remove (s : Scratch l) (dir : String) : Scratch l := s.put dir none fun h => absurd rfl h

end Scratch

/-- What a tool does with a command, and what it leaves. -/
abbrev ScratchTool (l : Layout) := Command → Scratch l → ToolRun × Scratch l

structure ScratchHost (l : Layout) (tool : ScratchTool l) where
  scratch : Scratch l := {}
  /-- How many tools have been run; the clock on the wall goes by it. -/
  runs : Nat := 0

namespace ScratchHost

variable {l : Layout} {tool : ScratchTool l}

instance : Host (ScratchHost l tool) where
  environment? _ _ := none
  workingDirectory _ := .error .notFound
  entryKind? w path := (w.scratch.names? path).map fun _ => .directory
  readFile _ _ := .error .notFound
  listDirectory w path :=
    match w.scratch.names? path with
    | some names => .ok names
    | none => .error .notFound
  canonicalPath _ path := .ok path
  uptime _ := 0
  wallClock w := w.runs
  run command _ w :=
    let (result, scratch) := tool command w.scratch
    (result, { scratch, runs := w.runs + 1 })
  writeFile _ _ w := (.error .accessDenied, w)
  appendFile _ _ w := (.error .accessDenied, w)
  copyFile _ _ w := (.error .accessDenied, w)
  makeDirectories dir w :=
    if (w.scratch.names? dir).isSome then (.ok (), w)
    else if dir ∈ l.scratchDirs then (.ok (), { w with scratch := w.scratch.fill dir [] })
    else (.error .accessDenied, w)
  removeTree dir w := (.ok (), { w with scratch := w.scratch.remove dir })
  makeTemporary _ w := (.error .accessDenied, w)
  temporaryRoot _ := "."

theorem makeDirectories_ok {dir : String} (h : dir ∈ l.scratchDirs) (w : ScratchHost l tool) :
    (Host.makeDirectories dir w).1 = .ok () := by
  simp only [Host.makeDirectories, if_pos h]
  split <;> rfl

/-- **The directories can be made afresh, whatever was left.** -/
theorem exec_reset (w : ScratchHost l tool) : ∃ fresh, l.reset.exec w = (.ok (), fresh) :=
  Layout.exec_reset (P := fun _ => True) (fun _ _ _ _ => ⟨rfl, trivial⟩)
    (fun _ hdir w _ => ⟨makeDirectories_ok (Layout.mem_scratchDirs_of_packageDirs hdir) w, trivial⟩)
    trivial

/-- A provider that has a tool fetch the source, and nothing else. -/
def provider : ArtifactProvider (ScratchHost l tool) where
  source info layout := do
    let command : Command := ⟨"fetch", [info.name], some layout.sourceDir⟩
    let _ ← Job.toTask (Tool.runChecked command (.ofSeconds 60))
    return layout.sourceDir
  binary _ _ := pure none
  buildLog _ _ := pure none
  creationDate _ := pure none

end ScratchHost

end FeatureSurvey
