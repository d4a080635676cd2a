import FeatureSurvey.Pattern.Glob
import FeatureSurvey.Utility.Basic

/-!
# `Utility/Find.lean` — finding paths

`find` goes through directories from the top down and keeps the paths that pass all its tests: on
the name, on the kind of entry, and on how deep the entry lies. The paths kept are printed, removed
or handed to a command.
-/

set_option autoImplicit false

namespace FeatureSurvey.Utility

open Sandbox

inductive PathTest where
  | name (pattern : String)
  | path (pattern : String)
  | kind (letter : String)
  | not (test : PathTest)

/-- What is done with the paths kept. -/
inductive PathAction where
  | print
  | delete
  /-- Run a command on each path, or on all of them together. -/
  | run (words : List String) (together : Bool)

structure Finding where
  roots : List String := []
  least : Nat := 0
  most : Option Nat := none
  tests : List PathTest := []
  action : PathAction := .print

namespace Finding

/-- The roots come first; the expression begins at a hyphen or an exclamation mark. -/
def beginsExpression (word : String) : Bool := word.startsWith "-" || word == "!" || word == "("

/-- One test, and the words behind it. -/
def readTest : List String → Except String (PathTest × List String)
  | "!" :: rest => (readTest rest).map fun (t, rest) => (.not t, rest)
  | "-not" :: rest => (readTest rest).map fun (t, rest) => (.not t, rest)
  | "-name" :: pattern :: rest => .ok (.name pattern, rest)
  | "-path" :: pattern :: rest => .ok (.path pattern, rest)
  | "-type" :: letter :: rest => .ok (.kind letter, rest)
  | word :: _ => .error s!"unknown predicate '{word}'"
  | [] => .error "expected an expression after '!'"

/-- The words of a command up to its end, whether it takes all paths, and what follows. -/
def commandWords : List String → Option (List String × Bool × List String)
  | [] => none
  | ";" :: rest => some ([], false, rest)
  | "\x7b\x7d" :: "+" :: rest => some ([], true, rest)
  | word :: rest => (commandWords rest).map fun (ws, together, rest) => (word :: ws, together, rest)

def number (word : String) : Except String Nat :=
  match number? word with
  | some n => .ok n
  | none => .error s!"expected a positive decimal integer, but got '{word}'"

/-- Read the expression; the number bounds the steps, of which each takes a word. -/
def readExpression : Nat → Finding → List String → Except String Finding
  | 0, f, _ => .ok f
  | _, f, [] => .ok f
  | steps + 1, f, words =>
    match words with
    | "-mindepth" :: n :: rest => do readExpression steps { f with least := ← number n } rest
    | "-maxdepth" :: n :: rest => do readExpression steps { f with most := some (← number n) } rest
    | "-print" :: rest => readExpression steps { f with action := .print } rest
    | "-delete" :: rest => readExpression steps { f with action := .delete } rest
    | "-a" :: rest => readExpression steps f rest
    | "-exec" :: rest =>
      match commandWords rest with
      | some (words, together, rest) =>
        readExpression steps { f with action := .run words together } rest
      | none => .error "missing argument to '-exec'"
    | words => do
      let (test, rest) ← readTest words
      readExpression steps { f with tests := f.tests ++ [test] } rest

def read (words : List String) : Except String Finding :=
  let roots := words.takeWhile fun w => !beginsExpression w
  let rest := words.drop roots.length
  readExpression (rest.length + 1) { roots := if roots.isEmpty then ["."] else roots } rest

/-- A path, how deep it lies, and what stands there. -/
structure Found where
  path : String
  depth : Nat
  kind : EntryKind

/-- Does a path pass a test? -/
def passes (f : Found) : PathTest → Bool
  | .name pattern =>
    Glob.fits (Glob.ofString pattern) (((Path.pieces f.path).getLast?).getD f.path).toList
  | .path pattern => Glob.fits (Glob.ofString pattern) f.path.toList
  | .kind letter => (letter == "f" && f.kind == .file) || (letter == "d" && f.kind == .directory)
  | .not test => !passes f test

/-- What lies at and below a place, from the top down; the number bounds the depth. -/
def below (t : Tree) : Nat → Place → String → Nat → List Found
  | 0, _, _, _ => []
  | more + 1, place, path, depth =>
    match t.entryAt? place with
    | none => []
    | some entry =>
      let found : Found := ⟨path, depth, Tree.Entry.kind entry⟩
      let inside := match entry with
        | .directory =>
          ((t.namesIn place).mergeSort fun a b => decide (a ≤ b)).flatMap fun name =>
            below t more (place ++ [name]) (Path.join path (Bytes.ofText name)) (depth + 1)
        | _ => []
      found :: inside

/-- The longest place of a tree bounds how deep anything lies. -/
def depthOf (t : Tree) : Nat := (t.entries.map fun e => e.1.length).foldl max 0 + 1

/-- The paths kept below one root, or the complaint that it is missing. -/
def pathsBelow (f : Finding) (t : Tree) (here : Place) (root : String) :
    Except String (List String) :=
  match t.find here (Bytes.toText root) with
  | .error e => .error s!"find: '{root}': {reason e}"
  | .ok (place, _) =>
    .ok (((below t (depthOf t) place root 0).filter fun found =>
      decide (f.least ≤ found.depth) && f.most.all (fun most => decide (found.depth ≤ most)) &&
        f.tests.all (passes found)).map Found.path)

/-- The paths kept below all roots, and the complaints. -/
def paths (f : Finding) (t : Tree) (here : Place) : List String × List String :=
  f.roots.foldr (fun root (kept, complaints) =>
    match pathsBelow f t here root with
    | .ok paths => (paths ++ kept, complaints)
    | .error complaint => (kept, complaint :: complaints)) ([], [])

end Finding

end FeatureSurvey.Utility
