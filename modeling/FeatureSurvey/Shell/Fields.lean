import FeatureSurvey.Pattern.Glob
import FeatureSurvey.Sandbox.Walk
import FeatureSurvey.Text.Bytes

/-!
# `Shell/Fields.lean` — from words to fields

What is put into a word is a list of atoms: characters that know whether they are quoted and
whether a field may end at them, boundaries between arguments, and marks for quoted texts that
are empty. Cutting the atoms gives the fields of a command, and a field that is a file name
pattern stands for the paths that fit it, in their order, or for itself if there are none.
-/

set_option autoImplicit false

namespace FeatureSurvey.Shell

open Sandbox

inductive Atom where
  | char (c : Char) (quoted splits : Bool)
  /-- The boundary between two arguments. -/
  | gap
  /-- A quoted text, even if it is empty. -/
  | mark
  deriving DecidableEq, Repr

namespace Atom

/-- The atoms of a value; outside of quotes it is cut into fields. -/
def ofValue (quoted : Bool) (s : String) : List Atom :=
  s.toList.map fun c => .char c quoted (!quoted)

/-- The atoms of text that stands in a script. -/
def ofText (quoted splits : Bool) (s : String) : List Atom :=
  if quoted && s.isEmpty then [.mark]
  else s.toList.map fun c => .char c quoted (splits && !quoted)

/-- The atoms of a list of arguments, which stay apart. -/
def ofArguments (quoted : Bool) (arguments : List String) : List Atom :=
  List.intercalate [.gap] (arguments.map fun a =>
    if quoted then .mark :: ofValue true a else ofValue false a)

/-- The text of atoms, where nothing is cut. -/
def text (atoms : List Atom) : String :=
  String.ofList (atoms.filterMap fun
    | .char c _ _ => some c
    | .gap => some ' '
    | .mark => none)

/-- The pattern that atoms are. -/
def pattern (atoms : List Atom) : List Glob.Marked :=
  atoms.filterMap fun
    | .char c quoted _ => some (c, quoted)
    | .gap => some (' ', true)
    | .mark => none

end Atom

/-! ## Cutting -/

/-- A field, as the pattern it may be. -/
abbrev Field := List Glob.Marked

def Field.text (f : Field) : String := String.ofList (f.map (·.1))

def isWhite (c : Char) : Bool := c == ' ' || c == '\t' || c == '\n'

/-- Cut atoms into fields behind a field that has begun or not. White separators run together,
and at most one other separator with them; `afterWhite` says that a field was just ended by
white ones. -/
def cut (separators : List Char) : Option Field → Bool → List Atom → List Field
  | begun, _, [] => begun.toList
  | begun, _, .mark :: rest => cut separators (some (begun.getD [])) false rest
  | begun, _, .gap :: rest => begun.toList ++ cut separators none false rest
  | begun, afterWhite, .char c quoted splits :: rest =>
    if splits && separators.contains c then
      if isWhite c then
        begun.toList ++ cut separators none (afterWhite || begun.isSome) rest
      else if afterWhite then cut separators none false rest
      else begun.getD [] :: cut separators none false rest
    else cut separators (some (begun.getD [] ++ [(c, quoted)])) false rest

/-! ## File name patterns -/

/-- Cut a pattern at its slashes. -/
def piecesOf : Field → List Field
  | [] => [[]]
  | (c, quoted) :: rest =>
    if c == '/' then [] :: piecesOf rest
    else
      match piecesOf rest with
      | [] => [[(c, quoted)]]
      | piece :: pieces => ((c, quoted) :: piece) :: pieces

/-- The names in a directory that fit a pattern, its own name and that of the directory above
among them; a name that begins with a dot is met only by a dot. -/
def namesThatFit (t : Tree) (here : Place) (dir : String) (piece : Field) : List String :=
  match t.list here (Bytes.toText (if dir.isEmpty then "." else dir)) with
  | .error _ => []
  | .ok names =>
    let glob := Glob.read piece
    let hidden := (piece.head?.map (·.1)) == some '.'
    let fitting := ([".", ".."] ++ names.map Bytes.ofText).filter fun name =>
      (hidden || !name.startsWith ".") && Glob.fits glob name.toList
    fitting.mergeSort fun a b => decide (a ≤ b)

/-- The paths that fit the pieces of a pattern, behind a path that has been followed. -/
def pathsThatFit (t : Tree) (here : Place) (before : String) : List Field → List String
  | [] => []
  | [piece] =>
    if Glob.isPattern (Glob.read piece) then (namesThatFit t here before piece).map (before ++ ·)
    else
      let path := before ++ piece.text
      if (t.kind? here (Bytes.toText path)).isSome then [path] else []
  | piece :: rest =>
    if Glob.isPattern (Glob.read piece) then
      (namesThatFit t here before piece).flatMap fun name =>
        pathsThatFit t here (before ++ name ++ "/") rest
    else pathsThatFit t here (before ++ piece.text ++ "/") rest

/-- What a field stands for. -/
def Field.paths (t : Tree) (here : Place) (f : Field) : List String :=
  if Glob.isPattern (Glob.read f) then
    match pathsThatFit t here "" (piecesOf f) with
    | [] => [f.text]
    | paths => paths
  else [f.text]

end FeatureSurvey.Shell
