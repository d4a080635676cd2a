/-!
# `Pattern/Glob.lean` — file name patterns

In a glob the asterisk stands for any text, the question mark for any character, and brackets for
one character of a set, which may hold ranges and be negated. Every other character stands for
itself, and so does a character that is quoted, whichever it is. A bracket that is never closed is
a character like any other.
-/

set_option autoImplicit false

namespace FeatureSurvey

inductive GlobItem where
  | char (c : Char)
  | any
  | many
  | set (negated : Bool) (ranges : List (Char × Char))
  deriving DecidableEq, Repr

abbrev Glob := List GlobItem

namespace Glob

/-- A character of a pattern, and whether it is quoted. -/
abbrev Marked := Char × Bool

def unquoted (pattern : String) : List Marked := pattern.toList.map (·, false)

/-- The ranges of a set up to its closing bracket, which does not close it in the first
place. -/
def ranges? (first : Bool) (acc : List (Char × Char)) :
    List Marked → Option (List (Char × Char) × List Marked)
  | [] => none
  | (']', false) :: rest =>
    if first then ranges? false ((']', ']') :: acc) rest else some (acc.reverse, rest)
  | (a, _) :: ('-', false) :: (b, qb) :: rest =>
    if b == ']' && !qb then ranges? false ((a, a) :: acc) (('-', true) :: (b, qb) :: rest)
    else ranges? false ((a, b) :: acc) rest
  | (a, _) :: rest => ranges? false ((a, a) :: acc) rest
termination_by cs => cs.length

/-- The set behind an opening bracket. -/
def set? : List Marked → Option (GlobItem × List Marked)
  | ('!', false) :: rest => (ranges? true [] rest).map fun (rs, rest) => (.set true rs, rest)
  | ('^', false) :: rest => (ranges? true [] rest).map fun (rs, rest) => (.set true rs, rest)
  | rest => (ranges? true [] rest).map fun (rs, rest) => (.set false rs, rest)

/-- Read a pattern; the number bounds the steps, of which each takes a character. -/
def readFrom : Nat → List Marked → Glob
  | 0, _ => []
  | _, [] => []
  | steps + 1, ('*', false) :: rest => .many :: readFrom steps rest
  | steps + 1, ('?', false) :: rest => .any :: readFrom steps rest
  | steps + 1, ('[', false) :: rest =>
    match set? rest with
    | some (item, rest) => item :: readFrom steps rest
    | none => .char '[' :: readFrom steps rest
  | steps + 1, (c, _) :: rest => .char c :: readFrom steps rest

def read (pattern : List Marked) : Glob := readFrom pattern.length pattern

/-- The glob of a pattern without quoting. -/
def ofString (pattern : String) : Glob := read (unquoted pattern)

def inRanges (ranges : List (Char × Char)) (c : Char) : Bool :=
  ranges.any fun (a, b) => decide (a ≤ c) && decide (c ≤ b)

/-- All ends of a text, the text itself first and the empty one last. -/
def suffixes : List Char → List (List Char)
  | [] => [[]]
  | c :: cs => (c :: cs) :: suffixes cs

/-- Does the glob stand for the whole text? -/
def fits : Glob → List Char → Bool
  | [], cs => cs.isEmpty
  | .many :: items, cs => (suffixes cs).any fun rest => fits items rest
  | _ :: _, [] => false
  | .char a :: items, c :: cs => a == c && fits items cs
  | .any :: items, _ :: cs => fits items cs
  | .set negated ranges :: items, c :: cs => inRanges ranges c != negated && fits items cs

/-- Has the pattern anything to stand for but itself? -/
def isPattern (g : Glob) : Bool :=
  g.any fun
    | .char _ => false
    | _ => true

end Glob

end FeatureSurvey
