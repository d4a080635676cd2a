/-!
# `Pattern/Regex.lean` — regular expressions on lines

An expression is matched against a line, which is an array of characters. What it can match from
a position on is the list of hits: where the match ends, and what its groups took. Of all matches
the one that starts first counts, and of those the longest.

A repetition goes forward in rounds, each of which adds one repetition to every hit of the round
before. Hits that end where an earlier one ended are dropped, so there are never more hits than
positions and no more rounds than characters are left.
-/

set_option autoImplicit false

namespace FeatureSurvey

/-- One character of a set. -/
structure CharSet where
  negated : Bool := false
  ranges : List (Char × Char)
  deriving DecidableEq, Repr

/-- Do the ranges of a set hold a character? -/
def CharSet.holds (s : CharSet) (c : Char) : Bool :=
  s.ranges.any fun (a, b) => decide (a ≤ c) && decide (c ≤ b)

/-- The set of one character. -/
def CharSet.single (c : Char) : CharSet := { ranges := [(c, c)] }

inductive Regex where
  | empty
  | one (set : CharSet)
  | lineStart
  | lineEnd
  | wordStart
  | wordEnd
  | wordEdge
  | noWordEdge
  | sequence (a b : Regex)
  | either (a b : Regex)
  | repeated (a : Regex) (least : Nat) (most : Option Nat)
  | group (number : Nat) (a : Regex)
  /-- What a group took, once more. -/
  | again (number : Nat)
  deriving Repr

namespace Regex

/-- Where a match ends, and where its groups begin and end. -/
structure Hit where
  stop : Nat
  groups : List (Nat × Nat × Nat) := []

/-- A line, and whether upper and lower case are the same. -/
structure Subject where
  line : Array Char
  foldCase : Bool := false

namespace Subject

def swapCase (c : Char) : Char :=
  if c.isUpper then c.toLower else if c.isLower then c.toUpper else c

def accepts (s : Subject) (set : CharSet) (c : Char) : Bool :=
  (set.holds c || (s.foldCase && set.holds (swapCase c))) != set.negated

def same (s : Subject) (a b : Char) : Bool := a == b || (s.foldCase && a == swapCase b)

def isWordAt (s : Subject) (i : Nat) : Bool :=
  match s.line[i]? with
  | some c => c.isAlphanum || c == '_'
  | none => false

def isWordBefore (s : Subject) (i : Nat) : Bool := 0 < i && s.isWordAt (i - 1)

/-- Do the characters from `start` to `stop` stand at `i` too? -/
def repeatsAt (s : Subject) (start stop i : Nat) : Bool :=
  (List.range (stop - start)).all fun k =>
    match s.line[start + k]?, s.line[i + k]? with
    | some a, some b => s.same a b
    | _, _ => false

end Subject

/-- The hits that end where no hit before them ends; `seen` holds the ends known already. -/
def distinct (seen : List Nat) : List Hit → List Hit
  | [] => []
  | h :: rest =>
    if seen.contains h.stop then distinct seen rest else h :: distinct (h.stop :: seen) rest

/-- Add rounds of repetitions. `done` rounds have been made, the last of them with the hits
`front`; the hits kept stop at the positions `seen`. -/
def rounds (more : Hit → List Hit) (least : Nat) (most : Option Nat) :
    Nat → Nat → List Nat → List Hit → List Hit
  | 0, _, _, _ => []
  | fuel + 1, done, seen, front =>
    let kept := if least ≤ done then distinct seen front else []
    let seen := kept.map (·.stop) ++ seen
    if most == some done then kept
    else
      -- Before the least number is reached, a hit counts even if another one ended there.
      let starts := if least ≤ done then kept else distinct [] front
      if starts.isEmpty then kept
      else kept ++ rounds more least most fuel (done + 1) seen (starts.flatMap more)

/-- The hits of an expression from where a hit ends. -/
def hits (s : Subject) : Regex → Hit → List Hit
  | .empty, h => [h]
  | .one set, h =>
    match s.line[h.stop]? with
    | some c => if s.accepts set c then [{ h with stop := h.stop + 1 }] else []
    | none => []
  | .lineStart, h => if h.stop == 0 then [h] else []
  | .lineEnd, h => if h.stop == s.line.size then [h] else []
  | .wordStart, h => if !s.isWordBefore h.stop && s.isWordAt h.stop then [h] else []
  | .wordEnd, h => if s.isWordBefore h.stop && !s.isWordAt h.stop then [h] else []
  | .wordEdge, h => if s.isWordBefore h.stop != s.isWordAt h.stop then [h] else []
  | .noWordEdge, h => if s.isWordBefore h.stop == s.isWordAt h.stop then [h] else []
  | .sequence a b, h => distinct [] ((hits s a h).flatMap (hits s b))
  | .either a b, h => distinct [] (hits s a h ++ hits s b h)
  | .repeated a least most, h =>
    rounds (hits s a) least most (s.line.size + least + 2) 0 [] [h]
  | .group number a, h =>
    (hits s a h).map fun e =>
      { e with groups := (number, h.stop, e.stop) :: e.groups.filter fun g => g.1 != number }
  | .again number, h =>
    match h.groups.find? fun g => g.1 == number with
    | some (_, start, stop) =>
      if s.repeatsAt start stop h.stop then [{ h with stop := h.stop + (stop - start) }] else []
    | none => []

/-- The hit that ends last; of several the first. -/
def longest? : List Hit → Option Hit
  | [] => none
  | h :: rest =>
    match longest? rest with
    | some other => if h.stop < other.stop then some other else some h
    | none => some h

/-- The longest match that starts at a position. -/
def matchAt? (s : Subject) (r : Regex) (start : Nat) : Option Hit :=
  longest? (r.hits s { stop := start })

/-- The first match that starts at the position or behind it, with its start. -/
def findFrom? (s : Subject) (r : Regex) (start : Nat) : Option (Nat × Hit) :=
  (List.range' start (s.line.size + 1 - start)).findSome? fun i =>
    (matchAt? s r i).map (i, ·)

/-- Is there a match anywhere in the line? -/
def occurs (s : Subject) (r : Regex) : Bool := (findFrom? s r 0).isSome

end Regex

end FeatureSurvey
