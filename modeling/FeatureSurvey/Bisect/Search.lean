import FeatureSurvey.Host.Job

/-!
# `Bisect/Search.lean` — the commit at which something begins

A history is a list of commits, oldest first, and an oracle says of a commit whether the thing
looked for is there. On the assumption that it never goes away again, the commit at which it
begins is found by halving: after the newest and the oldest commit have been asked about, the
search keeps an older commit without the thing and a newer one with it, and asks about the one
in the middle, until the two are neighbours.

An oracle may fail, may answer differently from one time to the next, and may act on the world.
The first failure ends the search.
-/

set_option autoImplicit false

namespace FeatureSurvey

namespace Bisect

/-- Why no commit is found. -/
inductive NotFound where
  | absentAtNewest | presentAtOldest | emptyHistory
  deriving DecidableEq, Repr

inductive Verdict where
  | introduced (commit : String)
  | notFound (reason : NotFound)
  deriving DecidableEq, Repr

/-- What a search finds, and how often it asked. -/
structure Outcome where
  verdict : Verdict
  evaluations : Nat
  deriving DecidableEq, Repr

def Outcome.commit? (o : Outcome) : Option String :=
  match o.verdict with
  | .introduced commit => some commit
  | .notFound _ => none

/-- Something that can be asked about a commit. -/
abbrev Oracle (S : Type) := String → Job S Bool

variable {S : Type}

/-- Halve the stretch between a position without the thing and a later one with it. -/
def narrow (history : List String) (oracle : Oracle S) (lo hi evaluations : Nat)
    (within : hi < history.length) : Job S Outcome :=
  if apart : 1 < hi - lo then do
    let mid := lo + (hi - lo) / 2
    if ← oracle (history.get ⟨mid, by omega⟩) then
      narrow history oracle lo mid (evaluations + 1) (by omega)
    else
      narrow history oracle mid hi (evaluations + 1) within
  else
    pure ⟨.introduced history[hi], evaluations⟩
termination_by hi - lo

/-- Search a history, oldest commit first, for the commit at which the oracle turns to yes. -/
def findIntroduction (history : List String) (oracle : Oracle S) : Job S Outcome :=
  match history with
  | [] => pure ⟨.notFound .emptyHistory, 0⟩
  | oldest :: rest => do
    let newest := (oldest :: rest).getLast (by simp)
    if ← oracle newest then
      if rest.isEmpty then pure ⟨.notFound .presentAtOldest, 1⟩
      else if ← oracle oldest then pure ⟨.notFound .presentAtOldest, 2⟩
      else narrow (oldest :: rest) oracle 0 rest.length 2 (by simp)
    else pure ⟨.notFound .absentAtNewest, 1⟩

end Bisect

end FeatureSurvey
