/-!
# `Shell/Script.lean` — shell scripts

A script is a tree of commands, and a command is made of words. A word is a list of pieces: text,
and places at which the value of a parameter, the output of a script or the value of an
arithmetic expression is put in. Every piece knows whether it stands in quotes, for only what
stands outside is cut into fields and matched against file names.
-/

set_option autoImplicit false

namespace FeatureSurvey.Shell

/-- What a redirection does with its file descriptor. -/
inductive RedirectionMode where
  | read | write | append | duplicate
  deriving DecidableEq, Repr

mutual

inductive WordPiece where
  | text (s : String) (quoted : Bool)
  | parameter (name : String) (change : Change) (quoted : Bool)
  /-- What a script prints, without the line feeds at its end. -/
  | output (script : Script) (quoted : Bool)
  | arithmetic (word : List WordPiece) (quoted : Bool)

/-- What is made of the value of a parameter. In the first four, an empty value may count as
missing. -/
inductive Change where
  | none
  | fallback (orEmpty : Bool) (word : List WordPiece)
  | assign (orEmpty : Bool) (word : List WordPiece)
  | complain (orEmpty : Bool) (word : List WordPiece)
  | instead (orEmpty : Bool) (word : List WordPiece)
  | length
  | cutFront (longest : Bool) (pattern : List WordPiece)
  | cutBack (longest : Bool) (pattern : List WordPiece)

inductive Redirection where
  | mk (descriptor : Nat) (mode : RedirectionMode) (target : List WordPiece)

inductive Script where
  | nothing
  /-- A simple command, with the number of line feeds that follow its beginning in the text: it
  tells the line it stands on. -/
  | simple (feedsLeft : Nat) (assignments : List (String × List WordPiece))
      (words : List (List WordPiece)) (redirections : List Redirection)
  | pipe (a b : Script)
  | negate (a : Script)
  | andThen (a b : Script)
  | orElse (a b : Script)
  | sequence (a b : Script)
  | subshell (a : Script)
  | redirected (feedsLeft : Nat) (a : Script) (redirections : List Redirection)
  | branch (condition yes no : Script)
  /-- Go on while the condition succeeds, or, turned around, until it does. -/
  | loop (turned : Bool) (condition body : Script)
  /-- Without words, the arguments are gone through. -/
  | each (name : String) (words : Option (List (List WordPiece))) (body : Script)
  | choose (word : List WordPiece) (cases : List (List (List WordPiece) × Script))
  | define (name : String) (body : Script)

end

abbrev Word := List WordPiece

instance : Inhabited Script := ⟨.nothing⟩

end FeatureSurvey.Shell
