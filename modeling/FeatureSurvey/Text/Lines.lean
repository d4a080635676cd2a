/-!
# `Text/Lines.lean` — lines of a text

A line ends at a line feed, and a carriage return right before the feed belongs to the ending.
Text after the last feed is a line of its own (and keeps a carriage return at its end, since no
feed follows); a text that ends with a feed has no empty line after it.
-/

set_option autoImplicit false

namespace FeatureSurvey.Text

/-- Drop one carriage return at the end. -/
def dropReturn (cs : List Char) : List Char :=
  match cs.reverse with
  | '\r' :: rest => rest.reverse
  | _ => cs

/-- Cut at line feeds; `line` is the line in progress, reversed. -/
def linesFrom (line : List Char) : List Char → List (List Char)
  | [] => if line.isEmpty then [] else [line.reverse]
  | c :: cs =>
    if c = '\n' then dropReturn line.reverse :: linesFrom [] cs else linesFrom (c :: line) cs

def linesChars (cs : List Char) : List (List Char) := linesFrom [] cs

def lines (s : String) : List String := (linesChars s.toList).map String.ofList

end FeatureSurvey.Text
