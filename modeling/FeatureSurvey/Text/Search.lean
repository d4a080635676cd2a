/-!
# `Text/Search.lean` — finding and replacing text

Occurrence, replacement and splitting, over lists of characters, with their counterparts on
strings.
-/

set_option autoImplicit false

namespace FeatureSurvey.Text

/-- Does `pat` stand somewhere in the text as one piece? -/
def occursIn (pat : List Char) : List Char → Bool
  | [] => pat.isEmpty
  | c :: cs => pat.isPrefixOf (c :: cs) || occursIn pat cs

def contains (s pat : String) : Bool := occursIn pat.toList s.toList

/-- What follows `start`, if the text begins with it. -/
def dropStart? (start cs : List Char) : Option (List Char) :=
  if start.isPrefixOf cs then some (cs.drop start.length) else none

def stripStart? (s start : String) : Option String :=
  (dropStart? start.toList s.toList).map String.ofList

def startsWith (s start : String) : Bool := start.toList.isPrefixOf s.toList

def endsWith (s tail : String) : Bool := tail.toList.reverse.isPrefixOf s.toList.reverse

/-- Replace the occurrences of `pat`, left to right and without overlap; `skip` characters of an
occurrence already replaced are still to be passed over. -/
def replaceFrom (pat value : List Char) : Nat → List Char → List Char
  | _, [] => []
  | skip + 1, _ :: cs => replaceFrom pat value skip cs
  | 0, c :: cs =>
    if pat.isPrefixOf (c :: cs) then value ++ replaceFrom pat value (pat.length - 1) cs
    else c :: replaceFrom pat value 0 cs

/-- Replace every occurrence of a text that is not empty. -/
def replace (s pat value : String) : String :=
  String.ofList (replaceFrom pat.toList value.toList 0 s.toList)

/-- Cut at the first `sep`, which belongs to neither part. -/
def cutAt? (sep : Char) : List Char → Option (List Char × List Char)
  | [] => none
  | c :: cs => if c = sep then some ([], cs) else (cutAt? sep cs).map fun (a, b) => (c :: a, b)

def splitOnce? (s : String) (sep : Char) : Option (String × String) :=
  (cutAt? sep s.toList).map fun (a, b) => (String.ofList a, String.ofList b)

/-- The pieces between separators: one more than there are separators. -/
def splitChars (sep : Char) : List Char → List (List Char)
  | [] => [[]]
  | c :: cs =>
    match splitChars sep cs with
    | [] => [[c]]
    | piece :: rest => if c = sep then [] :: piece :: rest else (c :: piece) :: rest

def splitOn (s : String) (sep : Char) : List String :=
  (splitChars sep s.toList).map String.ofList

/-! ## The whole is its parts -/

theorem splitChars_ne_nil (sep : Char) (cs : List Char) : splitChars sep cs ≠ [] := by
  cases cs with
  | nil => simp [splitChars]
  | cons c cs =>
    unfold splitChars
    split
    · simp
    · split <;> simp

end FeatureSurvey.Text
