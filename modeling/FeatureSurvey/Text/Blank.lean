/-!
# `Text/Blank.lean` — white space, trimming and words

White space here is the character standard's own list of 25 characters: it holds the no-break
spaces and the line and paragraph separators, and it does not hold the zero-width space or the
Mongolian vowel separator. Names, statuses and command templates are all trimmed and cut by
this one list.
-/

set_option autoImplicit false

namespace FeatureSurvey.Text

def isBlank (c : Char) : Bool :=
  let n := c.toNat
  (9 ≤ n && n ≤ 13) || n == 32 || n == 0x85 || n == 0xA0 || n == 0x1680 ||
    (0x2000 ≤ n && n ≤ 0x200A) || n == 0x2028 || n == 0x2029 || n == 0x202F || n == 0x205F ||
    n == 0x3000

def trimLeft (cs : List Char) : List Char := cs.dropWhile isBlank

def trimRight (cs : List Char) : List Char := (trimLeft cs.reverse).reverse

def trimChars (cs : List Char) : List Char := trimRight (trimLeft cs)

/-- Drop the white space at both ends. -/
def trim (s : String) : String := String.ofList (trimChars s.toList)

/-- Is there nothing but white space? -/
def isBlankText (s : String) : Bool := s.toList.all isBlank

/-- Cut into the maximal runs without white space; `run` is the one in progress, reversed. -/
def wordsFrom (run : List Char) : List Char → List (List Char)
  | [] => if run.isEmpty then [] else [run.reverse]
  | c :: cs =>
    if isBlank c then
      if run.isEmpty then wordsFrom [] cs else run.reverse :: wordsFrom [] cs
    else wordsFrom (c :: run) cs

/-- The maximal runs of characters that are not white space, in order. -/
def words (s : String) : List String := (wordsFrom [] s.toList).map String.ofList

end FeatureSurvey.Text
