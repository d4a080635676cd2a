import FeatureSurvey.Detector.Version
import FeatureSurvey.Text.Search

/-!
# `Detector/LanguageStandard.lean` — the oldest language standard in use

A compiler line names its language standard in one of eighteen spellings, and several spellings
mean the same standard. The spellings found are read off the lines as plain text; where there is
none, the compiler's own banner says which standard it uses by default: a compiler newer than
`6.1` uses the one of 2014, older ones an older one.

A spelling is told apart by its last two characters.
-/

set_option autoImplicit false

namespace FeatureSurvey

/-- The standards, oldest first. -/
inductive Standard where
  | cxx98 | cxx03 | cxx11 | cxx14 | cxx17 | cxx20
  deriving DecidableEq, Repr

namespace Standard

def name : Standard → String
  | .cxx98 => "c++98"
  | .cxx03 => "c++03"
  | .cxx11 => "c++11"
  | .cxx14 => "c++14"
  | .cxx17 => "c++17"
  | .cxx20 => "c++2a"

def rank : Standard → Nat
  | .cxx98 => 0
  | .cxx03 => 1
  | .cxx11 => 2
  | .cxx14 => 3
  | .cxx17 => 4
  | .cxx20 => 5

def spellings : List String := [
  "c++98", "c++03", "gnu++98", "gnu++03", "c++11", "c++0x", "gnu++11", "gnu++0x", "c++14",
  "c++1y", "gnu++14", "gnu++1y", "c++17", "c++1z", "gnu++17", "gnu++1z", "c++2a", "gnu++2a"]

/-- The standard whose spellings end in this way; the two characters come last one first. -/
def ofLastTwo? : List Char → Option Standard
  | '8' :: '9' :: _ => some .cxx98
  | '3' :: '0' :: _ => some .cxx03
  | 'x' :: '0' :: _ => some .cxx11
  | '1' :: '1' :: _ => some .cxx11
  | '4' :: '1' :: _ => some .cxx14
  | 'y' :: '1' :: _ => some .cxx14
  | '7' :: '1' :: _ => some .cxx17
  | 'z' :: '1' :: _ => some .cxx17
  | 'a' :: '2' :: _ => some .cxx20
  | _ => none

def ofSpelling? (spelling : String) : Option Standard := ofLastTwo? spelling.toList.reverse

def older (a b : Standard) : Standard := if b.rank < a.rank then b else a

/-- The oldest standard that one of the spellings names. -/
def oldest? (spellings : List String) : Option Standard :=
  match spellings.filterMap ofSpelling? with
  | [] => none
  | first :: rest => some (rest.foldl older first)

end Standard

/-! ## The compiler's banner -/

namespace Banner

def isVersionChar (c : Char) : Bool := c.isDigit || c == '.'

/-- Drop an epoch: digits and a colon. -/
def dropEpoch? (cs : List Char) : Option (List Char) :=
  match cs.takeWhile Char.isDigit, cs.dropWhile Char.isDigit with
  | _ :: _, ':' :: rest => some rest
  | _, _ => none

/-- A version, behind which the line still has a closing parenthesis. -/
def closedVersion? (cs : List Char) : Option (List Char) :=
  let version := cs.takeWhile isVersionChar
  let line := (cs.dropWhile isVersionChar).takeWhile fun c => c != '\n'
  if version.isEmpty || !line.contains ')' then none else some version

/-- The version of a banner that begins right here. An epoch is passed over, unless only its
digits can be the version. -/
def versionHere? (cs : List Char) : Option (List Char) := do
  let rest ← Text.dropStart? "g++ (= ".toList cs
  ((dropEpoch? rest).bind closedVersion?) <|> closedVersion? rest

/-- The version in the first banner. -/
def version? : List Char → Option (List Char)
  | [] => none
  | c :: cs => versionHere? (c :: cs) <|> version? cs

end Banner

namespace Standard

/-- The last compiler version whose default is older than the standard of 2014. -/
def lastOldDefault : String := "6.1"

/-- The spellings that occur in some line, in the order of the table. -/
def mentioned (lines : List String) : List String :=
  spellings.filter fun spelling => lines.any fun line => Text.contains line spelling

/-- The standard that a compiler of this version uses by default. -/
def defaultOf (version : List Char) : Standard :=
  if Version.compare lastOldDefault (String.ofList version) = .lt then cxx14 else cxx03

/-- The default of the compiler that the first banner names. -/
def byBanner (lines : List String) : List String :=
  match Banner.version? (String.intercalate "\n" lines).toList with
  | some version => [(defaultOf version).name]
  | none => []

/-- The spellings that occur in the lines; without any, the default of the compiler that the
banner names. -/
def spellingsIn (lines : List String) : List String :=
  let found := mentioned lines
  if !found.isEmpty then found else byBanner lines

end Standard

end FeatureSurvey
