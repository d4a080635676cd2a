import FeatureSurvey.Text.Search

/-!
# `Host/Path.lean` — paths as texts

A path is a text of pieces between slashes. Nothing here looks at the files a path may lead to:
these are the rules by which paths are joined, taken apart and compared as they are written.

Empty pieces and the piece `.` say nothing, with two exceptions at the very front: an empty first
piece makes the path start at the root, and a first piece `.` is a piece like any other.
-/

set_option autoImplicit false

namespace FeatureSurvey.Path

def pieces (path : String) : List String := Text.splitOn path '/'

def isAbsolute (path : String) : Bool := Text.startsWith path "/"

/-- Put a path behind another. An absolute path replaces it. -/
def join (base path : String) : String :=
  if isAbsolute path then path
  else if base.isEmpty || Text.endsWith base "/" then base ++ path
  else base ++ "/" ++ path

/-- Does a piece that is not the first one say anything? -/
def isTelling (piece : String) : Bool := !piece.isEmpty && piece != "."

/-- Drop the pieces at the end that say nothing; the list is reversed, so its last item is the
front of the path. -/
def dropSilent : List String → List String
  | [] => []
  | [front] => [front]
  | piece :: rest => if isTelling piece then piece :: rest else dropSilent rest

/-- The pieces up to the last one that says something, reversed. -/
def tellingPieces (path : String) : List String := dropSilent (pieces path).reverse

/-- The path without its last telling piece. -/
def parent? (path : String) : Option String :=
  match tellingPieces path with
  | [] => none
  | [front] => if front.isEmpty then none else some ""
  | _ :: rest =>
    match dropSilent rest with
    | [""] => some "/"
    | rest => some (String.intercalate "/" rest.reverse)

/-- The last telling piece, if it is a name. -/
def fileName? (path : String) : Option String :=
  match tellingPieces path with
  | [] => none
  | piece :: _ => if isTelling piece && piece != ".." then some piece else none

/-- The path without slashes at its end, except for the root. -/
def withoutTrailing (path : String) : String :=
  let kept := (path.toList.reverse.dropWhile fun c => c == '/').reverse
  if kept.isEmpty && !path.isEmpty then "/" else String.ofList kept

/-- Is this a way to write the current directory, and nothing but `.` and slashes? -/
def isHere (path : String) : Bool :=
  match pieces path with
  | "." :: rest => rest.all fun piece => !isTelling piece
  | _ => false

end FeatureSurvey.Path
