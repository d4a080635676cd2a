import FeatureSurvey.Data.Table
import FeatureSurvey.Text.Blank
import FeatureSurvey.Text.Lines
import FeatureSurvey.Text.Search

/-!
# `Detector/Patterns.lean` — patterns of source features

Some features are recognised by a pattern that a source line must match. Two kinds of detector
come with a table of patterns; options whose key is `pattern.` and a feature add to the table or
replace in it. Files are chosen by globs, which the option `include` lists between commas.
-/

set_option autoImplicit false

namespace FeatureSurvey.Patterns

/-- The globs searched unless others are given. -/
def defaultIncludes : List String := ["*.h", "*.cpp"]

def namedCasts : List (String × String) := [
  ("const_cast", "const_cast<.+>"),
  ("dynamic_cast", "dynamic_cast<.+>"),
  ("static_cast", "static_cast<.+>"),
  ("reinterpret_cast", "reinterpret_cast<.+>")]

def smartPointers : List (String × String) := [
  ("unique_ptr", "unique_ptr<.+>"),
  ("shared_ptr", "shared_ptr<.+>"),
  ("weak_ptr", "weak_ptr<.+>"),
  ("scoped_ptr", "scoped_ptr<.+>"),
  ("scoped_array", "scoped_array<.+>"),
  ("shared_array", "shared_array<.+>"),
  ("intrusive_ptr", "intrusive_ptr<.+>")]

/-- The built-in patterns, with those that the options give. -/
def withOptions (defaults : List (String × String)) (options : Table String) : Table String :=
  (options.entries.filterMap fun (key, pattern) =>
    (Text.stripStart? key "pattern.").map (·, pattern)).foldl
    (fun table e => table.insert e.1 e.2) (Table.ofList defaults)

/-- The globs that an `include` option lists. -/
def listedIncludes (option : String) : List String :=
  ((Text.splitOn option ',').map Text.trim).filter fun glob => !glob.isEmpty

/-- The given globs, or the default ones if none are given. -/
def includesOrDefault (globs : List String) : List String :=
  if globs.isEmpty then defaultIncludes else globs

/-- The number of matching lines in the output of a search: one is printed for each. -/
def countLines (stdout : String) : Nat :=
  ((Text.lines stdout).filter fun line => !line.isEmpty).length

end FeatureSurvey.Patterns
