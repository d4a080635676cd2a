import FeatureSurvey.Data.Value
import FeatureSurvey.Text.Search

/-!
# `Detector/Version.lean` — comparing dotted versions

A version is compared part by part between its points. Of a part only the digits it begins with
count; a part without digits, or with more than a 64-bit word holds, counts as zero, and so does
a part that only the other version has.
-/

set_option autoImplicit false

namespace FeatureSurvey.Version

/-- The number that a run of digits denotes. -/
def number (digits : List Char) : Nat := digits.foldl (fun n c => n * 10 + (c.toNat - '0'.toNat)) 0

def component (part : List Char) : Nat :=
  let n := number (part.takeWhile Char.isDigit)
  if n ≤ maxWord then n else 0

def components (version : String) : List Nat :=
  (Text.splitChars '.' version.toList).map component

/-- Compare part by part, the shorter list going on with zeros. -/
def compareParts : List Nat → List Nat → Ordering
  | [], [] => .eq
  | a :: as, [] => (Ord.compare a 0).then (compareParts as [])
  | [], b :: bs => (Ord.compare 0 b).then (compareParts [] bs)
  | a :: as, b :: bs => (Ord.compare a b).then (compareParts as bs)

def compare (a b : String) : Ordering := compareParts (components a) (components b)

end FeatureSurvey.Version
