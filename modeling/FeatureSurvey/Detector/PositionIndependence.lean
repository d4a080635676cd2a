import FeatureSurvey.Text.Search

/-!
# `Detector/PositionIndependence.lean` — flags of position-independent executables

A binary is laid out afresh in memory at each start only if it was linked as a
position-independent executable, and the line that links it shows that by one of two flags.
-/

set_option autoImplicit false

namespace FeatureSurvey.PositionIndependence

def flags : List String := ["-fPIE", "-pie"]

def hasFlag (line : String) : Bool := flags.any fun flag => Text.contains line flag

/-- Of several lines that link, the first decides; without any the answer is no. -/
def ofLinkLines : List String → Bool
  | [] => false
  | line :: _ => hasFlag line

end FeatureSurvey.PositionIndependence
