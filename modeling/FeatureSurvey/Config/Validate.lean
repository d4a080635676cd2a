import FeatureSurvey.Config.Basic
import FeatureSurvey.Error
import FeatureSurvey.Text.Blank

/-!
# `Config/Validate.lean` — faults that show without a request

The names of detectors have to be told apart, so each must be more than white space and none may
stand twice; the same holds for parsers; and tools must be given time. `fault?` gives the first
fault in the order of declaration, detectors before parsers before the time allowed.
-/

set_option autoImplicit false

namespace FeatureSurvey

namespace Config

/-- The first name that is blank or was seen before, going through the names in order. -/
def nameFault? (unnamed : ConfigFault) (repeated : String → ConfigFault) (seen : List String) :
    List String → Option ConfigFault
  | [] => none
  | name :: rest =>
    if Text.isBlankText name then some unnamed
    else if seen.contains name then some (repeated name)
    else nameFault? unnamed repeated (name :: seen) rest

def fault? (c : Config) : Option ConfigFault :=
  nameFault? .unnamedDetector .repeatedDetector [] (c.detectors.map (·.name)) <|>
    nameFault? .unnamedParser .repeatedParser [] (c.parsers.map (·.name)) <|>
    if c.toolTimeout = 0 then some .zeroTimeout else none

def validate (c : Config) : Except SurveyError Unit :=
  match c.fault? with
  | some fault => .error (.config fault)
  | none => .ok ()

end Config

end FeatureSurvey
