import FeatureSurvey.Data.Scalar

/-!
# `Yaml/Token.lean` — the tokens of a YAML text

Punctuation, names and scalars, and between them the marks that indentation stands for: a block
sequence or mapping opens where its first entry lies deeper than what surrounds it and closes
where a line lies further out.
-/

set_option autoImplicit false

namespace FeatureSurvey.Yaml

inductive Token where
  | versionDirective (major minor : Nat)
  | tagDirective (handle lead : String)
  | documentStart
  | documentEnd
  | streamEnd
  | blockSequenceStart
  | blockMappingStart
  | blockEnd
  | flowSequenceStart
  | flowSequenceEnd
  | flowMappingStart
  | flowMappingEnd
  | blockEntry
  | flowEntry
  | key
  | value
  | alias (name : String)
  | anchor (name : String)
  | tag (handle suffix : String)
  | scalar (text : String) (style : ScalarStyle)
  deriving DecidableEq, Repr

end FeatureSurvey.Yaml
