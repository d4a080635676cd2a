import FeatureSurvey.Text.Blank
import FeatureSurvey.Text.Search

/-!
# `Batch/Template.lean` — command templates

A command is given as a template: words between white space, in which names between braces stand
for values. The template is cut into words first, so a value is never cut, whatever it holds.
The names are then replaced one after another, in the order in which the values are given.
-/

set_option autoImplicit false

namespace FeatureSurvey.Template

def placeholder (name : String) : String := "\x7b" ++ name ++ "\x7d"

def fill (word : String) (values : List (String × String)) : String :=
  values.foldl (fun word (name, value) => Text.replace word (placeholder name) value) word

/-- The command's words: the program and its arguments. -/
def render (template : String) (values : List (String × String)) : List String :=
  (Text.words template).map fun word => fill word values

end FeatureSurvey.Template
