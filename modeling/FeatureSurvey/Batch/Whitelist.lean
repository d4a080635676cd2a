import FeatureSurvey.Data.Table
import FeatureSurvey.Text.Blank
import FeatureSurvey.Text.Lines
import FeatureSurvey.Text.Search

/-!
# `Batch/Whitelist.lean` — repositories that may be cloned

Repositories on one large host are cloned only if a list names them; others always may be. The
list has one address a line.
-/

set_option autoImplicit false

namespace FeatureSurvey

/-- The listed addresses, as a table without values. -/
structure Whitelist where
  urls : Table Unit
  deriving DecidableEq

namespace Whitelist

def empty : Whitelist := ⟨∅⟩

def ofText (body : String) : Whitelist :=
  ⟨Table.ofList ((((Text.lines body).map Text.trim).filter fun line => !line.isEmpty).map (·, ()))⟩

def contains (w : Whitelist) (url : String) : Bool := (w.urls.get? url).isSome

/-- The addresses in order. -/
def entries (w : Whitelist) : List String := w.urls.names

/-- The host whose repositories have to be listed. -/
def guardedHost : String := "github.com"

def allows (w : Whitelist) (url : String) : Bool :=
  !Text.contains url guardedHost || w.contains url

end Whitelist

end FeatureSurvey
