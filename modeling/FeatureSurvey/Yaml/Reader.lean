import FeatureSurvey.Data.Source
import FeatureSurvey.Yaml.Node

/-!
# `Yaml/Reader.lean` — YAML text as a source

Aliases are replaced by the nodes they stand for. Two limits make pieces unreadable rather than
the text malformed: lists and tables nested deeper than 128, which is also where a node that
contains its own alias ends, and more than a hundred replacements for each event of the text, so
that a short text cannot stand for an enormous tree. Each entry of the outermost mapping has the
whole number of replacements to itself.
-/

set_option autoImplicit false

namespace FeatureSurvey.Yaml

/-- The deepest nesting of sequences and mappings that can be read. -/
def nestingLimit : Nat := 128

/-- The node that answers for a number: of those anchored under it the one that began last. -/
def Outline.target? (o : Outline) (number : Nat) : Option Node :=
  let candidates := o.anchored.filter (·.number == number)
  (candidates.foldl (fun best a =>
    match best with
    | some b => if b.order < a.order then some a else some b
    | none => some a) (none : Option Anchored)).map (·.node)

/-- Mark a collection that is under a local tag. -/
def underTag (tag : Option String) (s : Source) : Source :=
  if tag.any Scalar.isLocalTag then .tagged s else s

mutual

/-- The source of a node, `depth` levels of nesting and `budget` replacements being left; with
the replacements left over. -/
def expand (o : Outline) : Nat → Nat → Nat → Node → Source × Nat
  | 0, _, budget, _ => (.unreadable, budget)
  | fuel + 1, depth, budget, n =>
    match n with
    | .scalar w => (.scalar w, budget)
    | .alias number =>
      if budget = 0 then (.unreadable, 0)
      else
        match o.target? number with
        | some target => expand o fuel depth (budget - 1) target
        | none => (.unreadable, budget)
    | .sequence tag items =>
      if depth = 0 then (.unreadable, budget)
      else
        let (items, budget) := expandItems o fuel (depth - 1) budget items
        (underTag tag (.list items), budget)
    | .mapping tag entries =>
      if depth = 0 then (.unreadable, budget)
      else
        let (entries, budget) := expandEntries o fuel (depth - 1) budget entries
        (underTag tag (.table entries), budget)

def expandItems (o : Outline) (fuel depth budget : Nat) : List Node → List Source × Nat
  | [] => ([], budget)
  | n :: rest =>
    let (s, budget) := expand o fuel depth budget n
    let (rest, budget) := expandItems o fuel depth budget rest
    (s :: rest, budget)

def expandEntries (o : Outline) (fuel depth budget : Nat) :
    List (Node × Node) → List (Source × Source) × Nat
  | [] => ([], budget)
  | (k, v) :: rest =>
    let (k, budget) := expand o fuel depth budget k
    let (v, budget) := expand o fuel depth budget v
    let (rest, budget) := expandEntries o fuel depth budget rest
    ((k, v) :: rest, budget)

end

/-- The source of a document: an alias may take the place of any node, so every level costs at
most two steps. -/
def Outline.source (o : Outline) : Source :=
  let fuel := 2 * nestingLimit + 4
  let budget := 100 * o.events
  let whole (depth : Nat) (n : Node) : Source := (expand o fuel depth budget n).1
  match o.root with
  | none => .scalar ⟨"", .plain, none⟩
  | some (.mapping tag entries) =>
    underTag tag (.table (entries.map fun (k, v) =>
      (whole (nestingLimit - 1) k, whole (nestingLimit - 1) v)))
  | some n => whole nestingLimit n

/-- The source of a YAML text that holds at most one document. -/
def read? (text : String) : Option Source := (outline? text).map Outline.source

end FeatureSurvey.Yaml
