import FeatureSurvey.Data.Fields
import FeatureSurvey.Data.Table

/-!
# `Batch/Package.lean` — packages and their records

A package list gives for each package its names, its rank, and the commands that download it. The
record of a package that could be processed holds what was detected and, if its repository was
searched, when each feature came in. Fields that may be absent are left out when they are.

What was detected is kept as a data value whose tables are sorted by name, as everything read
back from a file is.
-/

set_option autoImplicit false

namespace FeatureSurvey

open Fields

/-! ## Sorted values -/

namespace Value

mutual

/-- The value with every table sorted by name, and the last entry for each name. -/
def sorted : Value → Value
  | .list items => .list (sortedItems items)
  | .table entries => .record (Table.ofList (sortedEntries entries)).entries
  | v => v

def sortedItems : List Value → List Value
  | [] => []
  | v :: rest => sorted v :: sortedItems rest

/-- Entries whose names are texts; there are no others where this is used. -/
def sortedEntries : List (Value × Value) → List (String × Value)
  | [] => []
  | (.text name, v) :: rest => (name, sorted v) :: sortedEntries rest
  | _ :: rest => sortedEntries rest

end

theorem sortedEntries_record (fields : List (String × Value)) :
    sortedEntries (fields.map fun f => (.text f.1, f.2)) =
      fields.map fun f => (f.1, f.2.sorted) := by
  induction fields with
  | nil => rfl
  | cons f rest ih => rw [List.map_cons, sortedEntries, ih, List.map_cons]

mutual

theorem sorted_sorted : (v : Value) → v.sorted.sorted = v.sorted
  | .null => rfl
  | .bool _ => rfl
  | .int _ => rfl
  | .real _ => rfl
  | .text _ => rfl
  | .list items => by
    rw [sorted, sorted, sortedItems_sortedItems items]
  | .table entries => by
    have hmembers : ∀ e ∈ (Table.ofList (sortedEntries entries)).entries, e.2.sorted = e.2 :=
      fun e he => sorted_of_mem_sortedEntries entries e (Table.mem_of_mem_ofList he)
    rw [sorted, record, sorted, sortedEntries_record, List.map_congr_left fun e he => ?_,
      List.map_id, Table.ofList_entries]
    · rfl
    · exact Prod.ext rfl (hmembers e he)

theorem sortedItems_sortedItems : (items : List Value) →
    sortedItems (sortedItems items) = sortedItems items
  | [] => rfl
  | v :: rest => by
    rw [sortedItems, sortedItems, sorted_sorted v, sortedItems_sortedItems rest]

theorem sorted_of_mem_sortedEntries : (entries : List (Value × Value)) →
    ∀ e ∈ sortedEntries entries, e.2.sorted = e.2
  | [], e, he => absurd he List.not_mem_nil
  | (name, v) :: rest, e, he => by
    have hrest := sorted_of_mem_sortedEntries rest e
    cases name with
    | text s =>
      rcases List.mem_cons.1 he with rfl | he
      · exact sorted_sorted v
      · exact hrest he
    | _ => exact hrest he

end

end Value

/-! ## Package lists -/

structure PackageInfo where
  name : String
  rank : UInt64
  source : String
  version : String
  maintainer : Option String := none
  repository : Option String := none
  downloadSource : Option String := none
  downloadBinary : Option String := none
  deriving DecidableEq, Inhabited

/-- An entry that is there only with a text. -/
def optionalEntry (name : String) (text : Option String) : List (String × Value) :=
  (text.map fun s => (name, Value.text s)).toList

namespace PackageInfo

def fields : List (List String) :=
  [["package_name"], ["rank"], ["source"], ["version_number"], ["maintainer"], ["git_repo_url"],
    ["download_source_cmd"], ["download_binary_cmd"]]

def toValue (p : PackageInfo) : Value :=
  .record ([("package_name", .text p.name), ("rank", .word p.rank), ("source", .text p.source),
    ("version_number", .text p.version)] ++ optionalEntry "maintainer" p.maintainer ++
    optionalEntry "git_repo_url" p.repository ++
    optionalEntry "download_source_cmd" p.downloadSource ++
    optionalEntry "download_binary_cmd" p.downloadBinary)

/-- A text that may be absent, by null or by a missing field. -/
def text? (s : Option Source) : Option (Option String) :=
  optional? none (Source.asOption? Source.asText?) s

def ofSource? (s : Source) : Option PackageInfo := do
  match ← Fields.ofSource? .json fields s with
  | [name, rank, source, version, maintainer, repository, downloadSource, downloadBinary] =>
    some {
      name := ← required? Source.asText? name
      rank := ← required? Source.asWord? rank
      source := ← required? Source.asText? source
      version := ← required? Source.asText? version
      maintainer := ← text? maintainer
      repository := ← text? repository
      downloadSource := ← text? downloadSource
      downloadBinary := ← text? downloadBinary }
  | _ => none

end PackageInfo

/-! ## Records -/

structure FeatureIntroduction where
  commit : String
  timestamp : String
  deriving DecidableEq, Repr

namespace FeatureIntroduction

def fields : List (List String) := [["commit"], ["timestamp"]]

def toValue (i : FeatureIntroduction) : Value :=
  .record [("commit", .text i.commit), ("timestamp", .text i.timestamp)]

def ofSource? (s : Source) : Option FeatureIntroduction := do
  match ← Fields.ofSource? .json fields s with
  | [commit, timestamp] =>
    some ⟨← required? Source.asText? commit, ← required? Source.asText? timestamp⟩
  | _ => none

end FeatureIntroduction

/-- What a search of a package's repository found. -/
structure BisectionData where
  repository : String
  /-- The author's date of the repository's first commit. -/
  creation : String
  features : Table FeatureIntroduction
  deriving DecidableEq

namespace BisectionData

def fields : List (List String) := [["git_repo_url"], ["creation_timestamp"], ["features"]]

def toValue (b : BisectionData) : Value :=
  .record [("git_repo_url", .text b.repository), ("creation_timestamp", .text b.creation),
    ("features", .record (b.features.entries.map fun e => (e.1, e.2.toValue)))]

def features? (s : Source) : Option (Table FeatureIntroduction) := do
  let entries ← (← s.asEntries?).mapM fun (name, introduction) => do
    some (← name.asText?, ← FeatureIntroduction.ofSource? introduction)
  some (Table.ofList entries)

def ofSource? (s : Source) : Option BisectionData := do
  match ← Fields.ofSource? .json fields s with
  | [repository, creation, features] =>
    some {
      repository := ← required? Source.asText? repository
      creation := ← required? Source.asText? creation
      features := ← required? features? features }
  | _ => none

end BisectionData

structure PackageRecord where
  name : String
  rank : UInt64
  source : String
  version : String
  collected : String
  /-- The detected features, as a value with sorted tables. -/
  detected : Value
  sorted : detected.sorted = detected
  creationDate : Option String := none
  bisection : Option BisectionData := none
  maintainer : Option String := none

instance : Inhabited PackageRecord :=
  ⟨{ name := "", rank := 0, source := "", version := "", collected := "", detected := .null,
     sorted := rfl }⟩

namespace PackageRecord

def fields : List (List String) :=
  [["package_name"], ["rank"], ["source"], ["version_number"], ["data_collection_timestamp"],
    ["detection_tool_output"], ["creation_date"], ["git_bisection_data"], ["maintainer"]]

def toValue (r : PackageRecord) : Value :=
  .record ([("package_name", .text r.name), ("rank", .word r.rank), ("source", .text r.source),
    ("version_number", .text r.version), ("data_collection_timestamp", .text r.collected),
    ("detection_tool_output", r.detected)] ++ optionalEntry "creation_date" r.creationDate ++
    (r.bisection.map fun b => ("git_bisection_data", b.toValue)).toList ++
    optionalEntry "maintainer" r.maintainer)

def ofSource? (s : Source) : Option PackageRecord := do
  match ← Fields.ofSource? .json fields s with
  | [name, rank, source, version, collected, detected, creationDate, bisection, maintainer] =>
    let detected ← required? Source.read? detected
    some {
      name := ← required? Source.asText? name
      rank := ← required? Source.asWord? rank
      source := ← required? Source.asText? source
      version := ← required? Source.asText? version
      collected := ← required? Source.asText? collected
      detected := detected.sorted
      sorted := detected.sorted_sorted
      creationDate := ← PackageInfo.text? creationDate
      bisection := ← optional? none (Source.asOption? BisectionData.ofSource?) bisection
      maintainer := ← PackageInfo.text? maintainer }
  | _ => none

end PackageRecord

/-- A list whose items are all read. -/
def Source.listOf? {α : Type} (read : Source → Option α) (s : Source) : Option (List α) :=
  match s.opened with
  | .list items => items.mapM read
  | _ => none

end FeatureSurvey
