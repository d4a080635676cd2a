import FeatureSurvey.Proofs.Batch.Introductions
import FeatureSurvey.Proofs.Data.Delivery
import FeatureSurvey.Proofs.Feature.Form
import FeatureSurvey.Proofs.Feature.History

/-!
# `Proofs/Batch/Records.lean` — the ways to write a record

A record is written in one of several ways. A field that is not there may be left out or be said to
be nothing, and the fields stand in the order of the record or by name. **A reader takes all of
these for the same record** (`PackageRecord.ofSource?_of_spelled`), whether it meets them as a value
or piece by piece.

What is written is a list of `Member`s, and `SpelledAs` relates these to the values they are written
as. Sorting the names leads from one of them to another (`SpelledAs.sorted`), and a source that
delivers one of them has a slot for each member (`SpelledAs.slots`). So a type only has to say what
its members are, and that its own form is one of the ways and each member is read from its slot.

The features that were found in a package are one member of its record. They are kept by name and
not in the order in which they were found; but each feature is there once, with the answer that was
found for it (`ResultRecord.heldBy_sorted`).
-/

set_option autoImplicit false

namespace FeatureSurvey

open Fields

/-! ## Sorted values -/

namespace Value

theorem sortedItems_eq_map (items : List Value) : sortedItems items = items.map sorted := by
  induction items with
  | nil => rfl
  | cons v rest ih => rw [sortedItems, ih, List.map_cons]

theorem sorted_list (items : List Value) : (list items).sorted = .list (items.map sorted) := by
  rw [sorted, sortedItems_eq_map]

/-- The members of a record, each sorted by itself. -/
def sortedFields (fields : List (String × Value)) : List (String × Value) :=
  fields.map fun f => (f.1, f.2.sorted)

theorem sorted_record (fields : List (String × Value)) :
    (record fields).sorted = .record (Table.ofList (sortedFields fields)).entries := by
  rw [record, sorted, sortedEntries_record]
  rfl

theorem map_fst_sortedFields (fields : List (String × Value)) :
    (sortedFields fields).map (·.1) = fields.map (·.1) := by
  rw [sortedFields, List.map_map]
  rfl

/-- Where no name comes twice, sorting does not add or drop a member. -/
theorem exists_sorted_record {fields fields' : List (String × Value)} (horder : fields.Perm fields')
    (distinct : (fields'.map (·.1)).Nodup) :
    ∃ inOrder, (record fields).sorted = .record inOrder ∧ inOrder.Perm (sortedFields fields') := by
  have hnames : ((sortedFields fields).map (·.1)).Nodup := by
    rw [map_fst_sortedFields]
    exact ((horder.map _).nodup_iff).2 distinct
  exact ⟨_, sorted_record fields, (Table.entries_ofList_perm hnames).trans (horder.map _)⟩

end Value

/-- What is written for fields that are told apart has no name twice. -/
theorem Fields.nodup_of_fits {α : Type} {spellings : List (List String)}
    {parts : List (List (String × α))} (apart : Apart spellings)
    (hfits : List.Forall₂ Fits spellings parts) : (parts.flatten.map (·.1)).Nodup := by
  induction hfits with
  | nil => exact .nil
  | @cons spelling part rest parts hpart hrest ih =>
    obtain ⟨hfirst, hothers⟩ := List.pairwise_cons.1 apart
    have hpart' : (part.map (·.1)).Nodup := by
      obtain ⟨honce, -⟩ := hpart
      rcases part with _ | ⟨e, _ | ⟨e', more⟩⟩
      · exact .nil
      · exact List.nodup_singleton _
      · exact absurd honce (by simp)
    rw [List.flatten_cons, List.map_append]
    refine List.nodup_append.2 ⟨hpart', ih hothers, fun a ha b hb hab => ?_⟩
    obtain ⟨e, he, rfl⟩ := List.mem_map.1 ha
    obtain ⟨e', he', rfl⟩ := List.mem_map.1 hb
    exact not_mem_of_apart hfirst hrest e' he' (hab ▸ hpart.spelled e he)

theorem written_optionalEntry (name : String) (text : Option String) :
    Written [name] (text = none) (· = .optionText text) (optionalEntry name text) := by
  cases text with
  | none => exact .omitted rfl
  | some s => exact .given List.mem_cons_self rfl

/-! ## Members -/

/-- A member of a record, and what may be written for it. -/
structure Member where
  name : String
  omissible : Prop
  given : Value → Prop
  sorted : ∀ v, given v → given v.sorted

namespace Member

def text (name s : String) : Member where
  name := name
  omissible := False
  given v := v = .text s
  sorted := by
    rintro _ rfl
    rfl

def word (name : String) (n : UInt64) : Member where
  name := name
  omissible := False
  given v := v = .word n
  sorted := by
    rintro _ rfl
    rfl

def optionText (name : String) (text : Option String) : Member where
  name := name
  omissible := text = none
  given v := v = .optionText text
  sorted := by
    rintro _ rfl
    cases text <;> rfl

def Written (m : Member) (part : List (String × Value)) : Prop :=
  Fields.Written [m.name] m.omissible m.given part

/-- A source delivers in this slot what may be written for the member. -/
def Fills (m : Member) (slot : Option Source) : Prop :=
  ∃ part, m.Written part ∧ Filled part slot

theorem Written.sorted {m : Member} {part : List (String × Value)} (h : m.Written part) :
    m.Written (Value.sortedFields part) := by
  cases h with
  | given hspelling h => exact .given hspelling (m.sorted _ h)
  | omitted h => exact .omitted h

section Fills

variable {β : Type} {name : String} {given : Value → Prop}
  {hsorted : ∀ v, given v → given v.sorted} {slot : Option Source}

theorem Fills.required? {ask : Source → Option β} {b : β}
    (h : Fills ⟨name, False, given, hsorted⟩ slot)
    (hask : ∀ v s, given v → s.Delivers v → ask s = some b) :
    Fields.required? ask slot = some b := by
  obtain ⟨part, hwritten, hfilled⟩ := h
  exact Fields.Written.required?_filled hwritten hfilled hask

theorem Fills.optional? {ask : Source → Option β} {fallback b : β}
    (h : Fills ⟨name, b = fallback, given, hsorted⟩ slot)
    (hask : ∀ v s, given v → s.Delivers v → ask s = some b) :
    Fields.optional? fallback ask slot = some b := by
  obtain ⟨part, hwritten, hfilled⟩ := h
  exact Fields.Written.optional?_filled hwritten hfilled hask

theorem Fills.text {s : String} (h : (Member.text name s).Fills slot) :
    Fields.required? Source.asText? slot = some s :=
  Fills.required? h fun _ _ hv hs => (hv ▸ hs).asText?

theorem Fills.word {n : UInt64} (h : (Member.word name n).Fills slot) :
    Fields.required? Source.asWord? slot = some n :=
  Fills.required? h fun _ _ hv hs => (hv ▸ hs).asWord?

theorem Fills.optionText {text : Option String} (h : (Member.optionText name text).Fills slot) :
    PackageInfo.text? slot = some text :=
  Fills.optional? h fun _ _ hv hs => (hv ▸ hs).asOptionText?

end Fills

end Member

/-- A way to write a record with these members. -/
inductive SpelledAs (members : List Member) : Value → Prop
  | intro {parts : List (List (String × Value))} {fields : List (String × Value)}
      (written : List.Forall₂ Member.Written members parts) (order : fields.Perm parts.flatten) :
      SpelledAs members (.record fields)

namespace SpelledAs

variable {members : List Member} {v : Value}

/-- No two members have the same name. -/
abbrev Distinct (members : List Member) : Prop := Apart (members.map fun m => [m.name])

theorem fits {parts : List (List (String × Value))}
    (h : List.Forall₂ Member.Written members parts) :
    List.Forall₂ Fits (members.map fun m => [m.name]) parts := by
  rw [List.forall₂_map_left_iff]
  exact h.imp fun _ _ => Fields.Written.fits

/-- Sorting leads from one way to another. -/
theorem sorted (h : SpelledAs members v) (distinct : Distinct members) :
    SpelledAs members v.sorted := by
  obtain ⟨written, order⟩ := h
  obtain ⟨inOrder, hsorted, hperm⟩ :=
    Value.exists_sorted_record order (nodup_of_fits distinct (fits written))
  have hwritten := List.forall₂_map_right_iff.2 (written.imp fun _ _ => Member.Written.sorted)
  rw [hsorted]
  exact .intro hwritten (hperm.trans (.of_eq List.map_flatten))

/-- A source that delivers one of them has a slot for each member. -/
theorem slots {s : Source} (h : SpelledAs members v) (distinct : Distinct members)
    (hs : s.Delivers v) :
    ∃ slots, Fields.ofSource? .json (members.map fun m => [m.name]) s = some slots ∧
      List.Forall₂ Member.Fills members slots := by
  obtain ⟨written, order⟩ := h
  obtain ⟨slots, hslots, hfilled⟩ := ofSource?_of_delivers distinct (fits written) order hs .json
  refine ⟨slots, hslots, ?_⟩
  clear hslots order hs distinct
  induction written generalizing slots with
  | nil =>
    cases hfilled
    exact .nil
  | cons hmember _ ih =>
    cases hfilled with
    | cons hslot hrest => exact .cons ⟨_, hmember, hslot⟩ (ih _ hrest)

end SpelledAs

/-! ## Introductions -/

namespace FeatureIntroduction

def members (i : FeatureIntroduction) : List Member :=
  [.text "commit" i.commit, .text "timestamp" i.timestamp]

/-- A way to write an introduction. -/
abbrev Spelled (i : FeatureIntroduction) : Value → Prop := SpelledAs i.members

variable {i : FeatureIntroduction} {v : Value}

theorem distinct_members (i : FeatureIntroduction) : SpelledAs.Distinct i.members :=
  (by decide : Apart fields)

theorem spelled_toValue (i : FeatureIntroduction) : i.Spelled i.toValue :=
  .intro (.cons (.given List.mem_cons_self rfl) (.cons (.given List.mem_cons_self rfl) .nil))
    (.refl _)

theorem ofSource?_of_spelled {s : Source} (h : i.Spelled v) (hs : s.Delivers v) :
    ofSource? s = some i := by
  obtain ⟨slots, hslots, hfills⟩ := h.slots i.distinct_members hs
  obtain _ | ⟨hcommit, _ | ⟨htimestamp, _ | _⟩⟩ := hfills
  rw [ofSource?, show Fields.ofSource? .json fields s = _ from hslots]
  simp only [Option.bind_eq_bind, Option.bind_some, hcommit.text, htimestamp.text]

end FeatureIntroduction

/-! ## Data of a search -/

namespace BisectionData

/-- A way to write introductions, under the names of their features. -/
inductive FeaturesSpelled (features : Table FeatureIntroduction) : Value → Prop
  | intro {fields fields' : List (String × Value)} (horder : fields.Perm fields')
      (h : List.Forall₂ (fun e f => e.1 = f.1 ∧ e.2.Spelled f.2) features.entries fields') :
      FeaturesSpelled features (.record fields)

variable {b : BisectionData} {t : Table FeatureIntroduction} {v : Value}

theorem FeaturesSpelled.sorted (h : FeaturesSpelled t v) : FeaturesSpelled t v.sorted := by
  cases h with
  | @intro fields fields' horder h =>
    have hnames : t.names = fields'.map (·.1) := by
      rw [Table.names, ← List.forall₂_eq_eq_eq, List.forall₂_map_left_iff,
        List.forall₂_map_right_iff]
      exact h.imp fun _ _ h => h.1
    obtain ⟨inOrder, hsorted, hperm⟩ :=
      Value.exists_sorted_record horder (hnames ▸ t.nodup_names)
    rw [hsorted]
    refine .intro hperm ?_
    rw [Value.sortedFields, List.forall₂_map_right_iff]
    exact h.imp fun e _ h => ⟨h.1, h.2.sorted e.2.distinct_members⟩

/-- The members of what a search found. -/
def members (b : BisectionData) : List Member :=
  [.text "git_repo_url" b.repository, .text "creation_timestamp" b.creation,
    ⟨"features", False, FeaturesSpelled b.features, fun _ => FeaturesSpelled.sorted⟩]

/-- A way to write what a search found. -/
abbrev Spelled (b : BisectionData) : Value → Prop := SpelledAs b.members

theorem distinct_members (b : BisectionData) : SpelledAs.Distinct b.members :=
  (by decide : Apart fields)

theorem spelled_toValue (b : BisectionData) : b.Spelled b.toValue := by
  have hfeatures : FeaturesSpelled b.features
      (.record (b.features.entries.map fun e => (e.1, e.2.toValue))) := by
    refine .intro (.refl _) ?_
    rw [List.forall₂_map_right_iff, List.forall₂_same]
    exact fun e _ => ⟨rfl, e.2.spelled_toValue⟩
  exact .intro (.cons (.given List.mem_cons_self rfl) (.cons (.given List.mem_cons_self rfl)
    (.cons (.given List.mem_cons_self hfeatures) .nil))) (.refl _)

theorem features?_of_spelled {s : Source} (h : FeaturesSpelled t v) (hs : s.Delivers v) :
    features? s = some t := by
  cases h with
  | @intro fields fields' horder h =>
    -- the table's entries, in the order in which they are written
    obtain ⟨entries, hwritten, hentries⟩ := List.perm_comp_forall₂ horder h.flip
    obtain ⟨members, hmembers, hdelivered⟩ := hs.entries
    rw [List.forall₂_map_right_iff] at hdelivered
    have hread : members.mapM (fun m => do
        some (← m.1.asText?, ← FeatureIntroduction.ofSource? m.2)) = some entries := by
      rw [mapM_eq_some_iff]
      clear horder h hentries hmembers hs
      induction hdelivered generalizing entries with
      | nil =>
        cases hwritten
        exact .nil
      | @cons m f members fields hm _ ih =>
        cases hwritten with
        | @cons _ e _ entries he hrest =>
          have hname : m.1.asText? = some e.1 := he.1 ▸ hm.1.asText?
          have hvalue : FeatureIntroduction.ofSource? m.2 = some e.2 :=
            FeatureIntroduction.ofSource?_of_spelled he.2 hm.2
          refine .cons ?_ (ih entries hrest)
          simp only [hname, hvalue, Option.bind_eq_bind, Option.bind_some]
    rw [features?, hmembers, Option.bind_eq_bind, Option.bind_some, hread]
    exact congrArg some (Table.ofList_perm hentries)

theorem ofSource?_of_spelled {s : Source} (h : b.Spelled v) (hs : s.Delivers v) :
    ofSource? s = some b := by
  obtain ⟨slots, hslots, hfills⟩ := h.slots b.distinct_members hs
  obtain _ | ⟨hrepository, _ | ⟨hcreation, _ | ⟨hfeatures, _ | _⟩⟩⟩ := hfills
  have hfeatures := hfeatures.required? fun _ _ => features?_of_spelled
  rw [ofSource?, show Fields.ofSource? .json fields s = _ from hslots]
  simp only [Option.bind_eq_bind, Option.bind_some, hrepository.text, hcreation.text, hfeatures]

end BisectionData

/-! ## Records -/

namespace PackageRecord

/-- A way to write the data of a search that may not have been made. -/
inductive BisectionSpelled : Option BisectionData → Value → Prop
  | absent : BisectionSpelled none .null
  | present {b : BisectionData} {v : Value} (h : b.Spelled v) : BisectionSpelled (some b) v

variable {r : PackageRecord} {v : Value}

theorem BisectionSpelled.sorted {b : Option BisectionData} (h : BisectionSpelled b v) :
    BisectionSpelled b v.sorted := by
  cases h with
  | absent => exact .absent
  | @present b _ h => exact .present (h.sorted b.distinct_members)

def members (r : PackageRecord) : List Member :=
  [.text "package_name" r.name, .word "rank" r.rank, .text "source" r.source,
    .text "version_number" r.version, .text "data_collection_timestamp" r.collected,
    ⟨"detection_tool_output", False, (Value.sorted · = r.detected),
      fun v h => v.sorted_sorted.trans h⟩,
    .optionText "creation_date" r.creationDate,
    ⟨"git_bisection_data", r.bisection = none, BisectionSpelled r.bisection, fun _ => .sorted⟩,
    .optionText "maintainer" r.maintainer]

/-- A way to write a record. -/
abbrev Spelled (r : PackageRecord) : Value → Prop := SpelledAs r.members

theorem distinct_members (r : PackageRecord) : SpelledAs.Distinct r.members :=
  (by decide : Apart fields)

/-- Its own form is one of the ways. -/
theorem spelled_toValue (r : PackageRecord) : r.Spelled r.toValue := by
  have hbisection : Written ["git_bisection_data"] (r.bisection = none)
      (BisectionSpelled r.bisection)
      (r.bisection.map fun b => ("git_bisection_data", b.toValue)).toList := by
    cases r.bisection with
    | none => exact .omitted rfl
    | some b => exact .given List.mem_cons_self (.present b.spelled_toValue)
  have htext {name text : String} : (Member.text name text).Written [(name, .text text)] :=
    .given List.mem_cons_self rfl
  have hrank : (Member.word "rank" r.rank).Written [("rank", .word r.rank)] :=
    .given List.mem_cons_self rfl
  have hwritten : List.Forall₂ Member.Written r.members _ :=
    .cons htext <| .cons hrank <| .cons htext <| .cons htext <| .cons htext <|
      .cons (.given List.mem_cons_self r.sorted) <|
      .cons (written_optionalEntry "creation_date" _) <| .cons hbisection <|
      .cons (written_optionalEntry "maintainer" _) .nil
  exact .intro hwritten (.of_eq (by simp))

theorem asOption?_of_spelled {b : Option BisectionData} {s : Source} (h : BisectionSpelled b v)
    (hs : s.Delivers v) : s.asOption? BisectionData.ofSource? = some b := by
  cases h with
  | absent =>
    cases hs
    rfl
  | @present b v h =>
    have hread := BisectionData.ofSource?_of_spelled h hs
    cases h with
    | intro _ _ => rw [hs.asOption?_table, hread]; rfl

/-- **A record is read back from each of the ways to write it.** -/
theorem ofSource?_of_spelled {s : Source} (h : r.Spelled v) (hs : s.Delivers v) :
    ofSource? s = some r := by
  obtain ⟨slots, hslots, hfills⟩ := h.slots r.distinct_members hs
  obtain _ | ⟨hname, _ | ⟨hrank, _ | ⟨hsource, _ | ⟨hversion, _ | ⟨hcollected, _ | ⟨hdetected,
    _ | ⟨hcreationDate, _ | ⟨hbisection, _ | ⟨hmaintainer, _ | _⟩⟩⟩⟩⟩⟩⟩⟩⟩ := hfills
  have hbisection := hbisection.optional? fun _ _ => asOption?_of_spelled
  obtain ⟨part, hwritten, hfilled⟩ := hdetected
  cases hwritten with
  | omitted h => exact h.elim
  | @given _ v _ hv =>
    cases hfilled with
    | @some _ source hdelivered =>
      have hdetected : required? Source.read? (some source) = some v := hdelivered.read?
      rw [ofSource?, show Fields.ofSource? .json fields s = _ from hslots]
      simp only [Option.bind_eq_bind, Option.bind_some, hname.text, hrank.word, hsource.text,
        hversion.text, hcollected.text, hdetected, hcreationDate.optionText, hbisection,
        hmaintainer.optionText]
      congr

end PackageRecord

/-! ## Lists of records -/

/-- A list is read if each of its items is. -/
theorem Source.listOf?_of_delivers {α : Type} {read : Source → Option α}
    {Spelled : α → Value → Prop}
    (hread : ∀ a v s, Spelled a v → Source.Delivers s v → read s = some a) {items : List α}
    {values : List Value} (h : List.Forall₂ Spelled items values) {s : Source}
    (hs : s.Delivers (.list values)) : s.listOf? read = some items := by
  obtain ⟨sources, hopened, hsources⟩ := hs.items
  rw [listOf?, hopened]
  show sources.mapM read = some items
  rw [mapM_eq_some_iff]
  clear hopened hs
  induction hsources generalizing items with
  | nil =>
    cases h
    exact .nil
  | cons hsource _ ih =>
    cases h with
    | cons hitem hrest => exact .cons (hread _ _ _ hitem hsource) (ih hrest)

theorem PackageRecord.listOf?_of_spelled {records : List PackageRecord} {values : List Value}
    (h : List.Forall₂ PackageRecord.Spelled records values) {s : Source}
    (hs : s.Delivers (.list values)) : s.listOf? PackageRecord.ofSource? = some records :=
  Source.listOf?_of_delivers (fun _ _ _ => PackageRecord.ofSource?_of_spelled) h hs

/-! ## Answers in a record -/

/-- The form of an answer is in order already. -/
theorem FeatureValue.sorted_toValue (v : FeatureValue) : v.toValue.sorted = v.toValue := by
  cases v with
  | bool b => rfl
  | text s => rfl
  | occurrences d count =>
    have hrising : (Value.sortedFields [("detected", .text d.name),
        ("occurrences", .word count)]).Pairwise fun a b => a.1 < b.1 :=
      List.pairwise_pair.2 (by decide : "detected" < "occurrences")
    rw [toValue, Value.sorted_record, Table.entries_ofList_of_pairwise hrising]
    rfl
  | table t =>
    have hrising : (Value.sortedFields (t.entries.map fun e => (e.1, .text e.2))).Pairwise
        fun a b => a.1 < b.1 := by
      rw [Value.sortedFields, List.map_map, List.pairwise_map]
      exact t.sorted
    rw [toValue, tableValue, Value.sorted_record, Table.entries_ofList_of_pairwise hrising,
      Value.sortedFields, List.map_map]
    rfl

namespace ResultRecord

/-- A value has the features of a record for names, each of them once, and under each of them stands
what is read as its answer. -/
inductive HeldBy (r : ResultRecord) : Value → Prop
  | intro {held : Table Value} (names : held.names.Perm r.features)
      (answers : ∀ feature, (held.get? feature).bind FeatureValue.ofValue? = r.get? feature) :
      HeldBy r (.record held.entries)

theorem heldBy_sorted (r : ResultRecord) : r.HeldBy r.toValue.sorted := by
  have hfields : Value.sortedFields (r.entries.map fun e => (e.1, e.2.toValue)) =
      r.entries.map fun e => (e.1, e.2.toValue) := by
    rw [Value.sortedFields, List.map_map]
    exact List.map_congr_left fun e _ => Prod.ext rfl e.2.sorted_toValue
  have hnames : (r.entries.map fun e => (e.1, e.2.toValue)).map (·.1) = r.features := by
    rw [List.map_map]
    rfl
  have hdistinct : ((r.entries.map fun e => (e.1, e.2.toValue)).map (·.1)).Nodup :=
    hnames ▸ r.distinct
  rw [toValue, Value.sorted_record, hfields]
  refine .intro ?_ fun feature => ?_
  · rw [← hnames]
    exact (Table.entries_ofList_perm hdistinct).map _
  · cases hanswer : r.get? feature with
    | some value =>
      have hmem : (feature, value.toValue) ∈ r.entries.map fun e => (e.1, e.2.toValue) :=
        List.mem_map.2 ⟨(feature, value), get?_eq_some_iff_mem.1 hanswer, rfl⟩
      rw [(Table.get?_ofList_of_nodup hdistinct).2 hmem]
      exact FeatureValue.ofValue?_toValue value
    | none =>
      have hnone : feature ∉ (Table.ofList (r.entries.map fun e => (e.1, e.2.toValue))).names := by
        rw [Table.mem_names_ofList, hnames]
        exact get?_eq_none_iff.1 hanswer
      rw [Table.mem_names_iff, Option.not_isSome_iff_eq_none] at hnone
      rw [hnone]
      rfl

end ResultRecord

/-! ## The batch -/

namespace Batch

variable {W : Type} [Host W]

/-- The record of a package is made of what was found in it. -/
theorem process_detected {b : Batch W} {info : PackageInfo} {w after : W} {record : PackageRecord}
    (h : (b.process info).exec w = (.ok record, after)) :
    ∃ a found between, b.Detects info w a found between ∧
      record.detected = found.toValue.sorted := by
  obtain ⟨a, fetched, hfetch, hrest⟩ := Attempt.exec_bind_eq_ok h
  obtain ⟨found, between, hdetect, -⟩ := Attempt.exec_bind_eq_ok hrest
  have hdetects : b.Detects info w a found between := ⟨hfetch, hdetect⟩
  rcases process_concludes hdetects with ⟨record', after', hprocess, hemits⟩ | ⟨e, _, hprocess, -⟩
  · rw [h] at hprocess
    obtain rfl : record = record' := Except.ok.inj (congrArg Prod.fst hprocess)
    exact ⟨a, found, between, hdetects, hemits.detected⟩
  · cases h.symm.trans hprocess

end Batch

end FeatureSurvey
