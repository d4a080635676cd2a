import FeatureSurvey.Batch.Files
import FeatureSurvey.Proofs.Batch.Records
import FeatureSurvey.Proofs.Json.RoundTrip

/-!
# `Proofs/Batch/ResultFile.lean` — the file that a batch leaves behind

A result file is a list of records in one of the two layouts. Read as a package list is, it gives
the records that were written (`Batch.readBack_printRecords`), as long as what is held in them can
be written. For the records of a batch this needs no condition: **answers are nested two deep and
hold no reals**, so the file of every batch can be read again (`Batch.run_readBack`), and so can the
answers of a single run that are printed without a file (`ResultRecord.readBack_compact`).
-/

set_option autoImplicit false

namespace FeatureSurvey

/-! ## Values that are written -/

namespace Json

theorem writable_text (depth : Nat) (s : String) : Writable depth (.text s) := .scalar (.text s)

theorem writable_word (depth : Nat) (n : UInt64) : Writable depth (.word n) := by
  have hn : InWord n.toNat := by
    have := n.toNat_lt
    constructor <;> simp only [wordSignBit, maxWord] <;> omega
  exact .scalar (.int hn)

theorem writable_record_map {α : Type} {depth : Nat} {toValue : α → Value}
    (h : ∀ a, Writable depth (toValue a)) (entries : List (String × α)) :
    Writable (depth + 1) (.record (entries.map fun e => (e.1, toValue e.2))) := by
  refine .record fun f hf => ?_
  obtain ⟨e, -, rfl⟩ := List.mem_map.1 hf
  exact h e.2

end Json

open Json

theorem FeatureValue.writable_toValue (v : FeatureValue) : Writable 1 v.toValue := by
  cases v with
  | bool b => exact .scalar (.bool b)
  | text s => exact writable_text 1 s
  | occurrences d count =>
    exact .record (List.forall_mem_cons.2 ⟨writable_text 0 _, List.forall_mem_cons.2
      ⟨writable_word 0 count, List.forall_mem_nil _⟩⟩)
  | table t => exact writable_record_map (writable_text 0) t.entries

theorem ResultRecord.writable_toValue (r : ResultRecord) : Writable 2 r.toValue :=
  writable_record_map FeatureValue.writable_toValue r.entries

/-- What is printed for answers is read as their form, with the features in their order. -/
theorem ResultRecord.readBack_compact (r : ResultRecord) :
    ∃ s, Json.read? (Json.compact r.toValue) = some s ∧ s.read? = some r.toValue := by
  obtain ⟨s, hs, hdelivers⟩ := Json.read?_compact (r.writable_toValue.mono (by decide))
  exact ⟨s, hs, hdelivers.read?⟩

theorem ResultRecord.writable_sorted (r : ResultRecord) : Writable 2 r.toValue.sorted := by
  rw [toValue, Value.sorted_record]
  refine .record fun f hf => ?_
  obtain ⟨e, he, rfl⟩ := List.mem_map.1 (Table.mem_of_mem_ofList hf)
  obtain ⟨e, -, rfl⟩ := List.mem_map.1 he
  rw [FeatureValue.sorted_toValue]
  exact e.2.writable_toValue

theorem FeatureIntroduction.writable_toValue (i : FeatureIntroduction) : Writable 1 i.toValue :=
  .record (List.forall_mem_cons.2 ⟨writable_text 0 _, List.forall_mem_cons.2
    ⟨writable_text 0 _, List.forall_mem_nil _⟩⟩)

theorem BisectionData.writable_toValue (b : BisectionData) : Writable 3 b.toValue := by
  have hfeatures : Writable 2 (.record (b.features.entries.map fun e => (e.1, e.2.toValue))) :=
    writable_record_map FeatureIntroduction.writable_toValue b.features.entries
  refine .record fun f hf => ?_
  simp only [List.mem_cons, List.not_mem_nil, or_false] at hf
  rcases hf with rfl | rfl | rfl
  · exact writable_text 2 _
  · exact writable_text 2 _
  · exact hfeatures

theorem mem_optionalEntry {name : String} {text : Option String} {f : String × Value}
    (h : f ∈ optionalEntry name text) : ∃ s, f = (name, .text s) := by
  cases text with
  | none => cases h
  | some s => exact ⟨s, List.mem_singleton.1 h⟩

/-- A record nests three deep by itself; for the rest, its detected features count. -/
theorem PackageRecord.writable_toValue {r : PackageRecord} {depth : Nat} (hdepth : 3 ≤ depth)
    (h : Writable depth r.detected) : Writable (depth + 1) r.toValue := by
  refine .record fun f hf => ?_
  rcases List.mem_append.1 hf with hf | hmaintainer
  · rcases List.mem_append.1 hf with hf | hbisection
    · rcases List.mem_append.1 hf with hrequired | hcreation
      · simp only [List.mem_cons, List.not_mem_nil, or_false] at hrequired
        rcases hrequired with rfl | rfl | rfl | rfl | rfl | rfl
        · exact writable_text depth _
        · exact writable_word depth _
        · exact writable_text depth _
        · exact writable_text depth _
        · exact writable_text depth _
        · exact h
      · obtain ⟨s, rfl⟩ := mem_optionalEntry hcreation
        exact writable_text depth s
    · obtain ⟨b, -, rfl⟩ := Option.map_eq_some_iff.1 (Option.mem_toList.1 hbisection)
      exact b.writable_toValue.mono hdepth
  · obtain ⟨s, rfl⟩ := mem_optionalEntry hmaintainer
    exact writable_text depth s

/-! ## The file -/

namespace Batch

theorem writable_records {records : List PackageRecord}
    (h : ∀ r ∈ records, Writable (nestingLimit - 2) r.detected) :
    Writable nestingLimit (.list (records.map PackageRecord.toValue)) := by
  refine .list fun v hv => ?_
  obtain ⟨r, hr, rfl⟩ := List.mem_map.1 hv
  exact PackageRecord.writable_toValue (by decide) (h r hr)

/-- **Records are read back from the file to which they were written.** -/
theorem readBack_printRecords {records : List PackageRecord}
    (h : ∀ r ∈ records, Writable (nestingLimit - 2) r.detected) :
    (Json.read? (printRecords records)).bind (Source.listOf? PackageRecord.ofSource?) =
      some records := by
  have hfeed : IsBlank "\n".toList := isBlank_singleton (by decide)
  obtain ⟨s, hs, hdelivers⟩ := Json.read?_pretty (writable_records h) hfeed
  rw [printRecords, hs, Option.bind_some]
  refine PackageRecord.listOf?_of_spelled ?_ hdelivers
  rw [List.forall₂_map_right_iff, List.forall₂_same]
  exact fun r _ => r.spelled_toValue

variable {W : Type} [Host W] {b : Batch W}

/-- Nothing is found that cannot be written. -/
theorem Turns.writable {w last : W} {turns : List (Turn W)} (h : b.Turns w turns last) :
    ∀ r ∈ Turn.records turns, Writable (nestingLimit - 2) r.detected := by
  intro r hr
  obtain ⟨turn, hturn, houtcome⟩ := List.mem_filterMap.1 hr
  obtain ⟨start, done, hleads⟩ := h.exists_leads hturn
  rcases hprocess : (b.process turn.package).exec turn.fresh with ⟨outcome, after⟩
  rw [← hleads.process, hprocess] at houtcome
  cases outcome with
  | error e => cases houtcome
  | ok record =>
    obtain rfl : record = r := Option.some.inj houtcome
    obtain ⟨a, found, between, -, hdetected⟩ := process_detected hprocess
    rw [hdetected]
    exact found.writable_sorted.mono (by decide)

/-- What a batch leaves in its file is read as the records that it was made of. -/
theorem run_readBack {packages : List PackageInfo} {w after : W} {records : List PackageRecord}
    (h : (b.run packages).exec w = (.ok records, after)) :
    (Json.read? (printRecords records)).bind (Source.listOf? PackageRecord.ofSource?) =
      some records := by
  obtain ⟨turns, last, hturns, hends⟩ := processAll_turns (b := b) b.options.count
    (packages.drop b.options.startOffset) w
  rw [run] at h
  rw [h] at hends
  cases hends with
  | finished _ => exact readBack_printRecords hturns.writable

/-- **What a batch writes is read back.** The value that records are written as is read as these
records, with its fields in their order or by name, and so is the text in the file of a batch. What
stands for the detected features of a package holds every answer of its run. -/
theorem records_readBack (b : Batch W) (records : List PackageRecord) (found : ResultRecord) :
    (Source.value (.list (records.map PackageRecord.toValue))).listOf? PackageRecord.ofSource? =
      some records ∧
    (Source.value (Value.list (records.map PackageRecord.toValue)).sorted).listOf?
      PackageRecord.ofSource? = some records ∧
    found.HeldBy found.toValue.sorted ∧
    (∀ info w record after, (b.process info).exec w = (.ok record, after) →
      ∃ a answers between, b.Detects info w a answers between ∧ answers.HeldBy record.detected) ∧
    ∀ packages w written after, (b.run packages).exec w = (.ok written, after) →
      (Json.read? (printRecords written)).bind (Source.listOf? PackageRecord.ofSource?) =
        some written := by
  refine ⟨?_, ?_, found.heldBy_sorted, fun info w record after hprocess => ?_,
    fun packages w written after => run_readBack⟩
  · refine PackageRecord.listOf?_of_spelled ?_ (.value _)
    rw [List.forall₂_map_right_iff, List.forall₂_same]
    exact fun r _ => r.spelled_toValue
  · rw [Value.sorted_list]
    refine PackageRecord.listOf?_of_spelled ?_ (.value _)
    rw [List.map_map, List.forall₂_map_right_iff, List.forall₂_same]
    exact fun r _ => r.spelled_toValue.sorted r.distinct_members
  · obtain ⟨a, answers, between, hdetects, hdetected⟩ := process_detected hprocess
    exact ⟨a, answers, between, hdetects, hdetected ▸ answers.heldBy_sorted⟩

/-- A package in whose source one kind of cast is looked for. -/
def castCount : Batch (ScratchHost ⟨"scratch"⟩ (castsTool ⟨"scratch"⟩)) :=
  { casts with
    configs := ⟨casts.bisection, casts.bisection, casts.bisection,
      { casts.bisection with featuresSelected := ["static_cast"] }⟩ }

theorem records_readBack_castCount :
    (∃ record after, (castCount.process castsPackage).exec {} = (.ok record, after) ∧
      (Source.value (.list [record.toValue])).listOf? PackageRecord.ofSource? = some [record] ∧
      (∃ a answers between, castCount.Detects castsPackage {} a answers between ∧
        answers.HeldBy record.detected) ∧
      Json.compact record.detected =
        "\x7b\"static_cast\":\x7b\"detected\":\"yes\",\"occurrences\":1\x7d\x7d") ∧
    ∃ written after, (castCount.run [castsPackage]).exec {} = (.ok written, after) ∧
      (Json.read? (printRecords written)).bind (Source.listOf? PackageRecord.ofSource?) =
        some written ∧
      written.map (·.name) = ["casts"] := by
  obtain ⟨-, -, -, hholds, hfile⟩ := records_readBack castCount [] .empty
  constructor
  · have hdetected : ((castCount.process castsPackage).exec {}).1.toOption.map
        (fun record => Json.compact record.detected) =
        some "\x7b\"static_cast\":\x7b\"detected\":\"yes\",\"occurrences\":1\x7d\x7d" := by
      decide +kernel
    rcases hprocess : (castCount.process castsPackage).exec {} with ⟨e | record, after⟩
    · rw [hprocess] at hdetected
      cases hdetected
    · rw [hprocess] at hdetected
      have hown := (records_readBack castCount [record] .empty).1
      exact ⟨record, after, rfl, hown, hholds _ _ _ _ hprocess, Option.some.inj hdetected⟩
  · have hnames : ((castCount.run [castsPackage]).exec {}).1.toOption.map
        (fun written => written.map (·.name)) = some ["casts"] := by
      decide +kernel
    rcases hrun : (castCount.run [castsPackage]).exec {} with ⟨e | written, after⟩
    · rw [hrun] at hnames
      cases hnames
    · rw [hrun] at hnames
      exact ⟨written, after, rfl, hfile _ _ _ _ hrun, Option.some.inj hnames⟩

end Batch

end FeatureSurvey
