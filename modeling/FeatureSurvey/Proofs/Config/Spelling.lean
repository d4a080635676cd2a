import FeatureSurvey.Config.Document
import FeatureSurvey.Proofs.Data.Written

/-!
# `Proofs/Config/Spelling.lean` — the spellings of a configuration

A configuration can be written in many ways. Two fields of a detector and one of a parser have an
older spelling, what is empty may be left out, fields stand in any order, and an entry of a list may
be wrapped under a key. The number of ways grows with every entry, and two things could go wrong in
them: an entry may be taken for a shape it does not have, as `parser` is both a key to wrap under
and a field of a detector; and two spellings of one field may be taken for two fields.

They do not: **every way to write a configuration is read as that configuration**
(`Config.readable`). What older files call a kind is only looked at afterwards, and nothing but
kinds is changed by it (`Config.withoutKinds_withCurrentKinds`).
-/

set_option autoImplicit false

namespace FeatureSurvey

open Fields

/-! ## How a configuration may be written -/

/-- A way to write options: in any order, each a text. -/
inductive OptionsSpelled (options : Table String) : Value → Prop
  | intro {entries : List (String × String)} (horder : entries.Perm options.entries) :
      OptionsSpelled options (.record (entries.map fun e => (e.1, .text e.2)))

def parserSpellings : List String := ["parser", "parser_to_use"]

def featureSpellings : List String := ["features", "features_provided"]

def optionSpellings : List String := ["options"]

/-- A way to write a detector without wrapping it. -/
inductive DetectorSpec.Spelled (d : DetectorSpec) : Value → Prop
  | intro {name kind parser features options fields : List (String × Value)}
      (hname : Written nameSpellings False (· = .text d.name) name)
      (hkind : Written kindSpellings False (· = .text d.kind) kind)
      (hparser : Written parserSpellings (d.parser = none) (· = .optionText d.parser) parser)
      (hfeatures : Written featureSpellings (d.features = []) (· = .texts d.features) features)
      (hoptions : Written optionSpellings (d.options = ∅) (OptionsSpelled d.options) options)
      (horder : fields.Perm [name, kind, parser, features, options].flatten) :
      Spelled d (.record fields)

/-- A way to write a parser without wrapping it. -/
inductive ParserSpec.Spelled (p : ParserSpec) : Value → Prop
  | intro {name kind options fields : List (String × Value)}
      (hname : Written nameSpellings False (· = .text p.name) name)
      (hkind : Written kindSpellings False (· = .text p.kind) kind)
      (hoptions : Written optionSpellings (p.options = ∅) (OptionsSpelled p.options) options)
      (horder : fields.Perm [name, kind, options].flatten) :
      Spelled p (.record fields)

/-- The three shapes of an entry. -/
inductive Shaped (Spelled : Value → Prop) : Value → Prop
  | bare {v : Value} (h : Spelled v) : Shaped Spelled v
  | underDetector {v : Value} (h : Spelled v) : Shaped Spelled (.record [("detector", v)])
  | underParser {v : Value} (h : Spelled v) : Shaped Spelled (.record [("parser", v)])

/-- A source delivers a list of entries, each of them written somehow. -/
inductive EntriesSpelled {α : Type} (Spelled : α → Value → Prop) (items : List α) (s : Source) :
    Prop
  | intro {values : List Value} (hread : s.read? = some (.list values))
      (hitems : List.Forall₂ (fun a v => Shaped (Spelled a) v) items values)

/-- A way to write a configuration. -/
inductive Config.Spelled (c : Config) (s : Source) : Prop
  | intro {entries : List (Source × Source)}
      {selected detectors parsers duplicates timeout fields : List (String × Source)}
      (htable : s.asEntries? = some entries)
      (hnames : List.Forall₂ (fun e f => e.1.asText? = some f.1 ∧ e.2 = f.2) entries fields)
      (hselected : Written ["features_selected"] (c.featuresSelected = [])
        (fun s => s.read? = some (.texts c.featuresSelected)) selected)
      (hdetectors : Written ["detectors"] (c.detectors = [])
        (EntriesSpelled DetectorSpec.Spelled c.detectors) detectors)
      (hparsers : Written ["parsers"] (c.parsers = [])
        (EntriesSpelled ParserSpec.Spelled c.parsers) parsers)
      (hduplicates : Written ["allow_duplicate_claims"] (c.allowDuplicateClaims = false)
        (fun s => s.asBool? = some c.allowDuplicateClaims) duplicates)
      (htimeout : Written ["tool_timeout_secs"] (c.toolTimeout = defaultToolTimeout)
        (fun s => s.asWord? = some c.toolTimeout) timeout)
      (horder : fields.Perm [selected, detectors, parsers, duplicates, timeout].flatten)

/-! ## Reading an entry -/

theorem textTable?_of_spelled {options : Table String} {v : Value}
    (h : OptionsSpelled options v) : FeatureValue.textTable? v = some options := by
  cases h with
  | intro horder => exact FeatureValue.textTable?_of_perm horder

theorem DetectorSpec.ofValue?_of_spelled {d : DetectorSpec} {v : Value} (h : d.Spelled v) :
    DetectorSpec.ofValue? v = some d := by
  cases h with
  | @intro name kind parser features options fields hname hkind hparser hfeatures hoptions horder =>
    have hslots : Fields.ofValue? DetectorSpec.fields (.record fields) =
        some ([name, kind, parser, features, options].map slotOf) := by
      rw [ofValue?_record]
      refine named?_of_perm (by decide) ?_ horder
      exact .cons hname.fits (.cons hkind.fits (.cons hparser.fits (.cons hfeatures.fits
        (.cons hoptions.fits .nil))))
    have hname : required? Value.asText? (slotOf name) = some d.name :=
      hname.required? (by rintro _ rfl; rfl)
    have hkind : required? Value.asText? (slotOf kind) = some d.kind :=
      hkind.required? (by rintro _ rfl; rfl)
    have hparser : optional? none optionalText? (slotOf parser) = some d.parser := by
      refine hparser.optional? ?_
      rintro _ rfl
      cases d.parser <;> rfl
    have hfeatures : optional? [] Value.asTexts? (slotOf features) = some d.features := by
      refine hfeatures.optional? ?_
      rintro _ rfl
      exact Value.asTexts?_texts d.features
    have hoptions : optional? ∅ FeatureValue.textTable? (slotOf options) = some d.options :=
      hoptions.optional? fun _ => textTable?_of_spelled
    rw [DetectorSpec.ofValue?, hslots]
    simp only [List.map_cons, List.map_nil, Option.bind_eq_bind, Option.bind_some, hname, hkind,
      hparser, hfeatures, hoptions]

theorem ParserSpec.ofValue?_of_spelled {p : ParserSpec} {v : Value} (h : p.Spelled v) :
    ParserSpec.ofValue? v = some p := by
  cases h with
  | @intro name kind options fields hname hkind hoptions horder =>
    have hslots : Fields.ofValue? ParserSpec.fields (.record fields) =
        some ([name, kind, options].map slotOf) := by
      rw [ofValue?_record]
      refine named?_of_perm (by decide) ?_ horder
      exact .cons hname.fits (.cons hkind.fits (.cons hoptions.fits .nil))
    have hname : required? Value.asText? (slotOf name) = some p.name :=
      hname.required? (by rintro _ rfl; rfl)
    have hkind : required? Value.asText? (slotOf kind) = some p.kind :=
      hkind.required? (by rintro _ rfl; rfl)
    have hoptions : optional? ∅ FeatureValue.textTable? (slotOf options) = some p.options :=
      hoptions.optional? fun _ => textTable?_of_spelled
    rw [ParserSpec.ofValue?, hslots]
    simp only [List.map_cons, List.map_nil, Option.bind_eq_bind, Option.bind_some, hname, hkind,
      hoptions]

/-! ## Shapes -/

section Shapes

variable {α : Type} {read : Value → Option α}

/-- An entry whose fields under a key cannot be read is not wrapped under that key. -/
theorem wrapped?_eq_none {key : String} {fields : List (String × Value)}
    (h : ∀ e ∈ fields, e.1 = key → read e.2 = none) :
    wrapped? key read (.record fields) = none := by
  rw [wrapped?, ofTable?_record, named?, slotsFrom?, slot?, filter_keyed]
  rcases hfound : fields.filter fun e => [key].contains e.1 with _ | ⟨e, _ | ⟨e', rest⟩⟩ <;>
    rw [hfound]
  · rfl
  · have he : e ∈ fields.filter fun e => [key].contains e.1 := hfound ▸ List.mem_cons_self
    obtain ⟨hmem, hkey⟩ := List.mem_filter.1 he
    exact h e hmem (by simpa using hkey)
  · rfl

theorem wrapped?_single (key : String) (v : Value) :
    wrapped? key read (.record [(key, v)]) = read v := by
  have hkey : [(key, v)].Perm [[(key, v)]].flatten := .refl _
  have hfits : Fits [key] [(key, v)] := ⟨Nat.le_refl 1, by simp⟩
  rw [wrapped?, ofTable?_record,
    named?_of_perm (List.pairwise_singleton _ _) (.cons hfits .nil) hkey]
  rfl

/-- An entry that can be read as it is, and as nothing that is wrapped, is read in every shape. -/
theorem read_of_shaped {Spelled : Value → Prop} {a : α} (hread : ∀ v, Spelled v → read v = some a)
    (hdetector : ∀ v, Spelled v → wrapped? "detector" read v = none)
    (hparser : ∀ v, Spelled v → wrapped? "parser" read v = none) {v : Value}
    (h : Shaped Spelled v) : entry? read v = some a := by
  unfold entry?
  cases h with
  | bare h =>
    rw [hdetector _ h, hparser _ h, hread _ h]
    rfl
  | underDetector h =>
    rw [wrapped?_single, hread _ h]
    rfl
  | @underParser v h =>
    have hnone : wrapped? "detector" read (.record [("parser", v)]) = none :=
      wrapped?_eq_none (by simp)
    rw [hnone, wrapped?_single, hread _ h]
    rfl

end Shapes

/-- A record in which nothing stands under a key is not wrapped under it. -/
theorem wrapped?_of_unspelled {α : Type} {read : Value → Option α} {key : String}
    {spellings : List (List String)} {parts : List (List (String × Value))}
    (hkey : key ∉ spellings.flatten) (h : List.Forall₂ Fits spellings parts)
    {fields : List (String × Value)} (horder : fields.Perm parts.flatten) :
    wrapped? key read (.record fields) = none :=
  wrapped?_eq_none fun e he heq => absurd (fst_mem_of_perm h horder e he) (heq ▸ hkey)

namespace DetectorSpec

variable {d : DetectorSpec} {v : Value}

theorem wrapped?_detector_eq_none (h : d.Spelled v) :
    wrapped? "detector" DetectorSpec.ofValue? v = none := by
  obtain ⟨hname, hkind, hparser, hfeatures, hoptions, horder⟩ := h
  have hfits := List.Forall₂.cons hname.fits (.cons hkind.fits (.cons hparser.fits
    (.cons hfeatures.fits (.cons hoptions.fits .nil))))
  exact wrapped?_of_unspelled (by decide) hfits horder

/-- **A bare detector that names its parser is not taken for a wrapped one.** -/
theorem wrapped?_parser_eq_none (h : d.Spelled v) :
    wrapped? "parser" DetectorSpec.ofValue? v = none := by
  obtain ⟨hname, hkind, hparser, hfeatures, hoptions, horder⟩ := h
  refine wrapped?_eq_none fun e he hkey => ?_
  have hother {spellings : List String} {part : List (String × Value)} (hpart : Fits spellings part)
      (hspellings : "parser" ∉ spellings) : e ∉ part :=
    fun hmem => hspellings (hkey ▸ hpart.spelled e hmem)
  have hmem := horder.subset he
  simp only [List.flatten_cons, List.flatten_nil, List.mem_append, hother hname.fits (by decide),
    hother hkind.fits (by decide), hother hfeatures.fits (by decide),
    hother hoptions.fits (by decide), List.not_mem_nil, false_or, or_false] at hmem
  cases hparser with
  | omitted _ => cases hmem
  | given _ hv =>
    -- under this key there is a text, or null, and neither is a record
    rw [List.mem_singleton.1 hmem, hv]
    cases d.parser <;> rfl

theorem ofEntry_of_shaped (h : Shaped d.Spelled v) : entry? DetectorSpec.ofValue? v = some d :=
  read_of_shaped (fun _ => ofValue?_of_spelled) (fun _ => wrapped?_detector_eq_none)
    (fun _ => wrapped?_parser_eq_none) h

end DetectorSpec

theorem ParserSpec.ofEntry_of_shaped {p : ParserSpec} {v : Value} (h : Shaped p.Spelled v) :
    entry? ParserSpec.ofValue? v = some p := by
  have hnone {key : String} (hkey : key ∉ ParserSpec.fields.flatten) (v : Value)
      (hv : p.Spelled v) : wrapped? key ParserSpec.ofValue? v = none := by
    obtain ⟨hname, hkind, hoptions, horder⟩ := hv
    exact wrapped?_of_unspelled hkey
      (.cons hname.fits (.cons hkind.fits (.cons hoptions.fits .nil))) horder
  exact read_of_shaped (fun _ => ofValue?_of_spelled) (hnone (by decide))
    (hnone (by decide)) h

/-! ## What a source delivers -/

/-- What a word may be taken for. -/
inductive Scalar.Meaning (word : String) : Value → Prop
  | null : Meaning word .null
  | bool (b : Bool) : Meaning word (.bool b)
  | int (n : Int) : Meaning word (.int n)
  | real (x : Float) : Meaning word (.real x)
  | text : Meaning word (.text word)

theorem Scalar.meaning_of_guessPlain? {word : String} {v : Value}
    (h : Scalar.guessPlain? word = some v) : Scalar.Meaning word v := by
  unfold Scalar.guessPlain? at h
  split at h
  · cases h
    exact .null
  · split at h
    · cases h
      exact .bool _
    · cases h
      exact .int _
    · cases h
    · split at h
      · cases h
        exact .text
      · cases hreal : Scalar.real? word <;> rw [hreal] at h <;> cases h
        · exact .text
        · exact .real _

theorem Scalar.meaning_of_guess? {w : Scalar} {v : Value} (h : w.guess? = some v) :
    Scalar.Meaning w.text v := by
  unfold Scalar.guess? at h
  split at h
  · split_ifs at h
    · obtain ⟨b, -, rfl⟩ := Option.map_eq_some_iff.1 h
      exact .bool b
    · split at h
      · cases h
        exact .int _
      · cases h
    · obtain ⟨x, -, rfl⟩ := Option.map_eq_some_iff.1 h
      exact .real x
    · cases h
      exact .null
    · cases h
      exact .text
  · split at h
    · exact meaning_of_guessPlain? h
    · cases h
      exact .text

namespace Source

theorem readItems?_eq_mapM (items : List Source) : readItems? items = items.mapM read? := by
  induction items with
  | nil => rfl
  | cons s items ih => rw [readItems?, List.mapM_cons, ih]; rfl

theorem asText?_of_read? {s : Source} {text : String} (h : s.read? = some (.text text)) :
    s.asText? = some text := by
  cases s with
  | value v =>
    cases h
    rfl
  | scalar w =>
    cases Scalar.meaning_of_guess? h
    rfl
  | list items =>
    obtain ⟨_, _, h⟩ := Option.map_eq_some_iff.1 h
    cases h
  | table entries =>
    obtain ⟨_, _, h⟩ := Option.map_eq_some_iff.1 h
    cases h
  | tagged body => cases h
  | unreadable => cases h

/-- A source that delivers a list has items, and they deliver its items. -/
theorem asItems?_of_read? {s : Source} {values : List Value} (h : s.read? = some (.list values)) :
    ∃ items, s.asItems? = some items ∧ items.mapM read? = some values := by
  cases s with
  | value v =>
    cases h
    refine ⟨values.map .value, rfl, ?_⟩
    rw [mapM_eq_some_iff, List.forall₂_map_left_iff, List.forall₂_same]
    intro _ _
    rfl
  | scalar w => cases Scalar.meaning_of_guess? h
  | list items =>
    obtain ⟨_, hitems, h⟩ := Option.map_eq_some_iff.1 h
    cases h
    exact ⟨items, rfl, (readItems?_eq_mapM items).symm.trans hitems⟩
  | table entries =>
    obtain ⟨_, _, h⟩ := Option.map_eq_some_iff.1 h
    cases h
  | tagged body => cases h
  | unreadable => cases h

theorem asTexts?_of_read? {s : Source} {texts : List String}
    (h : s.read? = some (.texts texts)) : s.asTexts? = some texts := by
  obtain ⟨items, hitems, hread⟩ := asItems?_of_read? h
  rw [asTexts?, hitems]
  show items.mapM asText? = some texts
  rw [mapM_eq_some_iff] at hread ⊢
  rw [List.forall₂_map_right_iff] at hread
  exact hread.imp fun _ _ => asText?_of_read?

end Source

/-! ## The configuration -/

theorem entries?_of_spelled {α : Type} {read : Value → Option α} {Spelled : α → Value → Prop}
    (hentry : ∀ a v, Shaped (Spelled a) v → entry? read v = some a) {items : List α} {s : Source}
    (h : EntriesSpelled Spelled items s) : entries? read s = some items := by
  obtain ⟨hread, hitems⟩ := h
  obtain ⟨sources, hsources, hvalues⟩ := Source.asItems?_of_read? hread
  rw [entries?, hsources]
  show sources.mapM _ = some items
  rw [mapM_eq_some_iff] at hvalues ⊢
  clear hsources hread
  induction hvalues generalizing items with
  | nil =>
    cases hitems
    exact .nil
  | cons hvalue _ ih =>
    cases hitems with
    | cons hitem hrest =>
      refine .cons ?_ (ih hrest)
      rw [hvalue]
      exact hentry _ _ hitem

namespace Config

variable {c : Config}

theorem ofSource?_of_spelled {s : Source} (h : c.Spelled s) (format : Format) :
    Config.ofSource? format s = some c := by
  cases h with
  | @intro entries selected detectors parsers duplicates timeout fields htable hnames hselected
      hdetectors hparsers hduplicates htimeout horder =>
    have hfits := List.Forall₂.cons hselected.fits (.cons hdetectors.fits (.cons hparsers.fits
      (.cons hduplicates.fits (.cons htimeout.fits .nil))))
    have hslots : Fields.ofSource? format Config.fields s =
        some ([selected, detectors, parsers, duplicates, timeout].map slotOf) := by
      rw [Fields.ofSource?_eq_named? htable hnames]
      exact named?_of_perm (by decide) hfits horder
    have hselected : optional? [] Source.asTexts? (slotOf selected) = some c.featuresSelected :=
      hselected.optional? fun _ => Source.asTexts?_of_read?
    have hdetectors : optional? [] (entries? DetectorSpec.ofValue?) (slotOf detectors) =
        some c.detectors :=
      hdetectors.optional? fun _ => entries?_of_spelled fun _ _ => DetectorSpec.ofEntry_of_shaped
    have hparsers : optional? [] (entries? ParserSpec.ofValue?) (slotOf parsers) = some c.parsers :=
      hparsers.optional? fun _ => entries?_of_spelled fun _ _ => ParserSpec.ofEntry_of_shaped
    have hduplicates : optional? false Source.asBool? (slotOf duplicates) =
        some c.allowDuplicateClaims := hduplicates.optional? fun _ h => h
    have htimeout : optional? defaultToolTimeout Source.asWord? (slotOf timeout) =
        some c.toolTimeout := htimeout.optional? fun _ h => h
    rw [Config.ofSource?, hslots]
    simp only [List.map_cons, List.map_nil, Option.bind_eq_bind, Option.bind_some, hselected,
      hdetectors, hparsers, hduplicates, htimeout]

end Config

/-! ## The form in which a configuration is written -/

theorem written_optionsValue (options : Table String) :
    Written optionSpellings (options = ∅) (OptionsSpelled options) (optionsValue options) := by
  rw [optionsValue]
  split
  · rename_i hempty
    exact .omitted (Table.ext (List.isEmpty_iff.1 hempty))
  · exact .given List.mem_cons_self (.intro (.refl _))

theorem DetectorSpec.spelled_toValue (d : DetectorSpec) : d.Spelled d.toValue := by
  have hparser : Written parserSpellings (d.parser = none) (· = .optionText d.parser)
      (d.parser.map fun p => ("parser", Value.text p)).toList := by
    cases d.parser with
    | none => exact .omitted rfl
    | some p => exact .given List.mem_cons_self rfl
  refine .intro (.given List.mem_cons_self rfl) (.given List.mem_cons_self rfl) hparser
    (.given List.mem_cons_self rfl) (written_optionsValue d.options) ?_
  exact .of_eq (by simp)

theorem ParserSpec.spelled_toValue (p : ParserSpec) : p.Spelled p.toValue := by
  refine .intro (.given List.mem_cons_self rfl) (.given List.mem_cons_self rfl)
    (written_optionsValue p.options) ?_
  exact .of_eq (by simp)

theorem entriesSpelled_list {α : Type} {Spelled : α → Value → Prop} {write : α → Value}
    (h : ∀ a, Spelled a (write a)) (items : List α) :
    EntriesSpelled Spelled items (.value (.list (items.map write))) := by
  refine .intro rfl ?_
  rw [List.forall₂_map_right_iff, List.forall₂_same]
  exact fun a _ => .bare (h a)

theorem Config.spelled_toValue (c : Config) : c.Spelled (.value c.toValue) := by
  have hselected : Written ["features_selected"] (c.featuresSelected = [])
      (fun s : Source => s.read? = some (.texts c.featuresSelected))
      [("features_selected", .value (.texts c.featuresSelected))] := .given List.mem_cons_self rfl
  have hdetectors : Written ["detectors"] (c.detectors = [])
      (EntriesSpelled DetectorSpec.Spelled c.detectors)
      [("detectors", .value (.list (c.detectors.map DetectorSpec.toValue)))] :=
    .given List.mem_cons_self (entriesSpelled_list DetectorSpec.spelled_toValue c.detectors)
  have hparsers : Written ["parsers"] (c.parsers = [])
      (EntriesSpelled ParserSpec.Spelled c.parsers)
      [("parsers", .value (.list (c.parsers.map ParserSpec.toValue)))] :=
    .given List.mem_cons_self (entriesSpelled_list ParserSpec.spelled_toValue c.parsers)
  have hduplicates : Written ["allow_duplicate_claims"] (c.allowDuplicateClaims = false)
      (fun s : Source => s.asBool? = some c.allowDuplicateClaims)
      [("allow_duplicate_claims", .value (.bool c.allowDuplicateClaims))] :=
    .given List.mem_cons_self rfl
  have htimeout : Written ["tool_timeout_secs"] (c.toolTimeout = defaultToolTimeout)
      (fun s : Source => s.asWord? = some c.toolTimeout)
      [("tool_timeout_secs", .value (.word c.toolTimeout))] :=
    .given List.mem_cons_self (Value.asWord?_word c.toolTimeout)
  refine .intro rfl ?_ hselected hdetectors hparsers hduplicates htimeout (.refl _)
  exact .cons ⟨rfl, rfl⟩ (.cons ⟨rfl, rfl⟩ (.cons ⟨rfl, rfl⟩ (.cons ⟨rfl, rfl⟩ (.cons ⟨rfl, rfl⟩
    .nil))))

/-! ## Older names of kinds -/

namespace Kind

theorem current_of_legacy {legacy kind : String} (h : (legacy, kind) ∈ legacyNames) :
    current legacy = kind := by
  have hall : ∀ e ∈ legacyNames, current e.1 = e.2 := by decide
  exact hall _ h

theorem current_of_not_legacy {kind : String} (h : kind ∉ legacyNames.map (·.1)) :
    current kind = kind := by
  have hnone : legacyNames.lookup kind = none := by
    rw [List.lookup_eq_none_iff]
    intro e he
    rw [bne_iff_ne]
    rintro rfl
    exact h (List.mem_map_of_mem he)
  rw [current, hnone]
  rfl

/-- No kind has a name that stood for another one. -/
theorem current_idem (kind : String) : current (current kind) = current kind := by
  by_cases h : kind ∈ legacyNames.map (·.1)
  · have hall : ∀ e ∈ legacyNames, current e.2 = e.2 := by decide
    obtain ⟨e, he, rfl⟩ := List.mem_map.1 h
    rw [current_of_legacy he, hall e he]
  · rw [current_of_not_legacy h, current_of_not_legacy h]

end Kind

namespace Config

/-- The kinds that a configuration names, in their order. -/
def kinds (c : Config) : List String := c.detectors.map (·.kind) ++ c.parsers.map (·.kind)

/-- What is left of a configuration if nothing is said about kinds. -/
def withoutKinds (c : Config) : Config :=
  { c with
    detectors := c.detectors.map fun d => { d with kind := "" }
    parsers := c.parsers.map fun p => { p with kind := "" } }

theorem withoutKinds_withCurrentKinds (c : Config) :
    c.withCurrentKinds.withoutKinds = c.withoutKinds := by
  simp only [withoutKinds, withCurrentKinds, List.map_map]
  rfl

theorem kinds_withCurrentKinds (c : Config) :
    c.withCurrentKinds.kinds = c.kinds.map Kind.current := by
  simp only [kinds, withCurrentKinds, List.map_append, List.map_map]
  rfl

theorem withCurrentKinds_idem (c : Config) :
    c.withCurrentKinds.withCurrentKinds = c.withCurrentKinds := by
  simp only [withCurrentKinds, List.map_map, Function.comp_def, Kind.current_idem]

theorem ofDocument_of_spelled {c : Config} {body : String} {s : Source}
    (hread : Yaml.read? body = some s) (h : c.Spelled s) :
    Config.ofDocument body =
      (c.withCurrentKinds.validate.mapError Failure.ofSurvey).map fun () => c.withCurrentKinds := by
  have hconfig : Config.ofYaml? body = some c := by
    rw [ofYaml?, hread]
    exact ofSource?_of_spelled h .yaml
  rw [ofDocument, hconfig]
  dsimp only
  cases c.withCurrentKinds.validate <;> rfl

/-- What becomes of a configuration that is written down and read again. -/
structure Readable (c : Config) : Prop where
  spelled : ∀ s, c.Spelled s → ∀ format, Config.ofSource? format s = some c
  /-- Its own form is one of its spellings. -/
  own : ∀ format, Config.ofSource? format (.value c.toValue) = some c
  /-- A bare detector is read as what it is, whether or not it names a parser. -/
  bare : ∀ d ∈ c.detectors, ∀ v, d.Spelled v →
    wrapped? "parser" DetectorSpec.ofValue? v = none ∧ entry? DetectorSpec.ofValue? v = some d
  /-- In a document the kinds come under their current names before anything else is looked at. -/
  document : ∀ body s, Yaml.read? body = some s → c.Spelled s →
    Config.ofDocument body =
      (c.withCurrentKinds.validate.mapError Failure.ofSurvey).map fun () => c.withCurrentKinds
  nothingElse : c.withCurrentKinds.withoutKinds = c.withoutKinds
  kinds : c.withCurrentKinds.kinds = c.kinds.map Kind.current
  legacy : ∀ e ∈ Kind.legacyNames, Kind.current e.1 = e.2
  others : ∀ kind, kind ∉ Kind.legacyNames.map (·.1) → Kind.current kind = kind
  again : c.withCurrentKinds.withCurrentKinds = c.withCurrentKinds

/-- **A configuration is read back from each of its spellings**, and older names of kinds are
replaced afterwards. -/
theorem readable (c : Config) : c.Readable where
  spelled _ h := ofSource?_of_spelled h
  own := ofSource?_of_spelled c.spelled_toValue
  bare _ _ _ h := ⟨DetectorSpec.wrapped?_parser_eq_none h, DetectorSpec.ofEntry_of_shaped (.bare h)⟩
  document _ _ := ofDocument_of_spelled
  nothingElse := c.withoutKinds_withCurrentKinds
  kinds := c.kinds_withCurrentKinds
  legacy _ := Kind.current_of_legacy
  others _ := Kind.current_of_not_legacy
  again := c.withCurrentKinds_idem

/-! A configuration in an older spelling, with its fields in reverse. -/

def older : Config where
  detectors :=
    [{ name := "aslr", kind := "ASLRDetector", parser := some "log", features := ["aslr"] }]
  parsers := [{ name := "log", kind := "BuildLogParser" }]
  toolTimeout := 60

/-- A word of a document, without a type yet. -/
def plainWord (text : String) : Source := .scalar ⟨text, .plain, none⟩

def olderParser : Source :=
  .table [(plainWord "type", plainWord "BuildLogParser"), (plainWord "name", plainWord "log")]

def olderDetector : Source :=
  .table [(plainWord "features_provided", .list [plainWord "aslr"]),
    (plainWord "parser_to_use", plainWord "log"), (plainWord "type", plainWord "ASLRDetector"),
    (plainWord "name", plainWord "aslr")]

def olderSource : Source :=
  .table [(plainWord "tool_timeout_secs", plainWord "60"),
    (plainWord "parsers", .list [.table [(plainWord "parser", olderParser)]]),
    (plainWord "detectors", .list [.table [(plainWord "detector", olderDetector)]])]

theorem older_spelled : older.Spelled olderSource := by
  have hparser : ParserSpec.Spelled { name := "log", kind := "BuildLogParser" }
      (.record [("name", .text "log"), ("type", .text "BuildLogParser")].reverse) :=
    .intro (.given List.mem_cons_self rfl) (.given (.tail _ List.mem_cons_self) rfl) (.omitted rfl)
      (List.reverse_perm _)
  have hparsers : EntriesSpelled ParserSpec.Spelled older.parsers
      (.list [.table [(plainWord "parser", olderParser)]]) :=
    .intro rfl (.cons (.underParser hparser) .nil)
  have hdetector : DetectorSpec.Spelled
      { name := "aslr", kind := "ASLRDetector", parser := some "log", features := ["aslr"] }
      (.record [("name", .text "aslr"), ("type", .text "ASLRDetector"),
        ("parser_to_use", .text "log"), ("features_provided", .texts ["aslr"])].reverse) :=
    .intro (.given List.mem_cons_self rfl) (.given (.tail _ List.mem_cons_self) rfl)
      (.given (.tail _ List.mem_cons_self) rfl) (.given (.tail _ List.mem_cons_self) rfl)
      (.omitted rfl) (List.reverse_perm _)
  have hdetectors : EntriesSpelled DetectorSpec.Spelled older.detectors
      (.list [.table [(plainWord "detector", olderDetector)]]) :=
    .intro rfl (.cons (.underDetector hdetector) .nil)
  refine .intro rfl ?_ (.omitted rfl) (.given List.mem_cons_self hdetectors)
    (.given List.mem_cons_self hparsers) (.omitted rfl)
    (.given (a := plainWord "60") List.mem_cons_self (by decide)) (List.reverse_perm _)
  exact .cons ⟨rfl, rfl⟩ (.cons ⟨rfl, rfl⟩ (.cons ⟨rfl, rfl⟩ .nil))

theorem readable_older : older.Spelled olderSource ∧
    Config.ofSource? .yaml olderSource = some older ∧
    older.withCurrentKinds.kinds = ["aslr", "build-log"] :=
  ⟨older_spelled, older.readable.spelled _ older_spelled .yaml,
    older.readable.kinds.trans (by decide)⟩

end Config

end FeatureSurvey
