import FeatureSurvey.Feature.Record
import FeatureSurvey.Json.Printer
import FeatureSurvey.Proofs.Data.Table
import Mathlib.Data.Finset.Card

/-!
# `Proofs/Feature/History.lean` — a record and the insertions that made it

A record is made by putting in answers one after the other, some of them for features that have an
answer already. Four things can be asked of it: its features, the answer to one of them, how many
there are, and its form in a file. All four are told by the history of insertions alone
(`ResultRecord.insertionOrdered`): the *first* insertion of a feature says where it stands, the
*last* one says what its answer is.

This rests on what one insertion does. It answers one feature and no other, and **nothing that is
there is moved by it** (`ResultRecord.inserts_insert`); the rest is induction on the history, from
its end.
-/

set_option autoImplicit false

namespace FeatureSurvey.ResultRecord

variable {r : ResultRecord} {feature : String} {value : FeatureValue}

/-! ## Any record -/

theorem get?_eq_some_iff_mem : r.get? feature = some value ↔ (feature, value) ∈ r.entries :=
  Table.find?_eq_some_iff_mem (e := (feature, value)) r.distinct

/-- A record has no answer to what is not among its features. -/
theorem get?_eq_none_iff : r.get? feature = none ↔ feature ∉ r.features := by
  rw [get?, Option.map_eq_none_iff, List.find?_eq_none, features, List.mem_map]
  constructor
  · rintro h ⟨e, he, hname⟩
    exact h e he (beq_iff_eq.2 hname)
  · intro h e he hname
    exact h ⟨e, he, beq_iff_eq.1 hname⟩

/-- The features of a record, each with its answer. -/
def answers (r : ResultRecord) : List (String × FeatureValue) :=
  r.features.filterMap fun feature => (r.get? feature).map fun value => (feature, value)

theorem answers_eq (r : ResultRecord) : r.answers = r.entries := by
  have hpair : ∀ e ∈ r.entries, (r.get? e.1).map (fun value => (e.1, value)) = some e := by
    intro e he
    rw [get?_eq_some_iff_mem.2 he]
    rfl
  rw [answers, features, List.filterMap_map]
  exact (List.filterMap_congr hpair).trans List.filterMap_some

/-! ## One insertion -/

theorem find?_put (feature : String) (value : FeatureValue)
    (entries : List (String × FeatureValue)) (other : String) :
    ((put feature value entries).find? fun e => e.1 == other).map (·.2) =
      if other = feature then some value else (entries.find? fun e => e.1 == other).map (·.2) := by
  induction entries with
  | nil =>
    by_cases h : other = feature
    · simp [put, h]
    · simp [put, h, Ne.symm h]
  | cons e rest ih =>
    obtain ⟨f, v⟩ := e
    by_cases hf : f = feature
    · subst hf
      by_cases h : other = f
      · simp [put, h]
      · simp [put, h, Ne.symm h]
    · rw [put, if_neg hf]
      by_cases h : f = other
      · subst h
        simp [hf]
      · simp only [List.find?_cons, beq_eq_false_iff_ne.2 h]
        exact ih

theorem get?_insert (r : ResultRecord) (feature : String) (value : FeatureValue) (other : String) :
    (r.insert feature value).get? other = if other = feature then some value else r.get? other :=
  find?_put feature value r.entries other

theorem features_insert (r : ResultRecord) (feature : String) (value : FeatureValue) :
    (r.insert feature value).features =
      if feature ∈ r.features then r.features else r.features ++ [feature] :=
  map_fst_put feature value r.entries

/-- `after` is `before` with one feature answered. -/
structure Inserts (feature : String) (value : FeatureValue) (before after : ResultRecord) :
    Prop where
  answered : after.get? feature = some value
  others : ∀ other, other ≠ feature → after.get? other = before.get? other
  /-- What is there stands where it stood. -/
  position : ∀ other ∈ before.features, after.features.idxOf other = before.features.idxOf other
  /-- What is new stands last. -/
  new : feature ∉ before.features → after.features = before.features ++ [feature]
  size : after.size = before.size + if feature ∈ before.features then 0 else 1

theorem inserts_insert (r : ResultRecord) (feature : String) (value : FeatureValue) :
    Inserts feature value r (r.insert feature value) where
  answered := by
    rw [get?_insert, if_pos rfl]
  others other h := by
    rw [get?_insert, if_neg h]
  position other h := by
    rw [features_insert]
    split
    · rfl
    · exact List.idxOf_append_of_mem h
  new h := by
    rw [features_insert, if_neg h]
  size := by
    show (r.insert feature value).entries.length = _
    rw [← List.length_map (fun e => e.1)]
    show (r.insert feature value).features.length = _
    rw [features_insert]
    split <;> simp [features, size]

/-! ## A history of insertions -/

/-- The record that answers leave behind, put in one after the other. -/
def ofHistory (history : List (String × FeatureValue)) : ResultRecord :=
  history.foldl (fun r e => r.insert e.1 e.2) empty

variable {history : List (String × FeatureValue)}

theorem ofHistory_concat (history : List (String × FeatureValue)) (e : String × FeatureValue) :
    ofHistory (history ++ [e]) = (ofHistory history).insert e.1 e.2 :=
  List.foldl_concat ..

/-- The features that were answered, as often as they were answered. -/
def asked (history : List (String × FeatureValue)) : List String := history.map (·.1)

theorem asked_concat (history : List (String × FeatureValue)) (e : String × FeatureValue) :
    asked (history ++ [e]) = asked history ++ [e.1] :=
  List.map_append

theorem mem_features_ofHistory :
    feature ∈ (ofHistory history).features ↔ feature ∈ asked history := by
  induction history using List.reverseRecOn with
  | nil => rfl
  | append_singleton history e ih =>
    rw [ofHistory_concat, features_insert, asked_concat, List.mem_append, List.mem_singleton, ← ih]
    split
    · rename_i hin
      constructor
      · exact .inl
      · rintro (h | rfl)
        · exact h
        · exact hin
    · rw [List.mem_append, List.mem_singleton]

/-- What stands before comes from an earlier first insertion. -/
theorem features_ofHistory_pairwise (history : List (String × FeatureValue)) :
    (ofHistory history).features.Pairwise fun f g =>
      (asked history).idxOf f < (asked history).idxOf g := by
  induction history using List.reverseRecOn with
  | nil => exact .nil
  | append_singleton history e ih =>
    -- the first insertion of what is there already is not a new one
    have hfirst : ∀ f ∈ (ofHistory history).features,
        (asked history ++ [e.1]).idxOf f = (asked history).idxOf f :=
      fun f hf => List.idxOf_append_of_mem (mem_features_ofHistory.1 hf)
    have hold : (ofHistory history).features.Pairwise fun f g =>
        (asked history ++ [e.1]).idxOf f < (asked history ++ [e.1]).idxOf g := by
      refine ih.imp_of_mem fun {f g} hf hg h => ?_
      rw [hfirst f hf, hfirst g hg]
      exact h
    rw [ofHistory_concat, features_insert, asked_concat]
    split
    · exact hold
    · rename_i hnew
      refine List.pairwise_append.2 ⟨hold, List.pairwise_singleton _ _, fun f hf g hg => ?_⟩
      obtain rfl := List.mem_singleton.1 hg
      have hlast : (asked history ++ [e.1]).idxOf e.1 = (asked history).length := by
        rw [List.idxOf_append_of_notMem (mt mem_features_ofHistory.2 hnew), List.idxOf_cons_self]
        rfl
      rw [hfirst f hf, hlast]
      exact List.idxOf_lt_length_of_mem (mem_features_ofHistory.1 hf)

theorem get?_ofHistory (history : List (String × FeatureValue)) (feature : String) :
    (ofHistory history).get? feature =
      (history.reverse.find? fun e => e.1 == feature).map (·.2) := by
  induction history using List.reverseRecOn with
  | nil => rfl
  | append_singleton history e ih =>
    rw [ofHistory_concat, get?_insert, ih, List.reverse_concat, List.find?_cons]
    by_cases h : e.1 = feature
    · simp [h]
    · simp [beq_eq_false_iff_ne.2 h, Ne.symm h]

theorem size_ofHistory (history : List (String × FeatureValue)) :
    (ofHistory history).size = (asked history).toFinset.card := by
  have hsame : (ofHistory history).features.toFinset = (asked history).toFinset := by
    ext f
    rw [List.mem_toFinset, List.mem_toFinset, mem_features_ofHistory]
  have hcard : (ofHistory history).features.toFinset.card = (ofHistory history).features.length :=
    List.toFinset_card_of_nodup (ofHistory history).distinct
  rw [← hsame, hcard]
  exact (List.length_map _).symm

/-- A record as the map that a history of insertions leaves behind. -/
structure MapOf (history : List (String × FeatureValue)) (r : ResultRecord) : Prop where
  distinct : r.features.Nodup
  features : ∀ feature, feature ∈ r.features ↔ feature ∈ asked history
  /-- A feature stands before those that came in after it. -/
  order : r.features.Pairwise fun f g => (asked history).idxOf f < (asked history).idxOf g
  /-- The last answer to a feature counts. -/
  answer : ∀ feature value, r.get? feature = some value ↔
    ∃ before after, history = before ++ (feature, value) :: after ∧ ∀ e ∈ after, e.1 ≠ feature
  unasked : ∀ feature, r.get? feature = none ↔ feature ∉ asked history
  size : r.size = (asked history).toFinset.card
  /-- The form in a file has the features for names, in their order, each with its answer. -/
  form : r.toValue = .record (r.answers.map fun e => (e.1, e.2.toValue))
  names : r.answers.map (·.1) = r.features
  text : Json.compact r.toValue = "\x7b" ++ String.intercalate ","
    (r.answers.map fun e => Json.quote e.1 ++ ":" ++ Json.compact e.2.toValue) ++ "\x7d"

/-- **A record is the insertion-ordered map of its history**, and one more insertion answers its
feature without changing or moving any other. -/
theorem insertionOrdered (history : List (String × FeatureValue)) :
    MapOf history (ofHistory history) ∧ ∀ feature value,
      ofHistory (history ++ [(feature, value)]) = (ofHistory history).insert feature value ∧
      Inserts feature value (ofHistory history) ((ofHistory history).insert feature value) := by
  refine ⟨?_, fun feature value => ⟨ofHistory_concat history _, inserts_insert _ feature value⟩⟩
  exact {
    distinct := (ofHistory history).distinct
    features := fun feature => mem_features_ofHistory
    order := features_ofHistory_pairwise history
    answer := fun feature value => by rw [get?_ofHistory, Table.find?_reverse_eq_some_iff]
    unasked := fun feature => by rw [get?_eq_none_iff, mem_features_ofHistory]
    size := size_ofHistory history
    form := by rw [answers_eq, toValue]
    names := by rw [answers_eq, features]
    text := by
      rw [toValue, Value.record, Json.compact, Json.compactEntries_record, answers_eq, List.map_map]
      rfl }

/-- The first insertion says where a feature stands, the last one what its answer is. -/
example : (ofHistory [("b", .bool true), ("a", .bool true), ("b", .bool false)]).entries =
    [("b", .bool false), ("a", .bool true)] := by
  decide

end FeatureSurvey.ResultRecord
