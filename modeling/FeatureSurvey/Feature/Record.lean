import FeatureSurvey.Feature.Value

/-!
# `Feature/Record.lean` — the answers of one run

A record lists features with their answers in the order in which they first came in. Putting in
an answer for a feature that is there already replaces the answer where it stands. The order is
what readers of the printed record rely on.
-/

set_option autoImplicit false

namespace FeatureSurvey

namespace ResultRecord

/-- Replace the answer for a feature, or put it last. -/
def put (feature : String) (value : FeatureValue) :
    List (String × FeatureValue) → List (String × FeatureValue)
  | [] => [(feature, value)]
  | (f, v) :: rest => if f = feature then (f, value) :: rest else (f, v) :: put feature value rest

theorem map_fst_put (feature : String) (value : FeatureValue)
    (entries : List (String × FeatureValue)) :
    (put feature value entries).map (·.1) =
      if feature ∈ entries.map (·.1) then entries.map (·.1)
      else entries.map (·.1) ++ [feature] := by
  induction entries with
  | nil => simp [put]
  | cons e rest ih =>
    obtain ⟨f, v⟩ := e
    by_cases h : f = feature
    · simp [put, h]
    · simp only [put, h, if_false, List.map_cons, ih, List.mem_cons, Ne.symm h, false_or]
      split <;> simp

theorem nodup_put {feature : String} {value : FeatureValue} {entries : List (String × FeatureValue)}
    (h : (entries.map (·.1)).Nodup) : ((put feature value entries).map (·.1)).Nodup := by
  rw [map_fst_put]
  split
  · exact h
  · rename_i hn
    exact List.nodup_append.2 ⟨h, by simp, by
      intro a ha b hb
      obtain rfl := List.mem_singleton.1 hb
      exact fun hab => hn (hab ▸ ha)⟩

end ResultRecord

/-- Features with their answers, no feature twice. -/
structure ResultRecord where
  entries : List (String × FeatureValue)
  distinct : (entries.map (·.1)).Nodup
  deriving DecidableEq

namespace ResultRecord

def empty : ResultRecord := ⟨[], by simp⟩

instance : Inhabited ResultRecord := ⟨empty⟩

def insert (r : ResultRecord) (feature : String) (value : FeatureValue) : ResultRecord :=
  ⟨put feature value r.entries, nodup_put r.distinct⟩

def get? (r : ResultRecord) (feature : String) : Option FeatureValue :=
  (r.entries.find? fun e => e.1 == feature).map (·.2)

def features (r : ResultRecord) : List String := r.entries.map (·.1)

def size (r : ResultRecord) : Nat := r.entries.length

def isEmpty (r : ResultRecord) : Bool := r.entries.isEmpty

/-- The form in a file: the features in the record's order. -/
def toValue (r : ResultRecord) : Value := .record (r.entries.map fun e => (e.1, e.2.toValue))

end ResultRecord

end FeatureSurvey
