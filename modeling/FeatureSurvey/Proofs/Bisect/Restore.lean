import FeatureSurvey.Proofs.Bisect.Log
import FeatureSurvey.Proofs.Git.Workshop
import FeatureSurvey.Proofs.Log.BuiltIn

/-!
# `Proofs/Bisect/Restore.lean` — a tree that is searched is put back

A search in a tree of our own moves the tree from commit to commit. Before it does, it asks the
tree which ref it is on, and from then on the tree is under guard: whatever becomes of the search,
the last thing that is done is to bring the tree back to that ref.

`Guarded` is the log of all that stands behind the first answer. It begins with the questions that
find the history, it ends with the way back, and what stands between them are the visits to commits
of that history; there are none if there is no history. The theorem says that nothing else can
happen, **however `git` and the detectors behave**: any command may fail, print anything or run
over its limit, and any question to the detectors may fail, too. Kinds that were added from outside
have to be discreet for that; the built-in ones are (`considerate_of_builtIn`).
-/

set_option autoImplicit false

namespace FeatureSurvey.Bisect

/-- What a search leaves in the log once the ref is known: behind the way back there is nothing,
and the tree is visited only when there is a history. -/
inductive Guarded (t : WorkTree) (ref : String) :
    Except SurveyError (List String) → List Event → Prop
  | unsearched {e : SurveyError} {back : Except SurveyError Unit} {asked last : List Event}
      (hasked : t.Asked asked) (hlast : t.CheckoutLog ref back last) :
      Guarded t ref (.error e) (asked ++ last)
  | searched {history : List String} {back : Except SurveyError Unit}
      {asked visits last : List Event} (hasked : t.Asked asked)
      (hvisits : Visits history (Visit t) visits) (hlast : t.CheckoutLog ref back last) :
      Guarded t ref (.ok history) (asked ++ visits ++ last)

namespace Query

variable {W : Type} [Host W] {q : Query (Recorded W)}

/-- The part of a search that is under guard. -/
def guardedSearch (q : Query (Recorded W)) (t : WorkTree) (ref old new : String) :
    Job (Recorded W) Outcome :=
  (do
    let history ← t.firstParentRange old new
    findIntroduction history (q.oracle t) : Job (Recorded W) Outcome).endedBy (t.checkout ref)

theorem guardedSearch_log (hq : q.Discreet) (t : WorkTree) (ref old new : String)
    (r : Recorded W) :
    ∃ es, Logged.log ((q.guardedSearch t ref old new).exec r).2 = Logged.log r ++ es ∧
      Guarded t ref ((t.firstParentRange old new).exec r).1 es := by
  obtain ⟨asked, hlog, hasked⟩ := (t.firstParentRange_asked old new).log r
  rw [guardedSearch, Attempt.exec_endedBy]
  rcases hrange : (t.firstParentRange old new).exec r with ⟨e | history, r'⟩ <;>
    rw [hrange] at hlog
  · -- no history, so nothing stands between the questions and the way back
    rw [Attempt.exec_bind_error hrange]
    obtain ⟨last, hback, hlast⟩ := (t.checkout_emits ref).log r'
    refine ⟨asked ++ last, ?_, .unsearched hasked hlast⟩
    rw [hback, hlog, List.append_assoc]
  · rw [Attempt.exec_bind_ok hrange]
    obtain ⟨visits, hsearch, hvisits⟩ := (findIntroduction_emits
      fun commit (_ : commit ∈ history) => oracle_emits hq t commit).log r'
    obtain ⟨last, hback, hlast⟩ :=
      (t.checkout_emits ref).log ((findIntroduction history (q.oracle t)).exec r').2
    refine ⟨asked ++ visits ++ last, ?_, .searched hasked hvisits hlast⟩
    rw [hback, hsearch, hlog]
    simp only [List.append_assoc]

theorem searchIn_log (hq : q.Discreet) (t : WorkTree) (old new : String) (r : Recorded W) :
    ∃ first, Logged.log (t.currentRef.exec r).2 = Logged.log r ++ first ∧ t.Asked first ∧
      match (t.currentRef.exec r).1 with
      | .error e => (q.searchIn t old new).exec r = (.error e, (t.currentRef.exec r).2)
      | .ok ref =>
        ∃ es, Logged.log ((q.searchIn t old new).exec r).2 = Logged.log r ++ first ++ es ∧
          Guarded t ref ((t.firstParentRange old new).exec (t.currentRef.exec r).2).1 es := by
  obtain ⟨first, hlog, hfirst⟩ := t.currentRef_asked.log r
  refine ⟨first, hlog, hfirst, ?_⟩
  rcases href : t.currentRef.exec r with ⟨e | ref, r'⟩ <;> rw [href] at hlog
  · exact Attempt.exec_bind_error href
  · obtain ⟨es, hes, hguarded⟩ := guardedSearch_log hq t ref old new r'
    have hsearch : (q.searchIn t old new).exec r = (q.guardedSearch t ref old new).exec r' :=
      Attempt.exec_bind_ok href
    exact ⟨es, by rw [hsearch, hes, hlog], hguarded⟩

/-- A feature that no detector answers ends a search before anything is done. -/
theorem search_eq (q : Query W) {t : WorkTree} (old new : String) (w : W) :
    (q.search t old new).exec w =
      match Resolver.assign q.config [q.feature] with
      | .error e => (.error e, w)
      | .ok _ =>
        if t.isOwned then (q.searchIn t old new).exec w else (q.searchBeside t old new).exec w := by
  rw [search, Attempt.exec_bind, Attempt.exec_ofExcept]
  cases Resolver.assign q.config [q.feature] with
  | error e => rfl
  | ok assignments =>
    cases t.isOwned with
    | true => rfl
    | false => rfl

/-- **A search in a tree of our own puts the tree back.**

A feature that no detector answers ends the search before anything is done. A tree that does not
say where it stands has only been asked. And once it has said so, the rest of the log is guarded:
it ends with the way back to that ref, and what it visits before are commits of the history. -/
theorem search_restores (hq : q.Discreet) {t : WorkTree} (owned : t.isOwned = true)
    (old new : String) (r : Recorded W) :
    match Resolver.assign q.config [q.feature] with
    | .error e => (q.search t old new).exec r = (.error e, r)
    | .ok _ =>
      ∃ first, Logged.log (t.currentRef.exec r).2 = Logged.log r ++ first ∧ t.Asked first ∧
        match (t.currentRef.exec r).1 with
        | .error e => (q.search t old new).exec r = (.error e, (t.currentRef.exec r).2)
        | .ok ref =>
          ∃ es, Logged.log ((q.search t old new).exec r).2 = Logged.log r ++ first ++ es ∧
            Guarded t ref ((t.firstParentRange old new).exec (t.currentRef.exec r).2).1 es := by
  rw [search_eq]
  cases Resolver.assign q.config [q.feature] with
  | error e => rfl
  | ok assignments =>
    simp only [owned, if_true]
    exact searchIn_log hq t old new r

/-! ## Looking for a marker -/

open Workshop (merging workshop cloned markers)

/-- Lines with a marker, looked for by the built-in kinds. -/
def marker {W : Type} [Host W] : Query W := ⟨BuiltIn.registry, markers, "marker"⟩

theorem marker_considerate : (marker : Query (Recorded W)).Considerate :=
  considerate_of_builtIn rfl

/-- The workshop before anything is logged. -/
def unlogged : Recorded (Workshop merging) := { world := workshop }

/-- A clone is put back, from a search for the marker between `r` and `m`. -/
theorem search_restores_clone :
    (marker : Query (Recorded (Workshop merging))).Discreet ∧ cloned.isOwned = true ∧
      ∃ first, Logged.log (cloned.currentRef.exec unlogged).2 = Logged.log unlogged ++ first ∧
        cloned.Asked first ∧
        match (cloned.currentRef.exec unlogged).1 with
        | .error e => (marker.search cloned "r" "m").exec unlogged =
          (.error e, (cloned.currentRef.exec unlogged).2)
        | .ok ref =>
          ∃ es, Logged.log ((marker.search cloned "r" "m").exec unlogged).2 =
              Logged.log unlogged ++ first ++ es ∧
            Guarded cloned ref ((cloned.firstParentRange "r" "m").exec
              (cloned.currentRef.exec unlogged).2).1 es :=
  ⟨marker_considerate.discreet, rfl,
    search_restores marker_considerate.discreet rfl "r" "m" unlogged⟩

end Query

end FeatureSurvey.Bisect
