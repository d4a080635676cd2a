import FeatureSurvey.Bisect.Feature
import FeatureSurvey.Proofs.Git.Log

/-!
# `Proofs/Bisect/Log.lean` — what a search leaves in the log

A search asks its oracle about one commit after another. Whatever one question leaves in the log,
the whole search leaves a row of these, each about a commit of the history, and the first question
that fails is the last one (`Visits`, `findIntroduction_emits`). That holds of any oracle, so it is
proved before the oracle of a tree is looked at.

In a tree, a question is a checkout with its cleaning, and then what the detectors do (`Visit`).
**The detectors stand behind a checkout and a cleaning that both succeeded, or they are not run.**

What the detectors do is the business of the kinds of the query, and kinds can be added. All that
is asked of them is that they are discreet: that no command of theirs is one on a working tree.
-/

set_option autoImplicit false

namespace FeatureSurvey.Bisect

/-- Questions about commits of a history, a failed one the last. -/
inductive Visits (history : List String)
    (visit : String → Except SurveyError Bool → List Event → Prop) : List Event → Prop
  | done : Visits history visit []
  | failed {commit : String} {e : SurveyError} {es : List Event} (mem : commit ∈ history)
      (h : visit commit (.error e) es) : Visits history visit es
  | next {commit : String} {present : Bool} {es rest : List Event} (mem : commit ∈ history)
      (h : visit commit (.ok present) es) (hrest : Visits history visit rest) :
      Visits history visit (es ++ rest)

section Search

variable {S : Type} [Logged S] {history : List String} {oracle : Oracle S}
  {visit : String → Except SurveyError Bool → List Event → Prop}

/-- One question, and a search behind it. -/
theorem Visits.ask {α : Type} {next : Bool → Job S α} {commit : String} (mem : commit ∈ history)
    (h : (oracle commit).Emits (visit commit))
    (hnext : ∀ present, (next present).Emits fun _ es => Visits history visit es) :
    (oracle commit >>= next).Emits fun _ es => Visits history visit es := by
  refine h.bind (fun e es hv => .failed mem hv) fun present es hv => ?_
  exact (hnext present).mono fun _ _ hrest => .next mem hv hrest

theorem narrow_emits (h : ∀ commit ∈ history, (oracle commit).Emits (visit commit))
    (lo hi evaluations : Nat) (within : hi < history.length) :
    (narrow history oracle lo hi evaluations within).Emits fun _ es =>
      Visits history visit es := by
  -- along the halving: one question, and the rest of the search on either half
  induction lo, hi, evaluations, within using narrow.induct with
  | case1 lo hi evaluations within apart mid ihlo ihhi =>
    rw [narrow, dif_pos apart]
    have mem : history.get ⟨mid, by omega⟩ ∈ history := List.get_mem _ _
    refine Visits.ask mem (h _ mem) fun present => ?_
    cases present with
    | true => exact ihlo
    | false => exact ihhi
  | case2 lo hi evaluations within apart =>
    rw [narrow, dif_neg apart]
    exact .pure .done

theorem findIntroduction_emits (h : ∀ commit ∈ history, (oracle commit).Emits (visit commit)) :
    (findIntroduction history oracle).Emits fun _ es => Visits history visit es := by
  cases history with
  | nil => exact .pure .done
  | cons oldest rest =>
    rw [findIntroduction]
    have newest := List.getLast_mem (List.cons_ne_nil oldest rest)
    have first : oldest ∈ oldest :: rest := List.mem_cons_self
    refine Visits.ask newest (h _ newest) fun present => ?_
    cases present with
    | false => exact .pure .done
    | true =>
      by_cases alone : rest.isEmpty
      · simp only [alone, if_true]
        exact .pure .done
      · simp only [alone]
        refine Visits.ask first (h _ first) fun present => ?_
        cases present with
        | true => exact .pure .done
        | false => exact narrow_emits h _ _ _ _

end Search

/-! ## Questions in a tree -/

/-- What a question about a commit leaves in the log. -/
inductive Visit (t : WorkTree) (commit : String) : Except SurveyError Bool → List Event → Prop
  /-- The tree could not be brought to the commit. -/
  | missed {e : SurveyError} {es : List Event} (h : t.CheckoutLog commit (.error e) es) :
      Visit t commit (.error e) es
  | looked {r : Except SurveyError Bool} {es found : List Event}
      (h : t.CheckoutLog commit (.ok ()) es) (hfound : ∀ e ∈ found, ¬ e.OnTree) :
      Visit t commit r (es ++ found)

namespace Query

variable {W : Type} [Host W]

/-- No command of the detectors is one on a working tree. -/
def Discreet (q : Query (Recorded W)) : Prop :=
  ∀ dir, (q.detectIn dir).Emits fun _ es => ∀ e ∈ es, ¬ e.OnTree

theorem oracle_emits {q : Query (Recorded W)} (hq : q.Discreet) (t : WorkTree) (commit : String) :
    (q.oracle t commit).Emits (Visit t commit) := by
  refine (t.checkout_emits commit).bind (fun e es h => .missed h) fun _ es h => ?_
  exact (hq t.root).mono fun _ _ hfound => .looked h hfound

end Query

end FeatureSurvey.Bisect
