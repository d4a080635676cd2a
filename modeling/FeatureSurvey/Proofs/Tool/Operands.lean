import FeatureSurvey.Proofs.Batch.Introductions
import FeatureSurvey.Proofs.Bisect.Restore
import FeatureSurvey.Proofs.Detector.SourcePattern
import FeatureSurvey.Proofs.Tool.Arguments

/-!
# `Proofs/Tool/Operands.lean` — texts of others on command lines

Three kinds of texts come from outside and end up as arguments of a tool: the address of a
repository, from a list of packages; a revision, from the command line; and a pattern, from a
configuration. None of them is meant to be an option. But no mark stands in front of them, and
nothing looks at how they begin. **So each is taken for what it is meant to be just when it has no
dash in front** (`readAsOperands`), and a configuration that looks for a compiler's flag, say
`-ffast-math`, hands the search an option (`dashed_texts_taken_for_options`).

Two places are safe. The patterns that are built in have no dash in front. And the ends of a range,
of which it is asked whether one is an ancestor of the other, are what `git` has answered before.
-/

set_option autoImplicit false

namespace FeatureSurvey

/-! ## Patterns -/

namespace Patterns

/-- The patterns that come with the kinds. -/
def builtIn : List (List (String × String)) := [namedCasts, smartPointers]

theorem not_isDashed_of_builtIn {defaults : List (String × String)} (h : defaults ∈ builtIn)
    {entry : String × String} (hentry : entry ∈ defaults) : isDashed entry.2 = false := by
  revert defaults entry
  decide

theorem nodup_of_builtIn {defaults : List (String × String)} (h : defaults ∈ builtIn) :
    (defaults.map (·.1)).Nodup := by
  revert defaults
  decide

end Patterns

/-! ## Commands that are given texts -/

namespace WorkTree

/-- What the first commit of a line is asked for with. -/
def rooting (revision : String) : List String :=
  ["rev-list", "--first-parent", "--max-parents=0", revision]

/-- Every `rev-parse` that succeeded has printed a name made of letters and digits, as the full
name of a commit is. -/
def NamesCommits (t : WorkTree) (es : List Event) : Prop :=
  ∀ revision output, .ran (t.command (resolving revision)) (.ok output) ∈ es →
    output.status = some 0 → Text.IsPlain (Text.trim output.stdout)

variable {W : Type} [Host W]

theorem clone_emits (git url dest : String) (timeout : Timeout) :
    (clone git url dest timeout : Job (Recorded W) WorkTree).Emits fun r es =>
      (∃ outcome, es = [.ran (cloneCommand git url dest) outcome]) ∧
        ∀ t, r = .ok t → t.isOwned = true := by
  refine (Tool.runChecked_emits _ _).bind ?_ ?_
  · rintro e es ⟨outcome, rfl, -⟩
    exact ⟨⟨outcome, rfl⟩, fun t ht => by cases ht⟩
  · rintro stdout es ⟨outcome, rfl, -⟩
    refine .pure ⟨⟨outcome, rfl⟩, fun t ht => ?_⟩
    cases ht
    rfl

theorem rootCommit_emits (t : WorkTree) (revision : String) :
    (t.rootCommit revision : Job (Recorded W) String).Emits fun _ es =>
      ∃ outcome, es = [.ran (t.command (rooting revision)) outcome] := by
  refine (t.run_emits (rooting revision)).bind ?_ ?_
  · rintro e es ⟨outcome, rfl, -⟩
    exact ⟨outcome, rfl⟩
  · rintro stdout es ⟨outcome, rfl, -⟩
    split
    · exact .pure ⟨outcome, rfl⟩
    · exact .fail ⟨outcome, rfl⟩

theorem isAncestor_emits (t : WorkTree) (ancestor descendant : String) :
    (t.isAncestor ancestor descendant : Job (Recorded W) Bool).Emits fun _ es =>
      ∃ outcome, es = [.ran (t.command (relating ancestor descendant)) outcome] := by
  refine (Tool.run_emits _ _).bind ?_ ?_
  · rintro e es rfl
    exact ⟨_, rfl⟩
  · rintro output es rfl
    split
    · exact .pure ⟨_, rfl⟩
    · split
      · exact .pure ⟨_, rfl⟩
      · exact .fail ⟨_, rfl⟩

theorem commitDate_emits (t : WorkTree) (commit : String) :
    (t.commitDate commit : Job (Recorded W) Date).Emits fun _ _ => True := by
  refine Attempt.Emits.bind (P := fun _ _ => True) ?_ (fun _ _ _ => trivial) fun line es _ =>
    .ofExcept trivial
  exact (t.run_emits _).bind (fun _ _ _ => trivial) fun stdout es _ => .ofExcept trivial

theorem discard_emits (t : WorkTree) :
    (t.discard : Job (Recorded W) Unit).Emits fun _ _ => True := by
  have hremove : (Attempt.always (Host.removeTree t.root) :
      Job (Recorded W) (Except OsError Unit)).Emits fun _ _ => True :=
    .always ((removeTree_emits t.root).mono fun _ _ _ => trivial)
  unfold discard
  split
  · exact .pure trivial
  · exact hremove.bind (fun _ _ _ => trivial) fun _ _ _ => .pure trivial
  · refine hremove.bind (fun _ _ _ => trivial) fun _ _ _ => ?_
    exact (Tool.runChecked_emits _ _).bind (fun _ _ _ => trivial) fun _ _ _ => .pure trivial

/-- An answer to `rev-parse` is the line that it has printed. -/
theorem named_eq_ok {t : WorkTree} {revision c : String}
    {outcome : Except SurveyError ToolOutput} (h : .ok c = t.named revision outcome) :
    ∃ output, outcome = .ok output ∧ output.status = some 0 ∧ c = Text.trim output.stdout := by
  rcases outcome with e | output
  · cases h
  · by_cases hstatus : output.status = some 0
    · have hchecked : Tool.checked (t.command (resolving revision)) output =
          .ok output.stdout := by
        simp [Tool.checked, ToolOutput.success, hstatus]
      rw [named, Except.bind, hchecked, Except.bind, oneLine] at h
      split at h
      · cases h
      · cases h
        exact ⟨output, rfl, hstatus, rfl⟩
    · have hchecked : Tool.checked (t.command (resolving revision)) output =
          .error (Tool.failed (t.command (resolving revision)).describe output) := by
        simp [Tool.checked, ToolOutput.success, hstatus]
      rw [named, Except.bind, hchecked] at h
      cases h

/-- No question about ancestry is among the events. -/
def Unrelated (t : WorkTree) (es : List Event) : Prop :=
  ∀ a d outcome, .ran (t.command (relating a d)) outcome ∉ es

theorem Unrelated.single {t : WorkTree} {words : List String}
    (hwords : words.head? ≠ some "merge-base") (outcome : Except SurveyError ToolOutput) :
    t.Unrelated [.ran (t.command words) outcome] := by
  intro a d outcome' hmem
  have heq := List.mem_singleton.1 hmem
  simp only [command, Event.ran.injEq, Command.mk.injEq, List.cons.injEq, true_and] at heq
  obtain ⟨⟨rfl, -⟩, -⟩ := heq
  exact hwords rfl

theorem Unrelated.append {t : WorkTree} {es es' : List Event} (h : t.Unrelated es)
    (h' : t.Unrelated es') : t.Unrelated (es ++ es') := by
  intro a d outcome hmem
  rcases List.mem_append.1 hmem with hmem | hmem
  · exact h a d outcome hmem
  · exact h' a d outcome hmem

theorem unrelated_resolving (t : WorkTree) (revision : String)
    (outcome : Except SurveyError ToolOutput) :
    t.Unrelated [.ran (t.command (resolving revision)) outcome] :=
  .single (by simp [resolving]) outcome

theorem unrelated_ranging (t : WorkTree) (old new : String)
    (outcome : Except SurveyError ToolOutput) :
    t.Unrelated [.ran (t.command (ranging old new)) outcome] :=
  .single (by simp [ranging]) outcome

/-- What is asked about ancestry is asked about names that `rev-parse` has printed before. -/
def RelatesNames (t : WorkTree) (es : List Event) : Prop :=
  t.NamesCommits es → ∀ a d outcome, .ran (t.command (relating a d)) outcome ∈ es →
    Text.IsPlain a ∧ Text.IsPlain d

theorem RelatesNames.of_unrelated {t : WorkTree} {es : List Event} (h : t.Unrelated es) :
    t.RelatesNames es :=
  fun _ a d outcome hmem => absurd hmem (h a d outcome)

theorem RelatesNames.of_resolved {t : WorkTree} {old new : String} {o n : ToolOutput}
    {related : Except SurveyError ToolOutput} {rest : List Event} (ho : o.status = some 0)
    (hn : n.status = some 0) (hrest : t.Unrelated rest) :
    t.RelatesNames ([.ran (t.command (resolving old)) (.ok o)] ++
      ([.ran (t.command (resolving new)) (.ok n)] ++
        ([.ran (t.command (relating (Text.trim o.stdout) (Text.trim n.stdout))) related] ++
          rest))) := by
  intro hnames a d outcome hmem
  have hold := hnames old o (by simp) ho
  have hnew := hnames new n (by simp) hn
  -- of the four parts, only the third one has a question about ancestry
  rcases List.mem_append.1 hmem with hmem | hmem
  · exact absurd hmem (t.unrelated_resolving old _ a d outcome)
  rcases List.mem_append.1 hmem with hmem | hmem
  · exact absurd hmem (t.unrelated_resolving new _ a d outcome)
  rcases List.mem_append.1 hmem with hmem | hmem
  · have heq := List.mem_singleton.1 hmem
    simp only [command, relating, Event.ran.injEq, Command.mk.injEq, List.cons.injEq, true_and,
      and_true] at heq
    obtain ⟨⟨rfl, rfl⟩, -⟩ := heq
    exact ⟨hold, hnew⟩
  · exact absurd hmem (hrest a d outcome)

theorem firstParentRange_relates (t : WorkTree) (old new : String) :
    (t.firstParentRange old new : Job (Recorded W) (List String)).Emits fun _ es =>
      t.RelatesNames es := by
  refine (t.resolve_emits old).bind ?_ ?_
  · rintro e es ⟨o, rfl, -⟩
    exact .of_unrelated (t.unrelated_resolving old o)
  · rintro c es ⟨o, rfl, hc⟩
    refine (t.resolve_emits new).bind ?_ ?_
    · rintro e es ⟨n, rfl, -⟩
      exact .of_unrelated ((t.unrelated_resolving old o).append (t.unrelated_resolving new n))
    · rintro c' es ⟨n, rfl, hc'⟩
      -- both ends have been named, so what follows is asked about what was printed
      obtain ⟨o, rfl, ho, rfl⟩ := named_eq_ok hc
      obtain ⟨n, rfl, hn, rfl⟩ := named_eq_ok hc'
      have nothing : t.Unrelated [] := fun _ _ _ => List.not_mem_nil
      refine (t.isAncestor_emits _ _).bind ?_ ?_
      · rintro e es ⟨related, rfl⟩
        exact .of_resolved ho hn nothing
      · rintro connected es ⟨related, rfl⟩
        cases connected with
        | false => exact .fail (.of_resolved ho hn nothing)
        | true =>
          refine (t.run_emits (ranging _ _)).bind ?_ ?_
          · rintro e es ⟨ranged, rfl, -⟩
            exact .of_resolved ho hn (t.unrelated_ranging _ _ ranged)
          · rintro stdout es ⟨ranged, rfl, -⟩
            refine .pure (.of_resolved ho hn ?_)
            rw [List.append_nil]
            exact t.unrelated_ranging _ _ ranged

end WorkTree

/-! ## Addresses -/

section Addresses

variable {W : Type} [Host W]

/-- Whatever it does in a tree of our own, a search only adds to the log. -/
theorem Bisect.Query.search_grows {q : Query (Recorded W)} (hq : q.Discreet) {t : WorkTree}
    (owned : t.isOwned = true) (old new : String) :
    (q.search t old new).Emits fun _ _ => True := by
  unfold search
  refine Attempt.Emits.bind (P := fun _ _ => True) (.ofExcept trivial) (fun _ _ _ => trivial) ?_
  intro _ _ _
  rw [if_pos owned]
  refine t.currentRef_asked.bind (fun _ _ _ => trivial) fun ref es _ => ?_
  refine Attempt.Emits.endedBy (P := fun _ _ => True) ?_ fun r es _ =>
    (t.checkout_emits ref).mono fun _ _ _ => trivial
  refine (t.firstParentRange_asked old new).bind (fun _ _ _ => trivial) fun history es _ => ?_
  exact (findIntroduction_emits fun commit _ => oracle_emits hq t commit).mono fun _ _ _ => trivial

namespace Batch

variable {b : Batch (Recorded W)} (hq : ∀ feature, (b.query feature).Discreet)

include hq

theorem introduction_grows {t : WorkTree} (owned : t.isOwned = true) (first head feature : String) :
    (b.introduction t first head feature).Emits fun _ _ => True := by
  have hsearch := Bisect.Query.search_grows (hq feature) owned first head
  refine (hsearch.caught (P := fun _ _ => True) fun _ _ _ => trivial).bind
    (P := fun _ _ => True) (fun _ _ _ => trivial) fun r es _ => ?_
  split
  · refine ((t.commitDate_emits _).caught (P := fun _ _ => True) fun _ _ _ => trivial).bind
      (P := fun _ _ => True) (fun _ _ _ => trivial) fun date es _ => ?_
    split <;> exact .pure trivial
  · exact .pure trivial

theorem introductions_grows {t : WorkTree} (owned : t.isOwned = true) (first head : String)
    (found : Table FeatureIntroduction) (features : List String) :
    (b.introductions t first head found features).Emits fun _ _ => True := by
  induction features generalizing found with
  | nil => exact .pure trivial
  | cons feature rest ih =>
    refine (introduction_grows hq owned first head feature).bind (fun _ _ _ => trivial) ?_
    intro i es _
    split
    · exact ih _
    · exact ih _

theorem searchClone_grows {t : WorkTree} (owned : t.isOwned = true) (url : String) :
    (b.searchClone url t).Emits fun _ _ => True := by
  refine (t.resolve_asked "HEAD").bind (fun _ _ _ => trivial) fun head es _ => ?_
  refine (t.rootCommit_emits head).bind (fun _ _ _ => trivial) fun first es _ => ?_
  refine (t.commitDate_emits first).bind (fun _ _ _ => trivial) fun creation es _ => ?_
  exact (introductions_grows hq owned first head ∅ b.bisection.featuresSelected).bind
    (fun _ _ _ => trivial) fun features es _ => .pure trivial

/-- The search of a package's repository begins with the clone of the address that the package
names. -/
theorem bisectionData_clones {info : PackageInfo} {url : String} (h : b.Searches info url) :
    (b.bisectionData info).Emits fun _ es => ∃ outcome rest,
      es = .ran (WorkTree.cloneCommand b.git url b.layout.gitDir) outcome :: rest := by
  have hsearch : (b.searchRepository url).Emits fun _ es => ∃ outcome rest,
      es = .ran (WorkTree.cloneCommand b.git url b.layout.gitDir) outcome :: rest := by
    refine (WorkTree.clone_emits _ _ _ _).bind ?_ ?_
    · rintro e es ⟨⟨outcome, rfl⟩, -⟩
      exact ⟨outcome, [], rfl⟩
    · rintro t es ⟨⟨outcome, rfl⟩, howned⟩
      -- what is done in the clone, and to it, is logged behind it
      refine (searchClone_grows hq (howned t rfl) url).endedBy fun r es _ => ?_
      exact t.discard_emits.mono fun _ es' _ => ⟨outcome, es ++ es', rfl⟩
  unfold bisectionData
  rw [h.repository]
  simp only [h.wanted, h.allowed]
  have hcaught : (b.searchRepository url).caught.Emits fun _ es => ∃ outcome rest,
      es = .ran (WorkTree.cloneCommand b.git url b.layout.gitDir) outcome :: rest :=
    hsearch.caught fun _ _ hes => hes
  refine hcaught.bind (fun _ _ hes => hes) fun r es hes => .pure ?_
  simpa using hes

end Batch

end Addresses

/-! ## Searches for patterns -/

section Searches

variable {W : Type} [Host W]

/-- A search runs one command, if the feature has a pattern. -/
theorem SourcePatternDetector.detect_emits (d : SourcePatternDetector) (feature : String) :
    (d.detect feature : Job (Recorded W) FeatureValue).Emits fun _ es =>
      match d.patterns.get? feature with
      | none => es = []
      | some pattern => ∃ outcome, es = [.ran (d.command pattern) outcome] := by
  unfold detect
  cases d.patterns.get? feature with
  | none => exact .fail rfl
  | some pattern =>
    refine (Tool.run_emits _ _).bind ?_ ?_
    · rintro e es rfl
      exact ⟨_, rfl⟩
    · rintro output es rfl
      refine Attempt.Emits.bind (P := fun _ es => es = []) (.ofExcept rfl) ?_ ?_
      · rintro e es rfl
        exact ⟨_, rfl⟩
      · rintro count es rfl
        exact .pure ⟨_, rfl⟩

omit [Host W] in
theorem Session.onWorld_emits {α : Type} {job : Job (Recorded W) α}
    {Q : Except SurveyError α → List Event → Prop} (h : job.Emits Q) :
    (Session.onWorld job).Emits Q := fun s => h s.world

end Searches

/-! ## What is taken for an operand -/

/-- Where texts of others stand on command lines, and when they are taken for operands there. The
tools may do whatever they like. -/
structure ReadAsOperands (W : Type) [Host W] (git grep : ArgumentReader) : Prop where
  /-- The first command in the search of a package's repository is the clone, with the address as
  the list of packages has it. -/
  address : ∀ (b : Batch (Recorded W)) (info : PackageInfo) (url : String),
    (∀ feature, (b.query feature).Discreet) → b.Searches info url →
    (b.bisectionData info).Emits fun _ es => ∃ outcome rest,
      es = .ran (WorkTree.cloneCommand b.git url b.layout.gitDir) outcome :: rest ∧
      (git.TakesOperand (WorkTree.cloneCommand b.git url b.layout.gitDir).arguments 2 url ↔
        isDashed url = false)
  root : ∀ (t : WorkTree) (revision : String),
    (t.rootCommit revision : Job (Recorded W) String).Emits fun _ es => ∃ outcome,
      es = [.ran (t.command (WorkTree.rooting revision)) outcome] ∧
      (git.TakesOperand (t.command (WorkTree.rooting revision)).arguments 5 revision ↔
        isDashed revision = false)
  revision : ∀ (t : WorkTree) (revision : String),
    (t.resolve revision : Job (Recorded W) String).Emits fun _ es => ∃ outcome,
      es = [.ran (t.command (WorkTree.resolving revision)) outcome] ∧
      (git.TakesOperand (t.command (WorkTree.resolving revision)).arguments 5
        (revision ++ "^\x7bcommit\x7d") ↔ isDashed revision = false)
  /-- Both ends of a range are operands, as `rev-parse` has named them. -/
  ancestry : ∀ (t : WorkTree) (old new : String),
    (t.firstParentRange old new : Job (Recorded W) (List String)).Emits fun _ es =>
      t.NamesCommits es → ∀ a d outcome, .ran (t.command (WorkTree.relating a d)) outcome ∈ es →
        git.TakesOperand (t.command (WorkTree.relating a d)).arguments 4 a ∧
          git.TakesOperand (t.command (WorkTree.relating a d)).arguments 5 d
  /-- A search runs one command. A pattern that is not read as the pattern is one that the
  configuration gives. -/
  pattern : ∀ (kind : String) (defaults : List (String × String))
    (build : DetectorBuild (Session (Recorded W))) (s : Session (Recorded W))
    (d : Detector (Session (Recorded W))) (feature : String), defaults ∈ Patterns.builtIn →
    ((BuiltIn.sourcePatternDetector kind defaults build).exec s).1 = .ok d →
    (d.detect feature).Emits fun _ es =>
      match (Patterns.withOptions defaults build.spec.options).get? feature with
      | none => es = []
      | some pattern => ∃ (search : SourcePatternDetector) (outcome : _),
        es = [.ran (search.command pattern) outcome] ∧
        (grep.TakesFirstOperand (search.command pattern).arguments
          (3 + 2 * search.includes.length) pattern ↔ isDashed pattern = false) ∧
        (isDashed pattern = true → build.spec.option? ("pattern." ++ feature) = some pattern)

section Operands

variable {W : Type} [Host W] {git grep : ArgumentReader}

open ArgumentReader (takesOperand_iff)

theorem takesAddress_iff (hgit : git.ReadsAsGit) (program url dest : String) :
    git.TakesOperand (WorkTree.cloneCommand program url dest).arguments 2 url ↔
      isDashed url = false :=
  have hfront : git.awaits ["clone", "--quiet"] = .anything := hgit.awaits_words (by decide)
  takesOperand_iff hfront [dest]

/-- The same of a text on the command line of a working tree, behind words of our own. -/
theorem takesText_iff (hgit : git.ReadsAsGit) (t : WorkTree) (words : List String)
    (hwords : ∀ word ∈ words, isDashed word = false ∨ word ∈ ArgumentReader.gitSwitches)
    (text : String) (behind : List String) :
    git.TakesOperand (t.command (words ++ text :: behind)).arguments (words.length + 2) text ↔
      isDashed text = false :=
  have hfront : git.awaits ("-C" :: t.root :: words) = .anything := hgit.awaits_command hwords
  takesOperand_iff hfront behind

/-- **A text of somebody else's is taken for an operand just when it has no dash in front.**

That goes for the address of a repository and for a revision, and for a pattern, which then is
what is searched for. The ends of a range are operands in any case, and so are the patterns that
are built in. -/
theorem readAsOperands (hgit : git.ReadsAsGit) (hgrep : grep.ReadsAsGrep) :
    ReadAsOperands W git grep where
  address := by
    intro b info url hq h
    refine (Batch.bisectionData_clones hq h).mono ?_
    rintro data es ⟨outcome, rest, rfl⟩
    exact ⟨outcome, rest, rfl, takesAddress_iff hgit _ _ _⟩
  root := by
    intro t revision
    refine (t.rootCommit_emits revision).mono ?_
    rintro r es ⟨outcome, rfl⟩
    exact ⟨outcome, rfl, takesText_iff hgit t ["rev-list", "--first-parent", "--max-parents=0"]
      (by decide) revision []⟩
  revision := by
    intro t revision
    refine (t.resolve_emits revision).mono ?_
    rintro r es ⟨outcome, rfl, -⟩
    refine ⟨outcome, rfl, ?_⟩
    have hpeel : isDashed "^\x7bcommit\x7d" = false := by decide
    rw [← isDashed_append hpeel]
    exact takesText_iff hgit t ["rev-parse", "--verify", "--quiet"] (by decide) _ []
  ancestry := by
    intro t old new
    refine (t.firstParentRange_relates old new).mono ?_
    intro r es hrelates hnames a d outcome hmem
    obtain ⟨ha, hd⟩ := hrelates hnames a d outcome hmem
    have hplain := not_isDashed_of_isPlain ha
    constructor
    · exact (takesText_iff hgit t ["merge-base", "--is-ancestor"] (by decide) a [d]).2 hplain
    · -- the first end is an operand, so the second one can be read as one
      refine (takesText_iff hgit t ["merge-base", "--is-ancestor", a] ?_ d []).2
        (not_isDashed_of_isPlain hd)
      intro word hword
      simp only [List.mem_cons, List.not_mem_nil, or_false] at hword
      rcases hword with rfl | rfl | rfl
      · exact .inl (by decide)
      · exact .inr (by decide)
      · exact .inl hplain
  pattern := by
    intro kind defaults build s d feature hdefaults hd
    rw [BuiltIn.exec_sourcePatternDetector] at hd
    obtain ⟨source, -, rfl⟩ := map_eq_ok.1 hd
    refine (Session.onWorld_emits
      ((BuiltIn.searchIn s.world build defaults source).detect_emits feature)).mono ?_
    intro r es hes
    have hpatterns : (BuiltIn.searchIn s.world build defaults source).patterns =
        Patterns.withOptions defaults build.spec.options := rfl
    rw [hpatterns] at hes
    split at hes
    · exact hes
    · rename_i pattern hpattern
      obtain ⟨outcome, rfl⟩ := hes
      refine ⟨_, outcome, rfl, hgrep.takesPattern_iff _ pattern, fun hdash => ?_⟩
      rcases (Patterns.get?_withOptions (Patterns.nodup_of_builtIn hdefaults)).1 hpattern with
        hoption | ⟨-, hdefault⟩
      · exact hoption
      · have := Patterns.not_isDashed_of_builtIn hdefaults hdefault
        rw [hdash] at this
        cases this

/-- For the tools as their manuals have them, in a world with a clone. -/
theorem readAsOperands_manual :
    ArgumentReader.git.ReadsAsGit ∧ ArgumentReader.grep.ReadsAsGrep ∧
      ReadAsOperands (Workshop Workshop.merging) ArgumentReader.git ArgumentReader.grep :=
  ⟨ArgumentReader.git_readsAsGit, ArgumentReader.grep_readsAsGrep,
    readAsOperands ArgumentReader.git_readsAsGit ArgumentReader.grep_readsAsGrep⟩

end Operands

/-- Looking for a flag of the compiler. -/
def flagSearch : SourcePatternDetector where
  name := "flags"
  sourceDir := "src"
  patterns := Patterns.withOptions Patterns.namedCasts
    (Table.ofList [("pattern.fast_math", "-ffast-math")])
  tool := "grep"
  timeout := .ofSeconds defaultToolTimeout

/-- The flag is a pattern that a configuration can declare, and it is taken for an option. So are
an address and a revision with a dash in front. -/
theorem dashed_texts_taken_for_options :
    flagSearch.patterns.get? "fast_math" = some "-ffast-math" ∧
    (ArgumentReader.grep.roles (flagSearch.command "-ffast-math").arguments)[7]? = some .option ∧
    ¬ ArgumentReader.grep.TakesFirstOperand (flagSearch.command "-ffast-math").arguments 7
      "-ffast-math" ∧
    ¬ ArgumentReader.git.TakesOperand
      (WorkTree.cloneCommand "git" "--upload-pack=touch owned" "clone").arguments 2
      "--upload-pack=touch owned" ∧
    ¬ ArgumentReader.git.TakesOperand
      (Workshop.cloned.command (WorkTree.rooting "--all")).arguments 5 "--all" := by
  refine ⟨by decide, by decide, fun h => ?_, fun h => ?_, fun h => ?_⟩
  · exact absurd h.1.2 (by decide)
  · exact absurd h.2 (by decide)
  · exact absurd h.2 (by decide)

end FeatureSurvey
