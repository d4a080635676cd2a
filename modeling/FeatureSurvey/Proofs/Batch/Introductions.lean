import FeatureSurvey.Proofs.Batch.Turns
import FeatureSurvey.Proofs.Git.Failing
import FeatureSurvey.Proofs.Run.Deadline

/-!
# `Proofs/Batch/Introductions.lean` — what searching a repository can cost

The search of a package's repository comes last in its processing, and it runs a program that may
fail at every command, hang, or print anything. Four things can go wrong, one inside the other: the
repository cannot be opened, a feature's search fails, it ends without a commit, or the date of the
commit cannot be read. Each costs what it concerns: the first the data of the search, the others one
feature in them (`Batch.introductions_get?_iff`).

None of them costs a record, but there is one failure that nobody may handle: a command was started
with a limit that the clock cannot tell the end of. Then the record is lost, and with it the whole
batch (`Batch.Loses`). **A package that has its turn and in which something could be detected has
its record, whatever becomes of its repository, and nothing but such a limit keeps it from that**
(`Batch.run_records`). The world is a parameter, so that this holds for every behaviour of the
program; a repository that is not searched leaves the world as it was, and no command can have been
run.
-/

set_option autoImplicit false

namespace FeatureSurvey

namespace Batch

variable {W : Type} [Host W] (b : Batch W)

/-! ## What goes before -/

/-- The repository of a package is searched. -/
structure Searches (info : PackageInfo) (url : String) : Prop where
  repository : info.repository = some url
  wanted : b.options.skipBisect = false
  allowed : b.whitelist.allows url = true

/-- The artifacts of a package can be had, and something can be detected in them. -/
inductive Detects (info : PackageInfo) (fresh : W) (a : Artifacts) (found : ResultRecord)
    (after : W) : Prop
  | intro {between : W} (hfetch : (b.fetch info).exec fresh = (.ok a, between))
      (hdetect : (b.detect info a).exec between = (.ok found, after))

/-- A clone that can be searched: its line of commits has two ends, and the first has a date. -/
structure OpenClone (W : Type) where
  tree : WorkTree
  head : String
  first : String
  creation : Date
  /-- The world in which the search of the first feature begins. -/
  ready : W

/-- The repository is cloned, and the clone can be searched. -/
inductive Opens (url : String) (w : W) (c : OpenClone W) : Prop
  | intro {cloned headed rooted : W}
      (hclone : (WorkTree.clone b.git url b.layout.gitDir b.gitTimeout).exec w =
        (.ok c.tree, cloned))
      (hhead : c.tree.headCommit.exec cloned = (.ok c.head, headed))
      (hfirst : (c.tree.rootCommit c.head).exec headed = (.ok c.first, rooted))
      (hcreation : (c.tree.commitDate c.first).exec rooted = (.ok c.creation, c.ready))

/-- What is asked about a feature in a repository. -/
def query (feature : String) : Bisect.Query W :=
  { kinds := b.kinds, config := b.bisection, feature }

/-- The search for a feature finds a commit, and the date of this commit can be read. -/
inductive Introduces (c : OpenClone W) (feature : String) (w : W) : FeatureIntroduction → Prop
  | intro {commit : String} {evaluations : Nat} {found after : W} {date : Date}
      (hsearch : ((b.query feature).search c.tree c.first c.head).exec w =
        (.ok ⟨.introduced commit, evaluations⟩, found))
      (hdate : (c.tree.commitDate commit).exec found = (.ok date, after)) :
      Introduces c feature w ⟨commit, date.format⟩

/-- The features to be searched for, each with the world in which its own search begins. -/
def searches (c : OpenClone W) (w : W) : List String → List (String × W)
  | [] => []
  | feature :: rest =>
    (feature, w) ::
      searches c ((b.introduction c.tree c.first c.head feature).exec w).2 rest

/-- What the search of a repository gives. -/
structure SearchData (url : String) (c : OpenClone W) (data : BisectionData) : Prop where
  repository : data.repository = url
  creation : data.creation = c.creation.format
  /-- Each feature stands on its own search. -/
  features : b.bisection.featuresSelected.Nodup → ∀ feature i,
    data.features.get? feature = some i ↔
      ∃ w, (feature, w) ∈ b.searches c c.ready b.bisection.featuresSelected ∧
        b.Introduces c feature w i

/-- The record of a package in which something was detected. -/
structure Emits (info : PackageInfo) (a : Artifacts) (found : ResultRecord) (before : W)
    (record : PackageRecord) (after : W) : Prop where
  package : (record.name, record.rank, record.source, record.version, record.maintainer) =
    (info.name, info.rank, info.source, info.version, info.maintainer)
  detected : record.detected = found.toValue.sorted
  creationDate : record.creationDate = a.creationDate.map Date.format
  /-- There are data if the repository is to be searched and can be opened. -/
  present : record.bisection.isSome ↔
    ∃ url c, b.Searches info url ∧ b.Opens url before c
  data : ∀ data, record.bisection = some data →
    ∃ url c, b.Searches info url ∧ b.Opens url before c ∧ b.SearchData url c data
  /-- Nothing more is done if the repository is not to be searched. -/
  untouched : (∀ url, ¬ b.Searches info url) → after = before

/-- The record of a package is lost to the search of its repository: a tool was started there with
a limit that the clock cannot tell the end of. -/
inductive Loses (info : PackageInfo) (before : W) : Failure → Prop
  | intro {url text : String} (hsearched : b.Searches info url)
      (hlate : b.kinds = BuiltIn.registry → ∃ (v : W) (command : Command), Host.Reaches before v ∧
        command.describe = text ∧ (Host.run command b.gitTimeout v).1.WasStarted ∧
        Timeout.clockRange ≤ Host.uptime v + b.bisection.toolTimeout.toNat) :
      Loses info before (.ofSurvey (.deadlineOutOfRange text))

/-! ## One feature -/

variable {b}

theorem exec_introduction (c : OpenClone W) (feature : String) (w : W) :
    (b.introduction c.tree c.first c.head feature).exec w =
      match ((b.query feature).search c.tree c.first c.head).exec w with
      | (.ok ⟨.introduced commit, _⟩, found) =>
        match (c.tree.commitDate commit).exec found with
        | (.ok date, after) => (.ok (some ⟨commit, date.format⟩), after)
        | (.error e, after) => (if isFatal e then .error e else .ok none, after)
      | (.ok _, found) => (.ok none, found)
      | (.error e, found) => (if isFatal e then .error e else .ok none, found) := by
  show (((b.query feature).search c.tree c.first c.head).caught >>= _).exec w = _
  rw [Attempt.exec_bind, Attempt.exec_caught]
  rcases ((b.query feature).search c.tree c.first c.head).exec w with
    ⟨e | ⟨commit | reason, evaluations⟩, found⟩
  · cases hfatal : isFatal e <;> simp [Attempt.unlessFatal, hfatal]
  · show ((c.tree.commitDate commit).caught >>= _).exec found = _
    rw [Attempt.exec_bind, Attempt.exec_caught]
    simp only
    rcases (c.tree.commitDate commit).exec found with ⟨e | date, after⟩
    · cases hfatal : isFatal e <;> simp [Attempt.unlessFatal, hfatal]
    · rfl
  · rfl

theorem introduction_eq_some_iff {c : OpenClone W} {feature : String} {w : W}
    {i : FeatureIntroduction} :
    ((b.introduction c.tree c.first c.head feature).exec w).1 = .ok (some i) ↔
      b.Introduces c feature w i := by
  rw [exec_introduction]
  constructor
  · intro h
    rcases hsearch : ((b.query feature).search c.tree c.first c.head).exec w with
      ⟨e | ⟨commit | reason, evaluations⟩, found⟩ <;> rw [hsearch] at h
    · cases hfatal : isFatal e <;> simp [hfatal] at h
    · rcases hdate : (c.tree.commitDate commit).exec found with ⟨e | date, after⟩ <;>
        simp only [hdate] at h
      · cases hfatal : isFatal e <;> simp [hfatal] at h
      · cases h
        exact .intro hsearch hdate
    · cases h
  · rintro ⟨hsearch, hdate⟩
    rw [hsearch]
    simp only [hdate]

/-- A feature costs more than itself only if its failure is fatal. -/
theorem introduction_fatal (tree : WorkTree) (first head feature : String) :
    (b.introduction tree first head feature).Fails (fun _ => True) fun e => isFatal e = true := by
  refine (Attempt.Fails.trivial.caught.mono fun _ he => he.2).bind fun outcome => ?_
  split
  · refine (Attempt.Fails.trivial.caught.mono fun _ he => he.2).bind fun date => ?_
    split <;> exact .pure _
  · exact .pure _

/-! ## All features -/

theorem exec_introductions_cons {c : OpenClone W} {found : Table FeatureIntroduction}
    {feature : String} {rest : List String} {w : W} :
    (b.introductions c.tree c.first c.head found (feature :: rest)).exec w =
      (b.introduction c.tree c.first c.head feature >>= fun i =>
        b.introductions c.tree c.first c.head ((i.map (found.insert feature)).getD found)
          rest).exec w := by
  rw [introductions, Attempt.exec_bind, Attempt.exec_bind]
  rcases (b.introduction c.tree c.first c.head feature).exec w with ⟨e | _ | i, after⟩ <;> rfl

/-- The table holds what was in it before, and each feature that its own search finds. -/
theorem introductions_get?_iff {c : OpenClone W} {w last : W} {features : List String}
    {found table : Table FeatureIntroduction}
    (h : (b.introductions c.tree c.first c.head found features).exec w = (.ok table, last))
    (unrepeated : features.Nodup) (unfound : ∀ f ∈ features, found.get? f = none)
    (feature : String) (i : FeatureIntroduction) :
    table.get? feature = some i ↔
      found.get? feature = some i ∨
        ∃ v, (feature, v) ∈ b.searches c w features ∧ b.Introduces c feature v i := by
  induction features generalizing w found with
  | nil =>
    obtain rfl : found = table := Except.ok.inj (congrArg Prod.fst h)
    simp [searches]
  | cons f rest ih =>
    obtain ⟨hf, hrest⟩ := List.nodup_cons.1 unrepeated
    rw [exec_introductions_cons] at h
    obtain ⟨r, after, hf₁, hrest₁⟩ := Attempt.exec_bind_eq_ok h
    have hafter : ((b.introduction c.tree c.first c.head f).exec w).2 = after :=
      congrArg Prod.snd hf₁
    have hr (j : FeatureIntroduction) : r = some j ↔ b.Introduces c f w j := by
      rw [← introduction_eq_some_iff, hf₁]
      exact ⟨fun heq => by rw [heq], fun heq => Except.ok.inj heq⟩
    generalize hextended : (r.map (found.insert f)).getD found = extended at hrest₁
    have hget (g : String) (j : FeatureIntroduction) : extended.get? g = some j ↔
        found.get? g = some j ∨ g = f ∧ b.Introduces c f w j := by
      rw [← hextended, ← hr]
      cases r with
      | none => simp
      | some j =>
        by_cases hg : g = f
        · simp [hg, unfound f List.mem_cons_self]
        · simp [hg]
    have hunfound : ∀ g ∈ rest, extended.get? g = none := by
      intro g hg
      refine Option.eq_none_iff_forall_ne_some.2 fun j hj => ?_
      rcases (hget g j).1 hj with hold | ⟨rfl, -⟩
      · rw [unfound g (List.mem_cons_of_mem f hg)] at hold
        cases hold
      · exact hf hg
    rw [ih hrest₁ hrest hunfound, hget, or_assoc, searches, hafter]
    refine or_congr_right ?_
    constructor
    · rintro (⟨rfl, hi⟩ | ⟨v, hv, hi⟩)
      · exact ⟨w, List.mem_cons_self, hi⟩
      · exact ⟨v, List.mem_cons_of_mem _ hv, hi⟩
    · rintro ⟨v, hv, hi⟩
      rcases List.mem_cons.1 hv with heq | hv
      · cases heq
        exact .inl ⟨rfl, hi⟩
      · exact .inr ⟨v, hv, hi⟩

theorem introductions_fatal (tree : WorkTree) (first head : String)
    (found : Table FeatureIntroduction) (features : List String) :
    (b.introductions tree first head found features).Fails (fun _ => True)
      fun e => isFatal e = true := by
  induction features generalizing found with
  | nil => exact .pure _
  | cons feature rest ih =>
    refine (introduction_fatal tree first head feature).bind fun i => ?_
    split
    · exact ih _
    · exact ih _

/-! ## The repository -/

/-- Data of a search tell that the repository could be opened. -/
theorem opens_of_searchRepository {url : String} {w : W} {data : BisectionData}
    (h : ((b.searchRepository url).exec w).1 = .ok data) :
    ∃ c, b.Opens url w c ∧ b.SearchData url c data := by
  have hexec : (b.searchRepository url).exec w = (.ok data, ((b.searchRepository url).exec w).2) :=
    Prod.ext h rfl
  rw [searchRepository] at hexec
  obtain ⟨tree, cloned, hclone, hsearch⟩ := Attempt.exec_bind_eq_ok hexec
  have hsearch : (b.searchClone url tree).exec cloned =
      (.ok data, ((b.searchClone url tree).exec cloned).2) :=
    Prod.ext (Attempt.exec_of_endedBy_ok (congrArg Prod.fst hsearch)) rfl
  rw [searchClone] at hsearch
  obtain ⟨head, headed, hhead, hsearch⟩ := Attempt.exec_bind_eq_ok hsearch
  obtain ⟨first, rooted, hfirst, hsearch⟩ := Attempt.exec_bind_eq_ok hsearch
  obtain ⟨creation, ready, hcreation, hsearch⟩ := Attempt.exec_bind_eq_ok hsearch
  obtain ⟨table, done, htable, hdata⟩ := Attempt.exec_bind_eq_ok hsearch
  obtain rfl := Except.ok.inj (congrArg Prod.fst hdata)
  refine ⟨⟨tree, head, first, creation, ready⟩, .intro hclone hhead hfirst hcreation, rfl, rfl, ?_⟩
  intro unrepeated feature i
  rw [introductions_get?_iff (c := ⟨tree, head, first, creation, ready⟩) htable unrepeated
    (fun _ _ => Table.get?_empty _), Table.get?_empty]
  simp

/-- Once the repository is open, only a fatal failure keeps back the data. -/
theorem isFatal_of_opens {url : String} {w : W} {c : OpenClone W} (h : b.Opens url w c)
    {e : SurveyError} (he : ((b.searchRepository url).exec w).1 = .error e) : isFatal e = true := by
  obtain ⟨hclone, hhead, hfirst, hcreation⟩ := h
  rw [searchRepository, Attempt.exec_bind_ok hclone, Attempt.exec_endedBy, searchClone,
    Attempt.exec_bind_ok hhead, Attempt.exec_bind_ok hfirst, Attempt.exec_bind_ok hcreation] at he
  have hfeatures : (b.introductions c.tree c.first c.head ∅ b.bisection.featuresSelected >>=
      fun features => (pure ⟨url, c.creation.format, features⟩ : Job W BisectionData)).Fails
        (fun _ => True) fun e => isFatal e = true :=
    (introductions_fatal _ _ _ _ _).bind fun _ => .pure _
  generalize (b.introductions c.tree c.first c.head ∅ b.bisection.featuresSelected >>=
    fun features => (pure ⟨url, c.creation.format, features⟩ : Job W BisectionData)) = job
    at he hfeatures
  have hfails : (c.tree.discard : Job W Unit).Fails (fun _ => True) fun _ => True := .trivial
  have hdiscard := hfails.caught (job.exec c.ready).2 trivial
  rw [Attempt.exec_caught] at hdiscard
  rcases hcaught : Attempt.unlessFatal (c.tree.discard.exec (job.exec c.ready).2).1 with e' | r <;>
    rw [hcaught] at he
  · cases he
    exact (hdiscard.2 _ hcaught).2
  · exact (hfeatures c.ready trivial).2 e he

theorem exec_bisectionData {info : PackageInfo} {url : String} (h : b.Searches info url) (w : W) :
    (b.bisectionData info).exec w =
      match (b.searchRepository url).exec w with
      | (.ok data, after) => (.ok (some data), after)
      | (.error e, after) => (if isFatal e then .error e else .ok none, after) := by
  rw [bisectionData, h.repository]
  dsimp only
  rw [h.wanted, h.allowed]
  show ((b.searchRepository url).caught >>= fun r =>
    (pure r.toOption : Job W (Option BisectionData))).exec w = _
  rw [Attempt.exec_bind, Attempt.exec_caught]
  rcases (b.searchRepository url).exec w with ⟨e | data, after⟩
  · cases hfatal : isFatal e <;> simp [Attempt.unlessFatal, hfatal, Except.toOption]
  · rfl

/-- A repository that is not to be searched costs nothing. -/
theorem exec_bisectionData_of_not_searches {info : PackageInfo} (h : ∀ url, ¬ b.Searches info url)
    (w : W) : (b.bisectionData info).exec w = (.ok none, w) := by
  rw [bisectionData]
  cases hrepository : info.repository with
  | none => rfl
  | some url =>
    have hleft : (b.options.skipBisect || !b.whitelist.allows url) = true := by
      by_contra hnot
      rw [Bool.not_eq_true, Bool.or_eq_false_iff, Bool.not_eq_false'] at hnot
      exact h url ⟨hrepository, hnot.1, hnot.2⟩
    dsimp only
    rw [if_pos hleft]
    rfl

/-- There are data of those repositories that are to be searched and can be opened. -/
theorem bisectionData_spec {info : PackageInfo} {w after : W} {data? : Option BisectionData}
    (h : (b.bisectionData info).exec w = (.ok data?, after)) :
    (data?.isSome ↔ ∃ url c, b.Searches info url ∧ b.Opens url w c) ∧
      ∀ data, data? = some data →
        ∃ url c, b.Searches info url ∧ b.Opens url w c ∧ b.SearchData url c data := by
  by_cases hsearches : ∃ url, b.Searches info url
  · obtain ⟨url, hurl⟩ := hsearches
    have honly {other : String} (hother : b.Searches info other) : other = url :=
      Option.some.inj (hother.repository.symm.trans hurl.repository)
    rw [exec_bisectionData hurl] at h
    rcases hresult : (b.searchRepository url).exec w with ⟨e | data, found⟩ <;> rw [hresult] at h
    · -- a failure that was caught is not fatal, so the repository could not be opened
      have hordinary : isFatal e = false ∧ data? = none := by
        cases hfatal : isFatal e <;> simp_all
      obtain ⟨hordinary, rfl⟩ := hordinary
      refine ⟨iff_of_false nofun ?_, nofun⟩
      rintro ⟨other, c, hother, hopens⟩
      obtain rfl := honly hother
      rw [isFatal_of_opens hopens (congrArg Prod.fst hresult)] at hordinary
      cases hordinary
    · obtain rfl : some data = data? := Except.ok.inj (congrArg Prod.fst h)
      obtain ⟨c, hopens, hdata⟩ := opens_of_searchRepository (congrArg Prod.fst hresult)
      refine ⟨iff_of_true rfl ⟨url, c, hurl, hopens⟩, fun data' heq => ?_⟩
      cases heq
      exact ⟨url, c, hurl, hopens, hdata⟩
  · rw [exec_bisectionData_of_not_searches (not_exists.1 hsearches)] at h
    cases h
    refine ⟨iff_of_false nofun ?_, nofun⟩
    rintro ⟨url, c, hurl, -⟩
    exact hsearches ⟨url, hurl⟩

/-! ## What a search may fail with -/

section Late

variable {I : W → Prop} {P : SurveyError → Prop} (builtIn : b.kinds = BuiltIn.registry)
  (own : ∀ e, isFatal e = false → P e) (h : TakesIn I b.gitTimeout P)

include builtIn own h

theorem introductions_fails {tree : WorkTree} (owned : tree.isOwned = true)
    (limit : tree.timeout = b.gitTimeout) (first head : String)
    (found : Table FeatureIntroduction) (features : List String) :
    (b.introductions tree first head found features).Fails I P := by
  have htree : TakesIn I tree.timeout P := limit.symm ▸ h
  have hfeature (feature : String) : (b.introduction tree first head feature).Fails I P := by
    have hsearch := Bisect.Query.search_fails (q := b.query feature) builtIn own owned limit htree
      first head
    refine (hsearch.caught.mono fun _ he => he.1).bind fun outcome => ?_
    split
    · refine ((WorkTree.commitDate_fails htree own _).caught.mono fun _ he => he.1).bind ?_
      intro date
      split <;> exact .pure _
    · exact .pure _
  induction features generalizing found with
  | nil => exact .pure _
  | cons feature rest ih =>
    refine (hfeature feature).bind fun i => ?_
    split
    · exact ih _
    · exact ih _

theorem searchRepository_fails (url : String) : (b.searchRepository url).Fails I P := by
  -- only a tree that has the batch's limit and is our own comes out of the clone
  intro w hw
  have hclone := Tool.runChecked_fails h (WorkTree.cloneCommand b.git url b.layout.gitDir)
  rw [searchRepository, WorkTree.clone, bind_assoc]
  simp only [pure_bind]
  refine (hclone.bind fun _ => ?_) w hw
  let tree : WorkTree := ⟨b.layout.gitDir, b.git, b.gitTimeout, .cloned⟩
  have htree : TakesIn I tree.timeout P := h
  refine Attempt.Fails.endedBy ?_ ((WorkTree.discard_fails htree).mono fun _ he _ => he)
  refine (WorkTree.resolve_fails htree own "HEAD").bind fun head => ?_
  refine (WorkTree.rootCommit_fails htree own head).bind fun first => ?_
  refine (WorkTree.commitDate_fails htree own first).bind fun creation => ?_
  exact (introductions_fails builtIn own h rfl rfl first head ∅ _).bind fun _ => .pure _

end Late

theorem lateOnly_of_ordinary {start : W} {limit : UInt64} {e : SurveyError}
    (h : isFatal e = false) : LateOnly start limit e := by
  rintro text rfl
  cases h

/-- A search that is not caught is lost to a limit that the clock cannot tell. -/
theorem loses_of_bisectionData {info : PackageInfo} {w after : W} {e : SurveyError}
    (h : (b.bisectionData info).exec w = (.error e, after)) : b.Loses info w (.ofSurvey e) := by
  by_cases hsearches : ∃ url, b.Searches info url
  · obtain ⟨url, hurl⟩ := hsearches
    rw [exec_bisectionData hurl] at h
    rcases hresult : (b.searchRepository url).exec w with ⟨e' | data, found⟩ <;> rw [hresult] at h
    · have hfatal : isFatal e' = true ∧ e' = e := by
        cases hfatal : isFatal e' <;> simp_all
      obtain ⟨hfatal, rfl⟩ := hfatal
      obtain ⟨text, rfl⟩ : ∃ text, e' = .deadlineOutOfRange text := by
        cases e' <;> first | exact ⟨_, rfl⟩ | cases hfatal
      refine .intro hurl fun builtIn => ?_
      have hsearch := searchRepository_fails builtIn (fun _ he => lateOnly_of_ordinary he)
        (takesIn_lateOnly w b.bisection.toolTimeout) url
      exact (hsearch w .here).2 _ (congrArg Prod.fst hresult) text rfl
    · cases h
  · rw [exec_bisectionData_of_not_searches (not_exists.1 hsearches)] at h
    cases h

/-! ## The package -/

/-- A package in which something was detected has its record, or it is lost. -/
theorem process_concludes {info : PackageInfo} {w before : W} {a : Artifacts} {found : ResultRecord}
    (h : b.Detects info w a found before) :
    (∃ record after, (b.process info).exec w = (.ok record, after) ∧
      b.Emits info a found before record after) ∨
    ∃ e after, (b.process info).exec w = (.error e, after) ∧ b.Loses info before e := by
  obtain ⟨hfetch, hdetect⟩ := h
  rw [process, Attempt.exec_bind_ok hfetch, Attempt.exec_bind_ok hdetect]
  rcases hdata : (b.bisectionData info).exec before with ⟨e | data?, after⟩
  · have htask : (b.bisectionData info).toTask.exec before = (.error (.ofSurvey e), after) := by
      rw [Job.toTask, Attempt.exec_mapFailure, hdata]
      rfl
    exact .inr ⟨_, after, Attempt.exec_bind_error htask, loses_of_bisectionData hdata⟩
  · have htask : (b.bisectionData info).toTask.exec before = (.ok data?, after) := by
      rw [Job.toTask, Attempt.exec_mapFailure, hdata]
      rfl
    obtain ⟨hpresent, hspec⟩ := bisectionData_spec hdata
    refine .inl ⟨_, after, Attempt.exec_bind_ok htask, ?_⟩
    exact {
      package := rfl
      detected := rfl
      creationDate := rfl
      present := hpresent
      data := hspec
      untouched := fun hnot => by
        rw [exec_bisectionData_of_not_searches hnot] at hdata
        exact (congrArg Prod.snd hdata).symm }

/-- With a limit that the clock can never tell, a clone that starts is the end of the record. -/
theorem process_lost {info : PackageInfo} {url : String} {w before : W} {a : Artifacts}
    {found : ResultRecord} (h : b.Detects info w a found before) (hurl : b.Searches info url)
    (beyond : Timeout.clockRange ≤ b.bisection.toolTimeout.toNat)
    (started : (Host.run (WorkTree.cloneCommand b.git url b.layout.gitDir) b.gitTimeout
      before).1.WasStarted) :
    ((b.process info).exec w).1 = .error (.ofSurvey (.deadlineOutOfRange
      (WorkTree.cloneCommand b.git url b.layout.gitDir).describe)) := by
  obtain ⟨hfetch, hdetect⟩ := h
  rw [process, Attempt.exec_bind_ok hfetch, Attempt.exec_bind_ok hdetect]
  let command := WorkTree.cloneCommand b.git url b.layout.gitDir
  have hrun : (Tool.run command b.gitTimeout : Job W ToolOutput).exec before =
      (.error (.deadlineOutOfRange command.describe), (Host.run command b.gitTimeout before).2) :=
    Prod.ext ((Tool.judge_late_iff _ _ _ _).2 ⟨started, by omega⟩) rfl
  have hclone : (WorkTree.clone b.git url b.layout.gitDir b.gitTimeout : Job W WorkTree).exec
      before = (.error (.deadlineOutOfRange command.describe),
        (Host.run command b.gitTimeout before).2) :=
    Attempt.exec_bind_error (Attempt.exec_bind_error hrun)
  have htask : (b.bisectionData info).toTask.exec before =
      (.error (.ofSurvey (.deadlineOutOfRange command.describe)),
        (Host.run command b.gitTimeout before).2) := by
    rw [Job.toTask, Attempt.exec_mapFailure, exec_bisectionData hurl, searchRepository,
      Attempt.exec_bind_error hclone]
    rfl
  rw [Attempt.exec_bind_error htask]

/-! ## The batch -/

/-- Every turn is the processing of its package in a world of its own. -/
theorem Turns.exists_leads {w last : W} {turns : List (Turn W)} (h : b.Turns w turns last)
    {turn : Turn W} (hturn : turn ∈ turns) : ∃ before after, turn.Leads b before after := by
  induction h with
  | none => cases hturn
  | turn hleads _ ih =>
    rcases List.mem_cons.1 hturn with rfl | hrest
    · exact ⟨_, _, hleads⟩
    · exact ih hrest

/-- **A batch gives a record to every package that had its turn and in which something could be
detected**, with the data that the search of its repository gives.

A package in which something was detected ends the batch only if its record is lost to a limit that
the clock cannot tell, in the search of its repository. With a limit that is beyond the clock's
range by itself, it is lost as soon as the clone can be started. -/
theorem run_records (packages : List PackageInfo) (w : W) :
    (∃ turns last, b.Turns w turns last ∧
      b.Ends b.options.count (packages.drop b.options.startOffset) turns last
        ((b.run packages).exec w) ∧
      (∀ turn ∈ turns, ∀ a found before, b.Detects turn.package turn.fresh a found before →
        ∃ record after, record ∈ Turn.records turns ∧
          (b.process turn.package).exec turn.fresh = (.ok record, after) ∧
          b.Emits turn.package a found before record after) ∧
      (∀ next e v,
        b.Halts b.options.count (packages.drop b.options.startOffset) turns last next e v →
        ∀ fresh a found before, b.layout.reset.exec last = (.ok (), fresh) →
          b.Detects next fresh a found before → b.Loses next before e)) ∧
    (Timeout.clockRange ≤ b.bisection.toolTimeout.toNat →
      ∀ info url fresh a found before, b.Detects info fresh a found before → b.Searches info url →
        (Host.run (WorkTree.cloneCommand b.git url b.layout.gitDir) b.gitTimeout
          before).1.WasStarted →
        ((b.process info).exec fresh).1 = .error (.ofSurvey (.deadlineOutOfRange
          (WorkTree.cloneCommand b.git url b.layout.gitDir).describe))) := by
  refine ⟨?_, fun beyond info url fresh a found before hdetects hurl started =>
    process_lost hdetects hurl beyond started⟩
  obtain ⟨turns, last, hturns, hends⟩ := processAll_turns (b := b) b.options.count
    (packages.drop b.options.startOffset) w
  refine ⟨turns, last, hturns, hends, ?_, ?_⟩
  · intro turn hturn a found before hdetects
    obtain ⟨start, done, hleads⟩ := hturns.exists_leads hturn
    rcases process_concludes hdetects with
      ⟨record, after, hprocess, hemits⟩ | ⟨e, after, hprocess, hloses⟩
    · refine ⟨record, after, List.mem_filterMap.2 ⟨turn, hturn, ?_⟩, hprocess, hemits⟩
      rw [← hleads.process, hprocess]
      rfl
    · -- what is lost ends the batch, so it has no turn
      obtain ⟨_, _⟩ := hloses
      cases hleads.ordinary _ (hleads.process.symm.trans (congrArg Prod.fst hprocess))
  · intro next e v hhalts fresh a found before hreset hdetects
    obtain ⟨fresh', hreset', hfailed⟩ := hhalts.process
    obtain rfl : fresh = fresh' := congrArg Prod.snd (hreset.symm.trans hreset')
    rcases process_concludes hdetects with
      ⟨record, after, hprocess, -⟩ | ⟨e', after, hprocess, hloses⟩
    · cases hprocess.symm.trans hfailed
    · cases hprocess.symm.trans hfailed
      exact hloses

/-- A repository of two commits; the second one has the casts. -/
def castsGit (l : Layout) : List String → Scratch l → ToolRun × Scratch l
  | ["clone", _, _, dest], s => (printed "", s.fill dest ["main.cpp", "casts.cpp"])
  | "-C" :: dir :: arguments, s =>
    match arguments with
    | ["rev-parse", _, _, revision] =>
      (printed (if revision = "c1^\x7bcommit\x7d" then "c1\n" else "c2\n"), s)
    | ["symbolic-ref", _, _, _] => (printed "main\n", s)
    | ["rev-list", _, "--max-parents=0", _] => (printed "c1\n", s)
    | ["rev-list", _, "--reverse", _] => (printed "c2\n", s)
    | ["log", _, _, _, commit] =>
      (printed (if commit = "c1" then "2019-03-01\n" else "2020-11-30\n"), s)
    | ["checkout", _, _, "c1"] => (printed "", s.fill dir ["main.cpp"])
    | ["checkout", _, _, _] => (printed "", s.fill dir ["main.cpp", "casts.cpp"])
    | _ => (printed "", s)
  | _, s => (.notStarted .notFound, s)
where
  printed (stdout : String) : ToolRun := .exited ⟨some 0, stdout, ""⟩

/-- Searching for one kind of cast fails. -/
def castsTool (l : Layout) : ScratchTool l := fun command s =>
  if command.program = "git" then castsGit l command.arguments s
  else if command.program = "fetch" then (.exited ⟨some 0, "", ""⟩, s)
  else if "const_cast<.+>" ∈ command.arguments then (.exited ⟨some 2, "", "bad pattern"⟩, s)
  else if s.names? l.gitDir = some ["main.cpp"] then (.exited ⟨some 1, "", ""⟩, s)
  else (.exited ⟨some 0, "casts.cpp: static_cast<int>\n", ""⟩, s)

def casts : Batch (ScratchHost ⟨"scratch"⟩ (castsTool ⟨"scratch"⟩)) where
  configs := ⟨{}, {}, {}, {}⟩
  bisection :=
    { featuresSelected := ["const_cast", "static_cast"]
      detectors := [{ name := "casts", kind := "named-cast",
                      features := ["const_cast", "static_cast"] }] }
  kinds := BuiltIn.registry
  layout := ⟨"scratch"⟩
  provider := ScratchHost.provider
  git := "git"

def castsPackage : PackageInfo where
  name := "casts"
  rank := 1
  source := "casts"
  version := "1"
  repository := some "https://example.org/casts.git"

theorem run_records_casts :
    (∃ turns last, casts.Turns {} turns last ∧
      casts.Ends none [castsPackage] turns last ((casts.run [castsPackage]).exec {}) ∧
      (∀ turn ∈ turns, ∀ a found before, casts.Detects turn.package turn.fresh a found before →
        ∃ record after, record ∈ Turn.records turns ∧
          (casts.process turn.package).exec turn.fresh = (.ok record, after) ∧
          casts.Emits turn.package a found before record after) ∧
      (∀ next e v, casts.Halts none [castsPackage] turns last next e v →
        ∀ fresh a found before, casts.layout.reset.exec last = (.ok (), fresh) →
          casts.Detects next fresh a found before → casts.Loses next before e)) ∧
    ((casts.run [castsPackage]).exec {}).1.toOption.map
        (·.map fun record => record.bisection.map
          fun data => (data.creation, data.features.entries)) =
      some [some ("2019-03-01", [("static_cast", ⟨"c2", "2020-11-30"⟩)])] :=
  ⟨(run_records (b := casts) [castsPackage] {}).1, by decide +kernel⟩

/-- The same batch, with the greatest limit that can be written down. -/
def patientCasts : Batch (ScratchHost ⟨"scratch"⟩ (castsTool ⟨"scratch"⟩)) :=
  { casts with bisection := { casts.bisection with toolTimeout := 18446744073709551615 } }

/-- The limit is accepted. The package can be fetched, its detection succeeds, and the batch ends
with no record at all. -/
theorem run_without_records :
    patientCasts.bisection.validate = .ok () ∧
      (∃ fresh a found before, patientCasts.layout.reset.exec {} = (.ok (), fresh) ∧
        patientCasts.Detects castsPackage fresh a found before) ∧
      ((patientCasts.run [castsPackage]).exec {}).1 =
        .error (.ofSurvey (.deadlineOutOfRange
          "git clone --quiet https://example.org/casts.git scratch/git_bisection_repo")) := by
  refine ⟨by decide, ?_, rfl⟩
  exact ⟨_, _, _, _, rfl, .intro rfl rfl⟩

end Batch

end FeatureSurvey
