import FeatureSurvey.Detector.SourcePattern
import FeatureSurvey.Git.WorkTree
import FeatureSurvey.Proofs.Text.Plain

/-!
# `Proofs/Tool/Arguments.lean` — what a tool takes an argument for

Tools read their arguments from left to right. One that begins with a dash is an option, unless it
is the value of the option before it or stands behind the mark `--`; every other one is an operand.
In that tools are alike. They differ in which options take the argument behind them as a value, and
so that is all an `ArgumentReader` says.

Who builds a command line has to know what a text of somebody else's will be taken for. Where the
tool awaits anything, **a text is taken for an operand just when it has no dash in front**
(`ArgumentReader.takesOperand_iff`), and the rest of this file shows that at the places where texts
of others are put the tool does await anything. Of the tools it is only assumed that they know the
options that are written here, as their manuals have them (`ReadsAsGit`, `ReadsAsGrep`).
-/

set_option autoImplicit false

namespace FeatureSurvey

/-- The text has a dash in front. -/
def isDashed (text : String) : Bool := Text.startsWith text "-"

theorem isDashed_eq (text : String) : isDashed text = (text.toList.head? == some '-') := by
  rw [isDashed, Text.startsWith]
  show ['-'].isPrefixOf text.toList = _
  cases text.toList with
  | nil => rfl
  | cons c cs => simp [List.isPrefixOf, Bool.beq_comm]

theorem isDashed_append {text behind : String} (h : isDashed behind = false) :
    isDashed (text ++ behind) = isDashed text := by
  rw [isDashed_eq] at h ⊢
  rw [isDashed_eq, String.toList_append]
  cases text.toList with
  | nil => simpa using h
  | cons c cs => rfl

theorem not_isDashed_of_isPlain {text : String} (h : Text.IsPlain text) :
    isDashed text = false := by
  obtain ⟨c, cs, hcs⟩ := List.exists_cons_of_ne_nil h.ne_nil
  have hdash : '-' ∉ c :: cs := hcs ▸ h.not_mem rfl
  rw [isDashed_eq, hcs]
  simp [Ne.symm (List.ne_of_not_mem_cons hdash)]

/-- What a tool takes an argument for. -/
inductive Role where
  | option
  /-- The value of the option before it. -/
  | value
  /-- What ends the options. -/
  | mark
  | operand
  deriving DecidableEq, Repr

/-- What a tool awaits next. -/
inductive Awaiting where
  | anything | value | operands
  deriving DecidableEq, Repr

def Awaiting.role : Awaiting → String → Role
  | .value, _ => .value
  | .operands, _ => .operand
  | .anything, argument =>
    if argument = "--" then .mark
    else if isDashed argument then .option
    else .operand

/-- A tool as a reader of arguments: which of its options take the next argument as their value. -/
structure ArgumentReader where
  takesValue : String → Bool

namespace ArgumentReader

variable (r : ArgumentReader)

def next : Awaiting → String → Awaiting
  | .value, _ => .anything
  | .operands, _ => .operands
  | .anything, argument =>
    if argument = "--" then .operands
    else if isDashed argument && r.takesValue argument then .value
    else .anything

def rolesFrom : Awaiting → List String → List Role
  | _, [] => []
  | awaiting, argument :: rest =>
    awaiting.role argument :: rolesFrom (r.next awaiting argument) rest

/-- What each argument is taken for. -/
def roles (arguments : List String) : List Role := r.rolesFrom .anything arguments

/-- What the tool awaits behind some arguments. -/
def awaits (front : List String) : Awaiting := front.foldl r.next .anything

/-- The text is the argument at a place, and the tool takes it for an operand. -/
def TakesOperand (arguments : List String) (place : Nat) (text : String) : Prop :=
  arguments[place]? = some text ∧ (r.roles arguments)[place]? = some .operand

/-- The same, and it is the first operand. -/
def TakesFirstOperand (arguments : List String) (place : Nat) (text : String) : Prop :=
  r.TakesOperand arguments place text ∧
    ∀ before < place, (r.roles arguments)[before]? ≠ some .operand

/-! ## Reading behind other arguments -/

theorem length_rolesFrom (awaiting : Awaiting) (arguments : List String) :
    (r.rolesFrom awaiting arguments).length = arguments.length := by
  induction arguments generalizing awaiting with
  | nil => rfl
  | cons argument rest ih => simp [rolesFrom, ih]

theorem rolesFrom_append (awaiting : Awaiting) (front rest : List String) :
    r.rolesFrom awaiting (front ++ rest) =
      r.rolesFrom awaiting front ++ r.rolesFrom (front.foldl r.next awaiting) rest := by
  induction front generalizing awaiting with
  | nil => rfl
  | cons argument front ih => simp [rolesFrom, ih]

theorem awaits_append (front rest : List String) :
    r.awaits (front ++ rest) = rest.foldl r.next (r.awaits front) := List.foldl_append

variable {r} {front : List String} {text : String}

theorem roles_behind (behind : List String) :
    (r.roles (front ++ text :: behind))[front.length]? = some ((r.awaits front).role text) := by
  have hlength := length_rolesFrom r .anything front
  rw [roles, rolesFrom_append, List.getElem?_append_right (Nat.le_of_eq hlength), hlength,
    Nat.sub_self]
  rfl

theorem role_eq_operand_iff : Awaiting.anything.role text = .operand ↔ isDashed text = false := by
  by_cases hmark : text = "--"
  · subst hmark
    decide
  · cases hdash : isDashed text <;> simp [Awaiting.role, hmark, hdash]

/-- **Where anything is awaited, a text is taken for an operand if it has no dash in front.** -/
theorem takesOperand_iff (h : r.awaits front = .anything) (behind : List String) :
    r.TakesOperand (front ++ text :: behind) front.length text ↔ isDashed text = false := by
  rw [TakesOperand, roles_behind, h, Option.some.injEq, role_eq_operand_iff]
  simp

/-- Options with their values, and nothing else. -/
structure OnlyOptions (r : ArgumentReader) (words : List String) : Prop where
  awaits : r.awaits words = .anything
  operand : .operand ∉ r.roles words

theorem OnlyOptions.append {words : List String} (h : r.OnlyOptions front)
    (h' : r.OnlyOptions words) : r.OnlyOptions (front ++ words) where
  awaits := by
    rw [awaits_append, h.awaits]
    exact h'.awaits
  operand := by
    rw [roles, rolesFrom_append, List.mem_append, not_or]
    refine ⟨h.operand, ?_⟩
    have hawaits : front.foldl r.next .anything = .anything := h.awaits
    rw [hawaits]
    exact h'.operand

/-- Behind options alone, it is the first operand. -/
theorem takesFirstOperand_iff (h : r.OnlyOptions front) (behind : List String) :
    r.TakesFirstOperand (front ++ text :: behind) front.length text ↔ isDashed text = false := by
  rw [TakesFirstOperand, takesOperand_iff h.awaits, and_iff_left_iff_imp]
  intro _ before hbefore heq
  -- what stands before it is read as it would be on its own
  rw [roles, rolesFrom_append, List.getElem?_append_left (by rwa [length_rolesFrom])] at heq
  exact h.operand (List.mem_of_getElem? heq)

/-! ## Words that leave the tool awaiting anything -/

/-- A word without a dash, or an option without a value. -/
def Passes (r : ArgumentReader) (word : String) : Prop :=
  word ≠ "--" ∧ (isDashed word = true → r.takesValue word = false)

theorem next_of_passes {word : String} (h : r.Passes word) :
    r.next .anything word = .anything := by
  cases hdash : isDashed word with
  | false => simp [next, h.1, hdash]
  | true => simp [next, h.1, h.2 hdash]

theorem foldl_of_passes {words : List String} (h : ∀ word ∈ words, r.Passes word) :
    words.foldl r.next .anything = .anything := by
  induction words with
  | nil => rfl
  | cons word words ih =>
    rw [List.foldl_cons, next_of_passes (h word List.mem_cons_self)]
    exact ih fun word hword => h word (List.mem_cons_of_mem _ hword)

end ArgumentReader

/-! ## Commands on working trees -/

namespace ArgumentReader

/-- The options of `git` that are written here and take no value. -/
def gitSwitches : List String :=
  ["--quiet", "--verify", "--first-parent", "--max-parents=0", "--is-ancestor"]

/-- What the manual of `git` says of the options that are written here. -/
structure ReadsAsGit (r : ArgumentReader) : Prop where
  directory : r.takesValue "-C" = true
  switches : ∀ switch ∈ gitSwitches, r.takesValue switch = false

/-- What the manual of `grep` says of the options that are written here. -/
structure ReadsAsGrep (r : ArgumentReader) : Prop where
  globs : r.takesValue "--include" = true
  switches : ∀ switch ∈ ["-i", "-r", "-E"], r.takesValue switch = false

/-- A reader by the list of its options that take a value. -/
def ofValued (valued : List String) : ArgumentReader := ⟨fun option => valued.contains option⟩

/-- `git`, with the options of a clone. -/
def git : ArgumentReader :=
  ofValued ["-C", "-c", "-b", "-o", "-u", "-j", "--branch", "--depth", "--origin", "--reference",
    "--upload-pack", "--template", "--config"]

def grep : ArgumentReader :=
  ofValued ["-e", "-f", "-m", "-A", "-B", "-C", "-d", "-D", "--regexp", "--file", "--max-count",
    "--include", "--exclude", "--exclude-dir", "--exclude-from"]

theorem git_readsAsGit : git.ReadsAsGit where
  directory := by decide
  switches := by decide

theorem grep_readsAsGrep : grep.ReadsAsGrep where
  globs := by decide
  switches := by decide

namespace ReadsAsGit

variable {r : ArgumentReader} (h : r.ReadsAsGit)

include h

theorem passes {word : String} (hword : isDashed word = false ∨ word ∈ gitSwitches) :
    r.Passes word := by
  rcases hword with hplain | hswitch
  · refine ⟨?_, fun hdash => ?_⟩
    · rintro rfl
      revert hplain
      decide
    · rw [hplain] at hdash
      cases hdash
  · refine ⟨?_, fun _ => h.switches word hswitch⟩
    rintro rfl
    revert hswitch
    decide

/-- Behind words of our own, anything is awaited. -/
theorem awaits_words {words : List String}
    (hwords : ∀ word ∈ words, isDashed word = false ∨ word ∈ gitSwitches) :
    r.awaits words = .anything :=
  foldl_of_passes fun word hword => h.passes (hwords word hword)

/-- The directory of a tree is a value, whatever it looks like. -/
theorem awaits_command {root : String} {words : List String}
    (hwords : ∀ word ∈ words, isDashed word = false ∨ word ∈ gitSwitches) :
    r.awaits ("-C" :: root :: words) = .anything := by
  have hdirectory : r.next .anything "-C" = .value := by
    have hdash : isDashed "-C" = true := by decide
    simp [next, hdash, h.directory]
  rw [awaits, List.foldl_cons, List.foldl_cons, hdirectory]
  exact h.awaits_words hwords

end ReadsAsGit

namespace ReadsAsGrep

variable {r : ArgumentReader} (h : r.ReadsAsGrep)

include h

theorem onlyOptions_switch {switch : String} (hswitch : switch ∈ ["-i", "-r", "-E"]) :
    r.OnlyOptions [switch] := by
  have hpasses : r.Passes switch := by
    refine ⟨?_, fun _ => h.switches switch hswitch⟩
    rintro rfl
    revert hswitch
    decide
  have hrole : Awaiting.anything.role switch ≠ .operand := by
    rw [Ne, role_eq_operand_iff, Bool.not_eq_false]
    clear hpasses
    revert switch
    decide
  exact ⟨next_of_passes hpasses, by simpa [roles, rolesFrom] using Ne.symm hrole⟩

/-- A glob is a value, whatever it looks like. -/
theorem onlyOptions_glob (glob : String) : r.OnlyOptions ["--include", glob] := by
  have hdash : isDashed "--include" = true := by decide
  have hvalue : r.next .anything "--include" = .value := by
    simp [next, hdash, h.globs]
  constructor
  · rw [awaits, List.foldl_cons, hvalue]
    rfl
  · simp [roles, rolesFrom, hvalue, hdash, Awaiting.role]

theorem onlyOptions_globs (globs : List String) :
    r.OnlyOptions (globs.flatMap fun glob => ["--include", glob]) := by
  induction globs with
  | nil => exact ⟨rfl, by simp [roles, rolesFrom]⟩
  | cons glob globs ih =>
    rw [List.flatMap_cons]
    exact (h.onlyOptions_glob glob).append ih

end ReadsAsGrep

end ArgumentReader

/-! ## Searches -/

/-- What stands in front of the pattern. -/
def SourcePatternDetector.front (d : SourcePatternDetector) : List String :=
  ["-i"] ++ ["-r"] ++ (d.includes.flatMap fun glob => ["--include", glob]) ++ ["-E"]

theorem SourcePatternDetector.length_front (d : SourcePatternDetector) :
    d.front.length = 3 + 2 * d.includes.length := by
  have hglobs (globs : List String) :
      (globs.flatMap fun glob => ["--include", glob]).length = 2 * globs.length := by
    induction globs with
    | nil => rfl
    | cons glob globs ih =>
      rw [List.flatMap_cons, List.length_append, ih]
      simp only [List.length_cons, List.length_nil]
      omega
  simp only [front, List.length_append, List.length_cons, List.length_nil, hglobs]
  omega

theorem SourcePatternDetector.arguments_command (d : SourcePatternDetector) (pattern : String) :
    (d.command pattern).arguments = d.front ++ pattern :: [d.sourceDir] := by
  simp [command, front]

theorem ArgumentReader.ReadsAsGrep.onlyOptions_front {r : ArgumentReader} (h : r.ReadsAsGrep)
    (d : SourcePatternDetector) : r.OnlyOptions d.front :=
  (((h.onlyOptions_switch (by simp)).append (h.onlyOptions_switch (by simp))).append
    (h.onlyOptions_globs d.includes)).append (h.onlyOptions_switch (by simp))

/-- The pattern is read as the pattern if it has no dash in front. -/
theorem ArgumentReader.ReadsAsGrep.takesPattern_iff {r : ArgumentReader} (h : r.ReadsAsGrep)
    (d : SourcePatternDetector) (pattern : String) :
    r.TakesFirstOperand (d.command pattern).arguments (3 + 2 * d.includes.length) pattern ↔
      isDashed pattern = false := by
  rw [d.arguments_command, ← d.length_front]
  exact takesFirstOperand_iff (h.onlyOptions_front d) [d.sourceDir]

end FeatureSurvey
