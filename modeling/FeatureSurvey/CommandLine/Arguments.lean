import FeatureSurvey.CommandLine.Commands

/-!
# `CommandLine/Arguments.lean` — reading the arguments

Options are written `--name value` or `--name=value`, switches `--name` or by one letter behind a
hyphen, where several letters may stand together. Behind `--` everything is a plain argument, and
so is a hyphen alone. The word after an option is its value unless it begins with a hyphen. An
option that does not collect values may be given once.

Arguments are read from left to right, so that a request for the version is answered even when
what follows it is wrong.
-/

set_option autoImplicit false

namespace FeatureSurvey.CommandLine

/-- What an option takes. -/
inductive Takes where
  | nothing
  | text
  | path
  | number
  deriving DecidableEq, Repr

structure OptionSpec where
  name : String
  letter : Option Char := none
  takes : Takes
  /-- May it be given more than once? -/
  collects : Bool := false

/-- A wrong use of the command line. -/
inductive UsageError where
  | unknownArgument (argument : String)
  | missingValue (option : String)
  | unexpectedValue (option : String)
  | badValue (option value : String)
  | repeated (option : String)
  | missingArgument (option : String)
  | noCommand
  deriving DecidableEq, Repr

/-- What was given, in order: options with their values, and plain arguments. -/
structure Given where
  options : List (String × String) := []
  plain : List String := []

namespace Given

def has (g : Given) (name : String) : Bool := g.options.any fun o => o.1 == name

def value? (g : Given) (name : String) : Option String := g.options.lookup name

def values (g : Given) (name : String) : List String :=
  (g.options.filter fun o => o.1 == name).map (·.2)

end Given

/-- A number that an unsigned 64-bit word holds, with or without a plus sign. -/
def number? (s : String) : Option Nat :=
  let digits :=
    match s.toList with
    | '+' :: rest => rest
    | cs => cs
  if digits.isEmpty || !digits.all Char.isDigit then none
  else
    let n := digits.foldl (fun n c => n * 10 + (c.toNat - '0'.toNat)) 0
    if n ≤ maxWord then some n else none

/-- Can the option take this value? -/
def OptionSpec.accepts (o : OptionSpec) (value : String) : Bool :=
  match o.takes with
  | .nothing => false
  | .text => true
  | .path => !value.isEmpty
  | .number => (number? value).isSome

/-- Take in an option that was given. -/
def Given.add (g : Given) (o : OptionSpec) (value : String) : Except UsageError Given :=
  if g.has o.name && !o.collects then .error (.repeated o.name)
  else .ok { g with options := g.options ++ [(o.name, value)] }

def Given.addValue (g : Given) (o : OptionSpec) (value : String) : Except UsageError Given :=
  if o.accepts value then g.add o value else .error (.badValue o.name value)

/-- Does a word begin like an option? -/
def looksLikeOption (word : String) : Bool := Text.startsWith word "-" && word != "-"

/-- The switches that stand together behind a hyphen. -/
def addLetters (specs : List OptionSpec) (g : Given) : List Char → Except UsageError Given
  | [] => .ok g
  | c :: rest =>
    match specs.find? fun o => o.letter == some c with
    | none => .error (.unknownArgument (String.ofList [c]))
    | some o => do addLetters specs (← g.add o "") rest

/-- Read one word that stands alone: an option with its value attached, or switches. -/
def addAttached (specs : List OptionSpec) (g : Given) (word : String) :
    Except UsageError Given :=
  match Text.stripStart? word "--" with
  | some body =>
    match Text.splitOnce? body '=' with
    | some (name, value) =>
      match specs.find? fun o => o.name == name with
      | none => .error (.unknownArgument word)
      | some o => if o.takes = .nothing then .error (.unexpectedValue name) else g.addValue o value
    | none =>
      match specs.find? fun o => o.name == body with
      | none => .error (.unknownArgument word)
      | some o => if o.takes = .nothing then g.add o "" else .error (.missingValue body)
  | none => addLetters specs g (word.toList.drop 1)

/-- The option of a word, if it takes its value from the next word. -/
def valueOption? (specs : List OptionSpec) (word : String) : Option OptionSpec := do
  let name ← Text.stripStart? word "--"
  specs.find? fun o => o.name == name && o.takes != .nothing

/-- Read words up to the first that is no option, or all of them if `stops` is not set; `waiting`
is the option whose value comes next. Gives back the words left. -/
def readWords (specs : List OptionSpec) (stops : Bool) (done : Given → Bool)
    (waiting : Option OptionSpec) (g : Given) :
    List String → Except UsageError (Given × List String)
  | [] =>
    match waiting with
    | some o => .error (.missingValue o.name)
    | none => .ok (g, [])
  | word :: rest =>
    match waiting with
    | some o =>
      if looksLikeOption word then .error (.missingValue o.name)
      else
        match g.addValue o word with
        | .ok g => readWords specs stops done none g rest
        | .error e => .error e
    | none =>
      if done g then .ok (g, word :: rest)
      else if word == "--" then .ok ({ g with plain := g.plain ++ rest }, [])
      else if looksLikeOption word then
        match valueOption? specs word with
        | some o => readWords specs stops done (some o) g rest
        | none =>
          match addAttached specs g word with
          | .ok g => readWords specs stops done none g rest
          | .error e => .error e
      else if stops then .ok (g, word :: rest)
      else readWords specs stops done none { g with plain := g.plain ++ [word] } rest

/-! ## The commands -/

inductive Request where
  | version
  | help
  | detect (arguments : DetectArguments)
  | bisect (arguments : BisectArguments)
  | batch (arguments : BatchArguments)
  | kinds (json : Bool)
  deriving DecidableEq, Repr

def verboseOption : OptionSpec := ⟨"verbose", some 'v', .nothing, true⟩
def helpOption : OptionSpec := ⟨"help", some 'h', .nothing, true⟩
def versionOption : OptionSpec := ⟨"version", some 'V', .nothing, true⟩

def detectOptions : List OptionSpec :=
  [⟨"config", none, .path, false⟩, ⟨"binary-dir", none, .path, false⟩,
    ⟨"binary-name", none, .text, false⟩, ⟨"source-dir", none, .path, false⟩,
    ⟨"build-log", none, .path, false⟩, ⟨"feature", none, .text, true⟩]

def bisectOptions : List OptionSpec :=
  [⟨"config", none, .path, false⟩, ⟨"repo", none, .path, false⟩, ⟨"feature", none, .text, false⟩,
    ⟨"old", none, .text, false⟩, ⟨"new", none, .text, false⟩, ⟨"branch", none, .text, false⟩]

def batchOptions : List OptionSpec :=
  [⟨"settings", none, .path, false⟩, ⟨"out", none, .path, false⟩,
    ⟨"start-offset", none, .number, false⟩, ⟨"count", none, .number, false⟩,
    ⟨"no-bisect", none, .nothing, false⟩]

def kindsOptions : List OptionSpec := [⟨"json", none, .nothing, false⟩]

/-- A value that has to be given. -/
def Given.required (g : Given) (name : String) : Except UsageError String :=
  match g.value? name with
  | some value => .ok value
  | none => .error (.missingArgument name)

def Given.noPlain (g : Given) : Except UsageError Unit :=
  match g.plain with
  | [] => .ok ()
  | word :: _ => .error (.unknownArgument word)

def detectRequest (g : Given) : Except UsageError Request := do
  g.noPlain
  let config ← g.required "config"
  let binaryDir := g.value? "binary-dir"
  let binaryName := g.value? "binary-name"
  let sourceDir := g.value? "source-dir"
  let buildLog := g.value? "build-log"
  if binaryDir.isNone && sourceDir.isNone && buildLog.isNone then
    throw (.missingArgument "location")
  if binaryDir.isSome && binaryName.isNone then throw (.missingArgument "binary-name")
  if binaryName.isSome && binaryDir.isNone then throw (.missingArgument "binary-dir")
  return .detect
    { config, binaryDir, binaryName, sourceDir, buildLog, features := g.values "feature" }

def bisectRequest (g : Given) : Except UsageError Request := do
  g.noPlain
  return .bisect {
    config := ← g.required "config"
    repository := ← g.required "repo"
    feature := ← g.required "feature"
    old := g.value? "old"
    new := g.value? "new"
    branch := g.value? "branch" }

def batchRequest (g : Given) : Except UsageError Request := do
  match g.plain with
  | [] => throw (.missingArgument "package-infos")
  | [packages] =>
    if packages.isEmpty then throw (.badValue "package-infos" packages)
    return .batch {
      packages
      settings := ← g.required "settings"
      out := (g.value? "out").getD Batch.defaultOutput
      options := {
        startOffset := ((g.value? "start-offset").bind number?).getD 0
        count := (g.value? "count").bind number?
        skipBisect := g.has "no-bisect" } }
  | _ :: word :: _ => throw (.unknownArgument word)

def kindsRequest (g : Given) : Except UsageError Request := do
  g.noPlain
  return .kinds (g.has "json")

/-- The options of a command and how its request is made of them. -/
def command? (name : String) : Option (List OptionSpec × (Given → Except UsageError Request)) :=
  if name == "detect" then some (detectOptions, detectRequest)
  else if name == "bisect" then some (bisectOptions, bisectRequest)
  else if name == "harness" then some (batchOptions, batchRequest)
  else if name == "kinds" then some (kindsOptions, kindsRequest)
  else none

/-- Read the words behind a command. -/
def parseCommand (name : String) (words : List String) : Except UsageError Request :=
  match command? name with
  | none => .error (.unknownArgument name)
  | some (options, request) => do
    let specs := verboseOption :: helpOption :: options
    let (g, _) ← readWords specs false (fun g => g.has "help") none {} words
    if g.has "help" then return .help else request g

def parse (words : List String) : Except UsageError Request := do
  let specs := [verboseOption, helpOption, versionOption]
  let answered (g : Given) : Bool := g.has "help" || g.has "version"
  let (g, rest) ← readWords specs true answered none {} words
  if g.has "version" then return .version
  if g.has "help" then return .help
  g.noPlain
  match rest with
  | [] => throw .noCommand
  | name :: rest =>
    if name == "help" then
      match rest with
      | [] => return .help
      | [command] =>
        if command == "help" || (command? command).isSome then return .help
        throw (.unknownArgument command)
      | _ :: word :: _ => throw (.unknownArgument word)
    parseCommand name rest

end FeatureSurvey.CommandLine
