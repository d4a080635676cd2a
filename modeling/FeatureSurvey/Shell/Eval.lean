import FeatureSurvey.Shell.Arithmetic
import FeatureSurvey.Shell.Fields
import FeatureSurvey.Shell.Machine
import FeatureSurvey.Shell.Reader
import FeatureSurvey.Utility.Find
import FeatureSurvey.Utility.Named

/-!
# `Shell/Eval.lean` — running scripts

The evaluator goes through a script and changes the machine. Words are expanded first, then
redirections are opened, then the command runs: a function, a step that only the shell itself can
take, or a program that is looked for in the directories of `PATH`. A program is one of the
system, or a file that is a script.

The steps of the evaluator call one another without an end that could be told beforehand, so they
are bounded by a number. A script that uses it up is taken for one that never ends, and overruns.
-/

set_option autoImplicit false

namespace FeatureSurvey.Shell

open Sandbox

/-! ## Looking for programs -/

/-- What a word names: an entry that can be run, and the path to it. -/
def lookUp (t : Tree) (here : Place) (searched word : String) : Except OsError (String × Entry) :=
  let runnable (path : String) : Except OsError (String × Entry) :=
    match t.find here (Bytes.toText path) with
    | .ok (_, .program name) => .ok (path, .program name)
    | .ok (_, .file bytes true) => .ok (path, .file bytes true)
    | .ok _ => .error .accessDenied
    | .error e => .error e
  if word.isEmpty then .error .notFound
  else if word.contains '/' then runnable word
  else
    let tries := (searched.splitOn ":").map fun dir =>
      runnable (Path.join (if dir.isEmpty then "." else dir) word)
    match tries.findSome? Except.toOption with
    | some found => .ok found
    | none =>
      let denied := tries.any fun
        | .error .accessDenied => true
        | _ => false
      .error (if denied then .accessDenied else .notFound)

/-- The interpreter that the first line of a file names, and the argument it gets. -/
def interpreter? (bytes : String) : Option (String × List String) :=
  match bytes.toList with
  | '#' :: '!' :: rest =>
    let isBlank (c : Char) : Bool := c == ' ' || c == '\t'
    let line := (rest.takeWhile fun c => c != '\n').dropWhile isBlank
    let name := line.takeWhile fun c => !isBlank c
    let argument :=
      ((line.dropWhile fun c => !isBlank c).dropWhile isBlank).reverse.dropWhile isBlank
    if name.isEmpty then none
    else some (String.ofList name,
      if argument.isEmpty then [] else [String.ofList argument.reverse])
  | _ => none

/-! ## Parameters -/

/-- The number that stands for the running shell. -/
def ownNumber : String := "4242"

/-- The value of a parameter, if it has one. -/
def ShellState.parameter? (s : ShellState) (name : String) : Option String :=
  if name == "@" then some (String.intercalate " " s.arguments)
  else if name == "*" then
    some (String.intercalate ((s.separators.head?.map String.singleton).getD "") s.arguments)
  else if name == "#" then some (toString s.arguments.length)
  else if name == "?" then some (toString s.status)
  else if name == "$" then some ownNumber
  else if name == "-" then some (if s.careful then "e" else "")
  else if name == "0" then some s.name
  else
    match Utility.number? name with
    | some n => s.arguments[n - 1]?
    | none => s.value? name

/-- Cut the shortest or longest beginning that fits a pattern off a text. -/
def cutFront (longest : Bool) (pattern : Glob) (s : List Char) : List Char :=
  let lengths := List.range (s.length + 1)
  let lengths := if longest then lengths.reverse else lengths
  match lengths.find? fun n => Glob.fits pattern (s.take n) with
  | some n => s.drop n
  | none => s

/-- Cut the shortest or longest end that fits a pattern off a text. -/
def cutBack (longest : Bool) (pattern : Glob) (s : List Char) : List Char :=
  let lengths := List.range (s.length + 1)
  let lengths := if longest then lengths else lengths.reverse
  match lengths.find? fun n => Glob.fits pattern (s.drop n) with
  | some n => s.take n
  | none => s

def withoutTrailingFeeds (s : String) : String :=
  String.ofList (s.toList.reverse.dropWhile fun c => c == '\n').reverse

/-! ## Redirections -/

/-- Open the file that a redirection names, as a change of the streams. -/
def openFile (mode : RedirectionMode) (descriptor : Nat) (target : String) : Act (Option Unit) := do
  let m ← get
  let path := Bytes.toText target
  let refuse (verb : String) (why : String) : Act (Option Unit) := do
    complain s!"cannot {verb} {target}: {why}"
    return none
  let direct (sink : Sink) : Act (Option Unit) := do
    onShell fun s =>
      { s with streams :=
          if descriptor == 2 then { s.streams with err := sink }
          else if descriptor == 1 then { s.streams with out := sink }
          else s.streams }
    return some ()
  match mode with
  | .read =>
    match m.tree.read m.shell.here path with
    | .ok bytes =>
      let slot ← newInput (Bytes.ofByteArray bytes)
      onShell fun s => { s with streams := { s.streams with input := slot } }
      return some ()
    | .error .notFound | .error .notDirectory => refuse "open" "No such file"
    | .error e => refuse "open" (Utility.reason e)
  | .duplicate =>
    let s := m.shell.streams
    if target == "1" then direct s.out
    else if target == "2" then direct s.err
    else if target == "-" then direct .nowhere
    else return some ()
  | .write | .append =>
    match m.tree.writable m.shell.here path with
    | .error .notFound | .error .notDirectory => refuse "create" "Directory nonexistent"
    | .error e => refuse "create" (Utility.reason e)
    | .ok (place, old) =>
      if mode == .write || old.isNone then
        let executable := (old.map fun o => o.2).getD false
        set { m with tree := m.tree.store place ByteArray.empty executable }
      direct (.file place)

/-! ## Steps that only the shell can take -/

/-- The words that the shell runs itself. -/
def builtins : List String :=
  [":", "true", "false", "echo", "printf", "test", "[", "cd", "pwd", "exit", "return", "shift",
    "set", "unset", "export", "readonly", "local", "break", "continue", "kill", "exec", "eval",
    ".", "read", "command", "trap", "umask", "wait", "sleep"]

def splitAssignment (word : String) : String × Option String :=
  match word.splitOn "=" with
  | name :: value :: rest => (name, some (String.intercalate "=" (value :: rest)))
  | _ => (word, none)

/-- A number of seconds, as thousandths. -/
def millis? (word : String) : Option Nat :=
  let word := if word.endsWith "s" then (word.dropEnd 1).toString else word
  match word.splitOn "." with
  | [whole] => (Utility.number? whole).map (· * 1000)
  | [whole, part] =>
    let digits := (part ++ "000").toList.take 3
    match Utility.number? (if whole.isEmpty then "0" else whole),
        Utility.number? (String.ofList digits) with
    | some n, some d => some (n * 1000 + d)
    | _, _ => none
  | _ => none

def signal? (word : String) : Option Nat :=
  if word == "KILL" || word == "SIGKILL" then some 9
  else if word == "TERM" || word == "SIGTERM" then some 15
  else if word == "INT" || word == "SIGINT" then some 2
  else if word == "HUP" || word == "SIGHUP" then some 1
  else Utility.number? word

def kill (arguments : List String) : Act Unit := do
  let send (signal : Option Nat) (targets : List String) : Act Unit := do
    match signal with
    | none =>
      let word := arguments.headD ""
      complain s!"kill: Illegal number: {word}"
      setStatus 2
    | some signal =>
      if targets.contains ownNumber then
        if signal == 0 then setStatus 0 else throw (.killed signal)
      else complain "kill: No such process\n"; setStatus 1
  match arguments with
  | "-s" :: name :: targets => send (signal? name) targets
  | word :: targets =>
    if word.startsWith "-" then send (signal? (word.drop 1).toString) targets
    else send (some 15) (word :: targets)
  | [] =>
    complain ("kill: Usage: kill [-s sigspec | -signum | -sigspec] [pid | job]... or\n" ++
      "kill -l [exitstatus]")
    setStatus 2

/-- Go to a directory; a hyphen means the one before. -/
def changeDirectory (arguments : List String) : Act Unit := do
  let s ← shell
  let given := (arguments.head?.orElse fun _ => s.value? "HOME").getD ""
  let dir := if given == "-" then (s.value? "OLDPWD").getD "" else given
  let m ← get
  if dir.isEmpty then setStatus 0
  else
    match m.tree.find s.here (Bytes.toText dir) with
    | .ok (place, .directory) =>
      let path := Bytes.ofText (Tree.pathOf place)
      onShell fun s =>
        { ((s.set "OLDPWD" (Bytes.ofText (Tree.pathOf s.here))).set "PWD" path) with
          here := place, status := 0 }
      if given == "-" then print (path ++ "\n")
    | _ => complain s!"cd: can't cd to {dir}"; setStatus 2

/-- Turn switches of the shell on or off. -/
def ShellState.switch (s : ShellState) (letters : List Char) (on : Bool) : ShellState :=
  { s with
    careful := if letters.contains 'e' then on else s.careful
    strict := if letters.contains 'u' then on else s.strict }

/-- Switches of the shell itself, and new arguments behind them. -/
def setArguments : List String → Act Unit
  | [] => setStatus 0
  | "--" :: arguments => onShell fun s => { s with arguments, status := 0 }
  | word :: rest =>
    match word.toList with
    | '-' :: letters => do
      onShell fun s => s.switch letters true
      setArguments rest
    | '+' :: letters => do
      onShell fun s => s.switch letters false
      setArguments rest
    | _ => onShell fun s => { s with arguments := word :: rest, status := 0 }

/-- Give the fields of a line to names; the last one gets what is left. -/
def distribute : List String → List Char → List (String × String)
  | [], _ => []
  | [name], line =>
    let trimmed := ((line.dropWhile isWhite).reverse.dropWhile isWhite).reverse
    [(name, String.ofList trimmed)]
  | name :: names, line =>
    let line := line.dropWhile isWhite
    (name, String.ofList (line.takeWhile fun c => !isWhite c)) ::
      distribute names (line.dropWhile fun c => !isWhite c)

def readLine (arguments : List String) : Act Unit := do
  let names := arguments.filter fun a => a != "-r"
  let m ← get
  let slot := m.shell.streams.input
  let text := (m.inputs.getD slot "").toList
  let line := text.takeWhile fun c => c != '\n'
  let left := (text.drop line.length).drop 1
  set { m with inputs := m.inputs.set! slot (String.ofList left) }
  let ended := line.length == text.length
  onShell fun s =>
    let s := (distribute names line).foldl (fun s (name, value) => s.set name value) s
    { s with status := if ended then 1 else 0 }

/-- Run a utility on the input and the tree of the machine; `lead` goes before its complaints. -/
def runUtility (utility : Utility.Call → Utility.Reply) (arguments : List String)
    (lead : String := "") : Act Unit := do
  let m ← get
  let slot := m.shell.streams.input
  let reply := utility
    { arguments, input := m.inputs.getD slot "", tree := m.tree, here := m.shell.here }
  set { m with
    tree := reply.tree
    inputs := if reply.readsInput then m.inputs.setIfInBounds slot "" else m.inputs }
  print reply.out
  emit m.shell.streams.err
    (Utility.joinLines ((Utility.linesOf reply.err).map fun line => lead ++ line))
  setStatus reply.status

/-- The number that a step takes, if it is given; the shell ends if it is none. -/
def numberOr (name : String) (usual : Nat) (arguments : List String) : Act Nat := do
  match arguments.head? with
  | none => return usual
  | some word =>
    match Utility.number? word with
    | some n => return n
    | none =>
      complain s!"{name}: Illegal number: {word}"
      throw (.exit 2)

/-- Steps that run nothing else. The answer is whether the name is one of them. -/
def simpleBuiltin (name : String) (arguments : List String) : Act Bool := do
  let s ← shell
  let did (act : Act Unit) : Act Bool := do act; return true
  if name == ":" || name == "trap" || name == "umask" || name == "wait" then did (setStatus 0)
  else if ["true", "false", "echo", "printf", "test", "["].contains name then
    match Utility.named? name with
    | some utility => did (runUtility utility arguments s.lead)
    | none => return false
  else if name == "cd" then did (changeDirectory arguments)
  else if name == "pwd" then did do
    print (Bytes.ofText (Tree.pathOf s.here) ++ "\n")
    setStatus 0
  else if name == "exit" then throw (.exit (← numberOr name s.status arguments))
  else if name == "return" then throw (.leave (← numberOr name s.status arguments))
  else if name == "break" then did do
    let levels := min (← numberOr name 1 arguments) s.loops
    if levels == 0 then setStatus 0 else throw (.breakLoop levels)
  else if name == "continue" then did do
    let levels := min (← numberOr name 1 arguments) s.loops
    if levels == 0 then setStatus 0 else throw (.nextRound levels)
  else if name == "shift" then did do
    let n ← numberOr name 1 arguments
    if s.arguments.length < n then
      complain "shift: can't shift that many"
      throw (.exit 2)
    onShell fun s => { s with arguments := s.arguments.drop n, status := 0 }
  else if name == "set" then did (setArguments arguments)
  else if name == "unset" then did (onShell fun s =>
    { arguments.foldl (fun s name => s.unset name) s with status := 0 })
  else if name == "export" || name == "readonly" then did (onShell fun s =>
    let s := arguments.foldl (fun s word =>
      let (name, value) := splitAssignment word
      let s := match value with
        | some value => s.set name value
        | none => s
      if s.value? name != none then s.share name else s) s
    { s with status := 0 })
  else if name == "local" then did (onShell fun s =>
    let s := arguments.foldl (fun s word =>
      let (name, value) := splitAssignment word
      let s := { s with saved := (name, s.value? name) :: s.saved }
      match value with
      | some value => s.set name value
      | none => s) s
    { s with status := 0 })
  else if name == "kill" then did (kill arguments)
  else if name == "read" then did (readLine arguments)
  else if name == "sleep" then did do
    match arguments.mapM millis? with
    | some times =>
      sleep (times.foldl Nat.add 0)
      setStatus 0
    | none =>
      let wrong := (arguments.find? fun word => (millis? word).isNone).getD ""
      emit s.streams.err
        s!"sleep: invalid time interval '{wrong}'\nTry 'sleep --help' for more information.\n"
      setStatus 1
  else return false

/-! ## The evaluator -/

mutual

/-- The atoms that a piece of a word stands for; text outside of quotes may be cut if it
`splits`. -/
def expandPiece : Nat → Bool → WordPiece → Act (List Atom)
  | 0, _, _ => throw .overran
  | fuel + 1, splits, piece => do
    match piece with
    | .text s quoted => return Atom.ofText quoted splits s
    | .output script quoted =>
      let text ← collecting (apart (eval fuel false script))
      onShell fun s => { s with produced := some s.status }
      return Atom.ofValue quoted (withoutTrailingFeeds text)
    | .arithmetic word quoted =>
      let text := Atom.text (← expandWord fuel false word)
      let s ← shell
      match Arithmetic.eval? s.parameter? text with
      | some n => return Atom.ofValue quoted (toString n)
      | none =>
        complain s!"arithmetic expression: {text}"
        throw (.exit 2)
    | .parameter name change quoted =>
      let s ← shell
      let plain := match change with
        | .none => true
        | _ => false
      if plain && (name == "@" || (name == "*" && !quoted)) then
        return Atom.ofArguments quoted s.arguments
      let value := s.parameter? name
      if plain && s.strict && value.isNone && name != "@" && name != "*" then
        complain s!"{name}: parameter not set"
        throw (.exit 2)
      let missing (orEmpty : Bool) : Bool := value.isNone || (orEmpty && value == some "")
      let unchanged : List Atom := Atom.ofValue quoted (value.getD "")
      match change with
      | .none => return unchanged
      | .fallback orEmpty word =>
        if missing orEmpty then expandWord fuel (!quoted) word else return unchanged
      | .assign orEmpty word =>
        if missing orEmpty then
          let atoms ← expandWord fuel (!quoted) word
          onShell fun s => s.set name (Atom.text atoms)
          return atoms
        else return unchanged
      | .complain orEmpty word =>
        if missing orEmpty then
          let text := Atom.text (← expandWord fuel false word)
          let usual := if orEmpty then "parameter not set or null" else "parameter not set"
          let reason := if text.isEmpty then usual else text
          complain s!"{name}: {reason}"
          throw (.exit 2)
        else return unchanged
      | .instead orEmpty word =>
        if missing orEmpty then return [] else expandWord fuel (!quoted) word
      | .length => return Atom.ofValue quoted (toString (value.getD "").length)
      | .cutFront longest word =>
        let glob := Glob.read (Atom.pattern (← expandWord fuel false word))
        return Atom.ofValue quoted (String.ofList (cutFront longest glob (value.getD "").toList))
      | .cutBack longest word =>
        let glob := Glob.read (Atom.pattern (← expandWord fuel false word))
        return Atom.ofValue quoted (String.ofList (cutBack longest glob (value.getD "").toList))

def expandWord : Nat → Bool → Word → Act (List Atom)
  | 0, _, _ => throw .overran
  | fuel + 1, splits, word => do
    let atoms ← word.mapM fun piece => expandPiece fuel splits piece
    return atoms.flatten

/-- The fields that words stand for. -/
def expandFields : Nat → List Word → Act (List String)
  | 0, _ => throw .overran
  | fuel + 1, words => do
    let fields ← words.mapM fun word => do
      let atoms ← expandWord fuel false word
      let m ← get
      let onlyArguments := word.any fun
        | .parameter "@" .none _ => true
        | _ => false
      if onlyArguments && atoms.all (· == .mark) && m.shell.arguments.isEmpty then return []
      return (cut m.shell.separators none false atoms).flatMap (Field.paths m.tree m.shell.here)
    return fields.flatten

/-- Open redirections one after another; the answer is whether all could be opened. -/
def redirect : Nat → List Redirection → Act Bool
  | 0, _ => throw .overran
  | _, [] => return true
  | fuel + 1, .mk descriptor mode word :: rest => do
    let target := Atom.text (← expandWord fuel false word)
    match ← openFile mode descriptor target with
    | some () => redirect fuel rest
    | none =>
      setStatus 2
      return false

/-- Run a script; in a condition its failure ends nothing. -/
def eval : Nat → Bool → Script → Act Unit
  | 0, _, _ => throw .overran
  | fuel + 1, tested, script => do
    match script with
    | .nothing => setStatus 0
    | .simple feedsLeft assignments words redirections =>
      onShell fun s => s.atCommand feedsLeft
      simple fuel assignments words redirections
      insist tested
    | .pipe a b =>
      let text ← collecting (apart (eval fuel tested a))
      let slot ← newInput text
      let streams := (← shell).streams
      withStreams { streams with input := slot } (apart (eval fuel tested b))
      insist tested
    | .negate a =>
      eval fuel true a
      onShell fun s => { s with status := if s.status == 0 then 1 else 0 }
    | .andThen a b =>
      eval fuel true a
      if (← shell).status == 0 then eval fuel tested b
    | .orElse a b =>
      eval fuel true a
      if (← shell).status != 0 then eval fuel tested b
    | .sequence a b =>
      eval fuel tested a
      eval fuel tested b
    | .subshell a =>
      apart (eval fuel tested a)
      insist tested
    | .redirected feedsLeft a redirections =>
      onShell fun s => s.atCommand feedsLeft
      restoring (fun before after => { after with streams := before.streams }) do
        if ← redirect fuel redirections then eval fuel tested a
    | .branch condition yes no =>
      eval fuel true condition
      if (← shell).status == 0 then eval fuel tested yes else eval fuel tested no
    | .loop turned condition body => inLoop (rounds fuel tested turned condition body 0)
    | .each name words body =>
      let arguments := (← shell).arguments
      let values ← match words with
        | some words => expandFields fuel words
        | none => pure arguments
      setStatus 0
      inLoop (each fuel tested name body values)
    | .choose word cases =>
      let text := Atom.text (← expandWord fuel false word)
      setStatus 0
      choose fuel tested text.toList cases
    | .define name body =>
      onShell fun s =>
        { s with functions := (name, body) :: s.functions.filter (·.1 != name), status := 0 }
where
  /-- A careful shell ends when a command fails that is not tested. -/
  insist (tested : Bool) : Act Unit := do
    let s ← shell
    if s.careful && !tested && s.status != 0 then throw (.exit s.status)

/-- The rounds of a loop with a condition, behind a body that gave a status. -/
def rounds : Nat → Bool → Bool → Script → Script → Nat → Act Unit
  | 0, _, _, _, _, _ => throw .overran
  | fuel + 1, tested, turned, condition, body, last => do
    eval fuel true condition
    if ((← shell).status == 0) == turned then setStatus last
    else if ← round (eval fuel tested body) then
      rounds fuel tested turned condition body (← shell).status
    else setStatus 0

/-- The rounds of a loop over values. -/
def each : Nat → Bool → String → Script → List String → Act Unit
  | 0, _, _, _, _ => throw .overran
  | _, _, _, _, [] => return ()
  | fuel + 1, tested, name, body, value :: rest => do
    onShell fun s => s.set name value
    if ← round (eval fuel tested body) then each fuel tested name body rest else setStatus 0

/-- Run the first case of which a pattern fits. -/
def choose : Nat → Bool → List Char → List (List Word × Script) → Act Unit
  | 0, _, _, _ => throw .overran
  | _, _, _, [] => return ()
  | fuel + 1, tested, text, (patterns, body) :: rest => do
    let globs ← patterns.mapM fun word => do
      return Glob.read (Atom.pattern (← expandWord fuel false word))
    if globs.any (Glob.fits · text) then eval fuel tested body else choose fuel tested text rest

/-- A simple command: expand its words, open its redirections, and run it with its
assignments. -/
def simple : Nat → List (String × Word) → List Word → List Redirection → Act Unit
  | 0, _, _, _ => throw .overran
  | fuel + 1, assignments, words, redirections => do
    onShell fun s => { s with produced := none }
    let fields ← expandFields fuel words
    -- Without a command of its own, `exec` leaves the redirections to the shell.
    let keepsStreams := fields == ["exec"]
    restoring (fun before after =>
        if keepsStreams then after else { after with streams := before.streams }) do
      if ← redirect fuel redirections then
        match fields with
        | [] =>
          assign fuel false assignments
          onShell fun s => { s with status := s.produced.getD 0 }
        | name :: arguments =>
          if assignments.isEmpty then command fuel name arguments
          else
            restoring (fun before after =>
                let after := { after with exported := before.exported }
                assignments.foldl (fun s (name, _) => s.giveBack name (before.value? name))
                  after) do
              assign fuel true assignments
              command fuel name arguments

/-- Give names their values, one after another; commands may get to see them. -/
def assign : Nat → Bool → List (String × Word) → Act Unit
  | 0, _, _ => throw .overran
  | _, _, [] => return ()
  | fuel + 1, shared, (name, word) :: rest => do
    let value := Atom.text (← expandWord fuel false word)
    onShell fun s => if shared then (s.set name value).share name else s.set name value
    assign fuel shared rest

/-- Run a command by its name. -/
def command : Nat → String → List String → Act Unit
  | 0, _, _ => throw .overran
  | fuel + 1, name, arguments => do
    let s ← shell
    match s.functions.lookup name with
    | some body =>
      restoring (fun before after =>
          let after := after.saved.foldl (fun s (name, value) => s.giveBack name value) after
          { after with
            arguments := before.arguments, saved := before.saved, loops := before.loops }) do
        onShell fun s => { s with arguments, saved := [], loops := 0 }
        tryCatch (eval fuel false body) fun
          | .leave status => setStatus status
          | stop => throw stop
    | none =>
      if name == "eval" then runText fuel (String.intercalate " " arguments)
      else if name == "." then
        let m ← get
        let file := arguments.headD ""
        match m.tree.read s.here (Bytes.toText file) with
        | .ok bytes => runText fuel (Bytes.ofByteArray bytes)
        | .error _ =>
          complain s!".: cannot open {file}"
          throw (.exit 2)
      else if name == "exec" then
        match arguments with
        | [] => setStatus 0
        | name :: arguments =>
          program fuel name arguments
          throw (.exit (← shell).status)
      else if name == "command" then
        match arguments with
        | "-v" :: name :: _ =>
          match lookUp (← get).tree s.here ((s.value? "PATH").getD "") name with
          | .ok (path, _) =>
            print ((if builtins.contains name then name else path) ++ "\n")
            setStatus 0
          | .error _ => setStatus 127
        | name :: arguments =>
          if ← simpleBuiltin name arguments then return () else program fuel name arguments
        | [] => setStatus 0
      else if ← simpleBuiltin name arguments then return ()
      else program fuel name arguments

/-- Read a text as a script and run it in this shell. -/
def runText : Nat → String → Act Unit
  | 0, _ => throw .overran
  | fuel + 1, text => do
    restoring (fun before after => { after with feeds := before.feeds }) do
      onShell fun s => { s with feeds := text.toList.count '\n', line := 1 }
      match Script.read? text with
      | some script => eval fuel false script
      | none =>
        complain "Syntax error"
        throw (.exit 2)

/-- Look for a program and run it as a command of its own. -/
def program : Nat → String → List String → Act Unit
  | 0, _, _ => throw .overran
  | fuel + 1, name, arguments => do
    let s ← shell
    match lookUp (← get).tree s.here ((s.value? "PATH").getD "") name with
    | .error .accessDenied =>
      complain s!"{name}: Permission denied"
      setStatus 126
    | .error _ =>
      complain s!"{name}: not found"
      setStatus 127
    | .ok (path, entry) => asCommand (s.child s.name []) (launch fuel true path entry arguments)

/-- Start what was found; a file without an interpreter may be taken for a script. -/
def launch : Nat → Bool → String → Entry → List String → Act Unit
  | 0, _, _, _, _ => throw .overran
  | fuel + 1, lenient, path, entry, arguments => do
    match entry with
    | .program name => systemProgram fuel name arguments
    | .file bytes _ =>
      let text := Bytes.ofByteArray bytes
      match interpreter? text with
      | some (interpreter, before) =>
        let s ← shell
        match lookUp (← get).tree s.here "" interpreter with
        | .ok (_, .program name) => systemProgram fuel name (before ++ path :: arguments)
        | .ok (_, entry) => launch fuel false interpreter entry (before ++ path :: arguments)
        | .error _ =>
          complain s!"{path}: not found"
          setStatus 127
      | none =>
        if lenient then
          onShell fun s => { s with name := path, arguments }
          runText fuel text
        else setStatus 126
    | _ => setStatus 126

/-- Run a program of the system. -/
def systemProgram : Nat → String → List String → Act Unit
  | 0, _, _ => throw .overran
  | fuel + 1, name, arguments => do
    match Utility.named? name with
    | some utility => runUtility utility arguments
    | none =>
      if name == "sh" then shellProgram fuel arguments
      else if name == "env" then
        let given := arguments.takeWhile fun word => word.contains '='
        onShell fun s => given.foldl (fun s word =>
          let (name, value) := splitAssignment word
          (s.set name (value.getD "")).share name) s
        match arguments.drop given.length with
        | [] =>
          let s ← shell
          print (Utility.joinLines (s.visible.map fun (name, value) => s!"{name}={value}"))
          setStatus 0
        | name :: arguments => program fuel name arguments
      else if name == "find" then
        match Utility.Finding.read arguments with
        | .error e =>
          emit (← shell).streams.err s!"find: {e}\n"
          setStatus 1
        | .ok finding =>
          let m ← get
          let (paths, complaints) := finding.paths m.tree m.shell.here
          emit m.shell.streams.err (Utility.joinLines complaints)
          let status := if complaints.isEmpty then 0 else 1
          match finding.action with
          | .print =>
            print (Utility.joinLines paths)
            setStatus status
          | .delete =>
            runUtility Utility.rm ("-rf" :: "--" :: paths)
            setStatus status
          | .run words together =>
            if together then
              if paths.isEmpty then setStatus status
              else
                runWords fuel (words ++ paths)
                let failed := (← shell).status != 0
                setStatus (if failed then 1 else status)
            else
              let _ ← paths.mapM fun path =>
                runWords fuel (words.map fun w => w.replace "\x7b\x7d" path)
              setStatus status
      else
        let _ ← simpleBuiltin name arguments
        return ()

/-- Run a command given by its words. -/
def runWords : Nat → List String → Act Unit
  | 0, _ => throw .overran
  | _, [] => setStatus 0
  | fuel + 1, name :: arguments => program fuel name arguments

/-- The shell as a program: a script in its arguments, in a file, or in its input. -/
def shellProgram : Nat → List String → Act Unit
  | 0, _ => throw .overran
  | fuel + 1, arguments => do
    let s ← shell
    match arguments with
    | "-c" :: text :: rest =>
      onShell fun s => { s with name := rest.headD "sh", arguments := rest.drop 1 }
      runText fuel text
    | file :: rest =>
      let letters := (file.toList.drop 1)
      if file.startsWith "-" && letters.all fun c => c == 'e' || c == 'u' then
        onShell fun s => s.switch letters true
        shellProgram fuel rest
      else
        match (← get).tree.read s.here (Bytes.toText file) with
        | .ok bytes =>
          onShell fun s => { s with name := file, arguments := rest }
          runText fuel (Bytes.ofByteArray bytes)
        | .error e =>
          emit s.streams.err s!"sh: 0: cannot open {file}: {Utility.reason e}\n"
          setStatus 2
    | [] =>
      let m ← get
      onShell fun s => { s with name := "sh", arguments := [] }
      runText fuel (m.inputs.getD s.streams.input "")

end

end FeatureSurvey.Shell
