import FeatureSurvey.Pattern.Glob
import FeatureSurvey.Pattern.RegexReader
import FeatureSurvey.Utility.Basic

/-!
# `Utility/Grep.lean` — searching lines

`grep` prints the lines that match one of its patterns. It searches files, the input, or whole
directories, whose files may be chosen by globs on their names. Its status is zero if a line
matched, one if none did, and two if something went wrong, which a match does not cure unless
nothing is to be printed.

A file with a zero byte is no text: of it only the fact is printed that it matches.
-/

set_option autoImplicit false

namespace FeatureSurvey.Utility

open Sandbox

structure Search where
  style : RegexStyle := .basic
  fixed : Bool := false
  foldCase : Bool := false
  invert : Bool := false
  quiet : Bool := false
  countOnly : Bool := false
  namesOnly : Bool := false
  numbers : Bool := false
  recursive : Bool := false
  silent : Bool := false
  onlyMatching : Bool := false
  wholeLine : Bool := false
  wholeWord : Bool := false
  /-- Print file names: as it was asked for, if it was. -/
  withNames : Option Bool := none
  includes : List String := []
  excludes : List String := []
  patterns : Option (List String) := none
  operands : List String := []

namespace Search

/-- Take in a switch without a value. -/
def withLetter (s : Search) (c : Char) : Option Search :=
  if c == 'E' then some { s with style := .extended }
  else if c == 'G' then some { s with style := .basic }
  else if c == 'F' then some { s with fixed := true }
  else if c == 'i' || c == 'y' then some { s with foldCase := true }
  else if c == 'v' then some { s with invert := true }
  else if c == 'q' then some { s with quiet := true }
  else if c == 'c' then some { s with countOnly := true }
  else if c == 'l' then some { s with namesOnly := true }
  else if c == 'n' then some { s with numbers := true }
  else if c == 'r' || c == 'R' then some { s with recursive := true }
  else if c == 's' then some { s with silent := true }
  else if c == 'o' then some { s with onlyMatching := true }
  else if c == 'x' then some { s with wholeLine := true }
  else if c == 'w' then some { s with wholeWord := true }
  else if c == 'h' then some { s with withNames := some false }
  else if c == 'H' then some { s with withNames := some true }
  else if c == 'a' || c == 'I' || c == 'U' then some s
  else none

def addPatterns (s : Search) (patterns : List String) : Search :=
  { s with patterns := some (s.patterns.getD [] ++ patterns) }

/-- The patterns in a text, one a line. -/
def patternsIn (text : String) : List String := text.splitOn "\n"

/-- Take in a long switch; gives whether its value comes next. -/
def withLong (s : Search) (name : String) (value : Option String) : Option Search :=
  match name, value with
  | "include", some v => some { s with includes := s.includes ++ [v] }
  | "exclude", some v => some { s with excludes := s.excludes ++ [v] }
  | "regexp", some v => some (s.addPatterns (patternsIn v))
  | "ignore-case", none => s.withLetter 'i'
  | "recursive", none => s.withLetter 'r'
  | "extended-regexp", none => s.withLetter 'E'
  | "fixed-strings", none => s.withLetter 'F'
  | "quiet", none => s.withLetter 'q'
  | "count", none => s.withLetter 'c'
  | "line-number", none => s.withLetter 'n'
  | "invert-match", none => s.withLetter 'v'
  | "files-with-matches", none => s.withLetter 'l'
  | "no-messages", none => s.withLetter 's'
  | "only-matching", none => s.withLetter 'o'
  | _, _ => none

/-- Long switches that take a value. -/
def takesValue (name : String) : Bool :=
  ["include", "exclude", "regexp", "file", "exclude-dir"].contains name

/-- How the tool is called. -/
def usage : String :=
  "Usage: grep [OPTION]... PATTERNS [FILE]...\nTry 'grep --help' for more information."

/-- What is said of arguments that make no call. -/
def misuse (complaint : String) : String := s!"grep: {complaint}\n{usage}"

/-- A value given by `-e` or `-f`. -/
def withValue (c : Call) (s : Search) (letter : Char) (value : String) : Except String Search :=
  if letter == 'e' then .ok (s.addPatterns (patternsIn value))
  else if letter == 'f' then
    match c.readOrInput value with
    | .ok text => .ok (s.addPatterns (linesOf text))
    | .error e => .error s!"grep: {value}: {reason e}"
  else .ok s

/-- The switches in one word, and the letter whose value comes next. -/
def withLetters (c : Call) (s : Search) : List Char → Except String (Search × Option Char)
  | [] => .ok (s, none)
  | l :: ls =>
    if l == 'e' || l == 'f' || l == 'm' || l == 'A' || l == 'B' || l == 'C' then
      if ls.isEmpty then .ok (s, some l)
      else (withValue c s l (String.ofList ls)).map fun s => (s, none)
    else
      match s.withLetter l with
      | some s => withLetters c s ls
      | none => .error (misuse s!"invalid option -- '{l}'")

/-- What an argument that takes a value is waiting for. -/
inductive Waiting where
  | letter (c : Char)
  | long (name : String)

/-- Read the arguments. -/
def readArguments (c : Call) (waiting : Option Waiting) (s : Search) :
    List String → Except String Search
  | [] =>
    match waiting with
    | some (.letter l) => .error (misuse s!"option requires an argument -- '{l}'")
    | some (.long name) => .error (misuse s!"option '--{name}' requires an argument")
    | none => .ok s
  | word :: rest =>
    match waiting with
    | some (.letter l) => do readArguments c none (← withValue c s l word) rest
    | some (.long name) =>
      match s.withLong name (some word) with
      | some s => readArguments c none s rest
      | none => readArguments c none s rest
    | none =>
      match word.toList with
      | ['-', '-'] => .ok { s with operands := s.operands ++ rest }
      | '-' :: '-' :: body =>
        let body := String.ofList body
        match body.splitOn "=" with
        | [name] =>
          if takesValue name then readArguments c (some (.long name)) s rest
          else
            match s.withLong name none with
            | some s => readArguments c none s rest
            | none => .error (misuse s!"unrecognized option '--{name}'")
        | name :: value =>
          match s.withLong name (some (String.intercalate "=" value)) with
          | some s => readArguments c none s rest
          | none => .error (misuse s!"unrecognized option '--{body}'")
        | [] => .error usage
      | '-' :: l :: ls => do
        let (s, waiting) ← withLetters c s (l :: ls)
        readArguments c (waiting.map .letter) s rest
      | _ => readArguments c none { s with operands := s.operands ++ [word] } rest

/-! ## Matching -/

/-- A fixed text as an expression. -/
def literal (s : String) : Regex :=
  s.toList.foldr (fun c r => .sequence (.one (.single c)) r) .empty

/-- The expression of a pattern, with what the switches ask around it. -/
def reading (s : Search) (pattern : String) : Except RegexFault Regex.Reading := do
  let reading ←
    if s.fixed then .ok ⟨literal pattern, [], false⟩ else Regex.reading s.style pattern
  let r := reading.regex
  let r : Regex :=
    if s.wholeLine then .sequence .lineStart (.sequence r .lineEnd)
    else if s.wholeWord then .sequence .wordStart (.sequence r .wordEnd)
    else r
  .ok { reading with regex := r }

/-- The warning about a mark that has nothing to repeat. -/
def looseWarning (mark : Char) : String :=
  let shown := if mark == '\x7b' then "\x7b...\x7d" else mark.toString
  s!"grep: warning: {shown} at start of expression\n"

/-- The expressions of the patterns, and the warnings about them. A set that looks like a class
is refused, but the warnings about what stands before it are given first. -/
def expressions (s : Search) (patterns : List String) : Except String (List Regex × String) :=
  match patterns.mapM s.reading with
  | .error e => .error s!"grep: {e.message}\n"
  | .ok readings =>
    let warnings (readings : List Regex.Reading) : String :=
      String.join (readings.flatMap fun r => r.loose.map looseWarning)
    -- Every pattern is read before one is refused for its looks.
    match readings.span fun r => !r.nakedClass with
    | (_, []) => .ok (readings.map (·.regex), warnings readings)
    | (before, r :: _) =>
      .error (warnings (before ++ [r])
        ++ "grep: character class syntax is [[:space:]], not [:space:]\n")

def matchesLine (s : Search) (rs : List Regex) (line : String) : Bool :=
  let subject : Regex.Subject := ⟨line.toList.toArray, s.foldCase⟩
  (rs.any fun r => r.occurs subject) != s.invert

/-- The pieces of a line that match, from a position on. -/
def matchesFrom (subject : Regex.Subject) (r : Regex) : Nat → Nat → List String
  | 0, _ => []
  | steps + 1, start =>
    match r.findFrom? subject start with
    | none => []
    | some (i, h) =>
      if h.stop ≤ i then matchesFrom subject r steps (i + 1)
      else
        String.ofList ((subject.line.toList.drop i).take (h.stop - i)) ::
          matchesFrom subject r steps h.stop

/-- What is printed of one text, and whether a line matched. -/
def printed (s : Search) (rs : List Regex) (label : Option String) (name text : String) :
    String × Bool :=
  let found := ((linesOf text).zipIdx 1).filter fun (line, _) => s.matchesLine rs line
  let mark := (label.map (· ++ ":")).getD ""
  if s.quiet then ("", !found.isEmpty)
  else if s.namesOnly then (if found.isEmpty then "" else name ++ "\n", !found.isEmpty)
  else if s.countOnly then (s!"{mark}{found.length}\n", !found.isEmpty)
  else if text.contains '\x00' && !found.isEmpty then
    (s!"grep: {name}: binary file matches\n", true)
  else
    let number (i : Nat) : String := if s.numbers then s!"{i}:" else ""
    let lines := found.flatMap fun (line, i) =>
      if s.onlyMatching then
        let subject : Regex.Subject := ⟨line.toList.toArray, s.foldCase⟩
        rs.flatMap fun r =>
          (matchesFrom subject r (line.length + 1) 0).map fun m => mark ++ number i ++ m
      else [mark ++ number i ++ line]
    (joinLines lines, !found.isEmpty)

/-! ## Files -/

/-- Do the globs choose a file of this name? -/
def chooses (s : Search) (names : List String) : Bool :=
  let fits (glob : String) : Bool :=
    names.any fun name => Glob.fits (Glob.ofString glob) name.toList
  (s.includes.isEmpty || s.includes.any fits) && !s.excludes.any fits

/-- All ends of a path that begin behind a slash, and the path itself. -/
def namesOfOperand (path : String) : List String :=
  let pieces := Path.pieces path
  (List.range pieces.length).map fun i => String.intercalate "/" (pieces.drop i)

/-- The files inside a directory with the paths they are printed by, in the order of places. -/
def filesInside (tree : Tree) (place : Place) (path : String) : List (String × Place) :=
  let inside := tree.entries.filterMap fun (p, entry) =>
    match entry with
    | .file _ _ => if place.isPrefixOf p && place.length < p.length then some p else none
    | _ => none
  (inside.mergeSort fun a b => decide (Tree.pathOf a ≤ Tree.pathOf b)).map fun p =>
    (Path.join path (Bytes.ofText (String.intercalate "/" (p.drop place.length))), p)

/-- Search one operand and add to a reply. The status of the reply says, as it goes, zero for a
match, one for none. -/
def overOperand (c : Call) (s : Search) (rs : List Regex) (many : Bool) (reply : Reply)
    (operand : String) : Reply :=
  let complain (message : String) (reply : Reply) : Reply :=
    if s.silent then reply else { reply with err := reply.err ++ message ++ "\n" }
  let add (label : Option String) (name text : String) (reply : Reply) : Reply :=
    let (out, found) := s.printed rs label name text
    { reply with
      out := reply.out ++ out
      status := if found && reply.status == 1 then 0 else reply.status }
  let named (usual : Bool) (name : String) : Option String :=
    if s.withNames.getD usual then some name else none
  if operand == "-" then
    { add (named many "(standard input)") "(standard input)" c.input reply with
      readsInput := true }
  else
    match c.tree.find c.here (Bytes.toText operand) with
    | .error e => complain s!"grep: {operand}: {reason e}" { reply with status := 2 }
    | .ok (place, .directory) =>
      if !s.recursive then
        complain s!"grep: {operand}: {reason .isDirectory}" { reply with status := 2 }
      else
        (filesInside c.tree place operand).foldl (fun reply (name, place) =>
          match c.tree.entryAt? place with
          | some (.file bytes _) =>
            if s.chooses [Bytes.ofText (place.getLast?.getD "")] then
              add (named true name) name (Bytes.ofByteArray bytes) reply
            else reply
          | _ => reply) reply
    | .ok (_, entry) =>
      match Tree.Entry.content entry with
      | .ok bytes =>
        if s.chooses (namesOfOperand operand) then
          add (named many operand) operand (Bytes.ofByteArray bytes) reply
        else reply
      | .error e => complain s!"grep: {operand}: {reason e}" { reply with status := 2 }

end Search

def grep (c : Call) : Reply :=
  match Search.readArguments c none {} c.arguments with
  | .error e => c.fail e 2
  | .ok s =>
    let split := match s.patterns, s.operands with
      | some ps, operands => some (ps, operands)
      | none, p :: operands => some (Search.patternsIn p, operands)
      | none, [] => none
    match split with
    | none => c.fail Search.usage 2
    | some (patterns, operands) =>
      match s.expressions patterns with
      | .error complaints => { c.reply "" with status := 2, err := complaints }
      | .ok (rs, warnings) =>
        let operands := if operands.isEmpty then [if s.recursive then "." else "-"] else operands
        let many := 1 < operands.length
        operands.foldl (s.overOperand c rs many) { c.reply "" with status := 1, err := warnings }

end FeatureSurvey.Utility
