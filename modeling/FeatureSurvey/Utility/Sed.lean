import FeatureSurvey.Pattern.RegexReader
import FeatureSurvey.Utility.Basic

/-!
# `Utility/Sed.lean` — editing lines

`sed` goes through lines and applies commands to each of them: print it, delete it, replace what
matches in it or single characters of it, or stop after it. A command may be confined to lines by a
number, by a pattern, or by a range between two of these. A range that begins with a number covers
its first line in any case, also if its end comes before.
-/

set_option autoImplicit false

namespace FeatureSurvey.Utility

namespace Sed

inductive Address where
  | line (n : Nat)
  | last
  | pattern (r : Regex) (foldCase : Bool)

/-- A piece of a replacement: text, or what a group took, the whole match being group zero. -/
inductive Piece where
  | text (c : Char)
  | group (n : Nat)
  deriving DecidableEq, Repr

/-- What a replacement is asked to do besides: which match is the first to be replaced, whether
all those behind it are, and whether the line is printed then. -/
structure Options where
  first : Nat := 1
  everywhere : Bool := false
  prints : Bool := false
  foldCase : Bool := false

inductive Action where
  | print | delete | lineNumber
  | quit (silently : Bool) (status : Nat)
  | replace (r : Regex) (pieces : List Piece) (options : Options)
  | exchange (pairs : List (Char × Char))

structure Command where
  start : Option Address := none
  stop : Option Address := none
  negated : Bool := false
  action : Action

/-! ## Reading commands -/

/-- Text up to a delimiter that no backslash precedes. A delimiter behind a backslash loses it. -/
def upTo? (delimiter : Char) : List Char → Option (List Char × List Char)
  | [] => none
  | '\\' :: c :: cs =>
    (upTo? delimiter cs).map fun (s, rest) =>
      if c == delimiter then (c :: s, rest) else ('\\' :: c :: s, rest)
  | c :: cs =>
    if c == delimiter then some ([], cs)
    else (upTo? delimiter cs).map fun (s, rest) => (c :: s, rest)

/-- Where a reader of a pattern is: outside of sets, at the front of one, which may still be
negated, further inside, or inside a class of the set, before its mark or at its last bracket. -/
inductive Region where
  | outside
  | front (mayNegate : Bool)
  | inside
  | className (mark : Char)
  | classEnd

/-- The region behind a character in a set. -/
def Region.behind (front : Bool) (c : Char) (next : Option Char) : Region :=
  if c == ']' && !front then .outside
  else if c == '[' && (next == some ':' || next == some '.' || next == some '=') then
    .className (next.getD ':')
  else .inside

/-- A pattern up to its delimiter, which stands for itself in a set. -/
def patternUpTo? (delimiter : Char) : Region → List Char → Option (List Char × List Char)
  | _, [] => none
  | .outside, '\\' :: c :: cs =>
    (patternUpTo? delimiter .outside cs).map fun (s, rest) =>
      if c == delimiter then (c :: s, rest)
      else if c == 'n' then ('\n' :: s, rest)
      else ('\\' :: c :: s, rest)
  | region, c :: cs =>
    let go (next : Region) : Option (List Char × List Char) :=
      (patternUpTo? delimiter next cs).map fun (s, rest) => (c :: s, rest)
    match region with
    | .outside =>
      if c == delimiter then some ([], cs)
      else go (if c == '[' then .front true else .outside)
    | .front mayNegate =>
      if mayNegate && c == '^' then go (.front false) else go (.behind true c cs.head?)
    | .inside => go (.behind false c cs.head?)
    | .className mark =>
      go (if c == mark && cs.head? == some ']' then .classEnd else .className mark)
    | .classEnd => go .inside

/-- What is wrong with a command. -/
inductive Fault where
  | unexpectedComma
  | unexpectedBrace
  | unknownCommand (c : Char)
  | missingCommand
  | extraCharacters
  | oneAddress
  | lineZero
  | severalMarks
  | unterminatedAddress
  | unterminated (command : Char)
  | unknownOption
  | repeatedOption (c : Char)
  | repeatedNumber
  | numberZero
  | differentLengths
  | badReference (n : Nat)
  | regex (fault : RegexFault)

def Fault.message : Fault → String
  | .unexpectedComma => "unexpected \x60,'"
  | .unexpectedBrace => "unexpected \x60\x7d'"
  | .unknownCommand c => s!"unknown command: \x60{c}'"
  | .missingCommand => "missing command"
  | .extraCharacters => "extra characters after command"
  | .oneAddress => "command only uses one address"
  | .lineZero => "invalid usage of line address 0"
  | .severalMarks => "multiple \x60!'s"
  | .unterminatedAddress => "unterminated address regex"
  | .unterminated c => s!"unterminated \x60{c}' command"
  | .unknownOption => "unknown option to \x60s'"
  | .repeatedOption c => s!"multiple \x60{c}' options to \x60s' command"
  | .repeatedNumber => "multiple number options to \x60s' command"
  | .numberZero => "number option to \x60s' command may not be zero"
  | .differentLengths => "strings for \x60y' command are different lengths"
  | .badReference n => s!"invalid reference \\{n} on \x60s' command's RHS"
  | .regex fault => fault.message

/-- A fault and the number of characters left when it was found. -/
abbrev Failing (α : Type) := Except (Fault × Nat) α

def regex (style : RegexStyle) (cs rest : List Char) : Failing Regex :=
  (Regex.read style (String.ofList cs)).mapError fun e => (.regex e, rest.length)

def blank (c : Char) : Bool := c == ' ' || c == '\t'

/-- An address between delimiters. -/
def patternAddress (style : RegexStyle) (delimiter : Char) (cs : List Char) :
    Failing (Option (Address × List Char)) := do
  match patternUpTo? delimiter .outside cs with
  | none => .error (.unterminatedAddress, 0)
  | some (pattern, 'I' :: rest) =>
    .ok (some (.pattern (← regex style pattern rest) true, rest))
  | some (pattern, rest) => .ok (some (.pattern (← regex style pattern rest) false, rest))

def address? (style : RegexStyle) (cs : List Char) : Failing (Option (Address × List Char)) :=
  match cs with
  | '$' :: rest => .ok (some (.last, rest))
  | '/' :: rest => patternAddress style '/' rest
  | '\\' :: delimiter :: rest => patternAddress style delimiter rest
  | cs =>
    let digits := cs.takeWhile Char.isDigit
    if digits.isEmpty then .ok none
    else
      .ok (some (.line ((number? (String.ofList digits)).getD 0), cs.dropWhile Char.isDigit))

/-- The pieces of a replacement. -/
def pieces : List Char → List Piece
  | '\\' :: 'n' :: cs => .text '\n' :: pieces cs
  | '\\' :: c :: cs =>
    if c.isDigit then .group (c.toNat - '0'.toNat) :: pieces cs else .text c :: pieces cs
  | '&' :: cs => .group 0 :: pieces cs
  | c :: cs => .text c :: pieces cs
  | [] => []

/-- The characters of a list for an exchange. -/
def exchanged : List Char → List Char
  | '\\' :: 'n' :: cs => '\n' :: exchanged cs
  | '\\' :: '\\' :: cs => '\\' :: exchanged cs
  | c :: cs => c :: exchanged cs
  | [] => []

/-- What follows a command, unless more stands behind it than may. -/
def commandEnd (cs : List Char) : Failing (List Char) :=
  match cs.dropWhile blank with
  | [] => .ok []
  | c :: rest =>
    if c == ';' || c == '\n' then .ok rest
    else if c == '#' || c == '\x7d' then .ok (c :: rest)
    else .error (.extraCharacters, rest.length)

/-- The options behind a replacement; the number bounds the steps. -/
def options : Nat → Options → Bool → List Char → Failing (Options × List Char)
  | 0, o, _, cs => .ok (o, cs)
  | _, o, _, [] => .ok (o, [])
  | steps + 1, o, numbered, c :: rest =>
    if c == ';' || c == '\n' then .ok (o, rest)
    else if c == '#' || c == '\x7d' then .ok (o, c :: rest)
    else if blank c || c == 'm' || c == 'M' then options steps o numbered rest
    else if c == 'i' || c == 'I' then options steps { o with foldCase := true } numbered rest
    else if c == 'g' then
      if o.everywhere then .error (.repeatedOption c, rest.length)
      else options steps { o with everywhere := true } numbered rest
    else if c == 'p' then
      if o.prints then .error (.repeatedOption c, rest.length)
      else options steps { o with prints := true } numbered rest
    else if c.isDigit then
      let digits := c :: rest.takeWhile Char.isDigit
      let rest := rest.dropWhile Char.isDigit
      let first := (number? (String.ofList digits)).getD 0
      if numbered then .error (.repeatedNumber, rest.length)
      else if first == 0 then .error (.numberZero, rest.length)
      else options steps { o with first } true rest
    else .error (.unknownOption, rest.length)

/-- The groups of an expression. -/
def groupsIn : Regex → Nat
  | .sequence a b => groupsIn a + groupsIn b
  | .either a b => groupsIn a + groupsIn b
  | .repeated a _ _ => groupsIn a
  | .group _ a => groupsIn a + 1
  | _ => 0

def replacement (style : RegexStyle) (delimiter : Char) (cs : List Char) :
    Failing (Action × List Char) := do
  match patternUpTo? delimiter .outside cs with
  | none => .error (.unterminated 's', 0)
  | some (pattern, rest) =>
    match upTo? delimiter rest with
    | none => .error (.unterminated 's', 0)
    | some (text, rest) =>
      let (options, rest) ← options (rest.length + 1) {} false rest
      let r ← regex style pattern rest
      let pieces := pieces text
      let wrong := pieces.findSome? fun
        | .group n => if groupsIn r < n then some n else none
        | .text _ => none
      match wrong with
      | some n => .error (.badReference n, rest.length)
      | none => .ok (.replace r pieces options, rest)

def exchange (delimiter : Char) (cs : List Char) : Failing (Action × List Char) := do
  match upTo? delimiter cs with
  | none => .error (.unterminated 'y', 0)
  | some (one, rest) =>
    match upTo? delimiter rest with
    | none => .error (.unterminated 'y', 0)
    | some (other, rest) =>
      let (one, other) := (exchanged one, exchanged other)
      if one.length != other.length then .error (.differentLengths, rest.length)
      else .ok (.exchange (one.zip other), ← commandEnd rest)

/-- A command behind its addresses, and what follows it. -/
def action (style : RegexStyle) (start stop : Option Address) (cs : List Char) :
    Failing (Action × List Char) := do
  match cs with
  | [] => .error (.missingCommand, 0)
  | c :: rest =>
    let zero := match start, stop with
      | some (.line 0), some (.pattern _ _) => false
      | some (.line 0), _ => true
      | _, _ => false
    if zero then .error (.lineZero, rest.length)
    else if c == 'p' then .ok (.print, ← commandEnd rest)
    else if c == 'd' then .ok (.delete, ← commandEnd rest)
    else if c == '=' then .ok (.lineNumber, ← commandEnd rest)
    else if c == 'q' || c == 'Q' then
      if stop.isSome then .error (.oneAddress, rest.length)
      else
        let rest := rest.dropWhile blank
        let status := (number? (String.ofList (rest.takeWhile Char.isDigit))).getD 0
        .ok (.quit (c == 'Q') status, ← commandEnd (rest.dropWhile Char.isDigit))
    else if c == 's' || c == 'y' then
      match rest with
      | [] => .error (.unterminated c, 0)
      | delimiter :: rest =>
        if c == 's' then replacement style delimiter rest else exchange delimiter rest
    else if c == '\x7d' then .error (.unexpectedBrace, rest.length)
    else .error (.unknownCommand c, rest.length)

/-- Commands between semicolons and line feeds; the number bounds the steps. -/
def commands (style : RegexStyle) : Nat → List Char → Failing (List Command)
  | 0, _ => .ok []
  | steps + 1, cs => do
    let cs := cs.dropWhile fun c => blank c || c == ';' || c == '\n'
    match cs with
    | [] => .ok []
    | '#' :: cs => commands style steps (cs.dropWhile fun c => c != '\n')
    | cs =>
      let (start, cs) ← match ← address? style cs with
        | some (a, rest) => .ok (some a, rest.dropWhile blank)
        | none => .ok (none, cs)
      let (stop, cs) ← match start, cs with
        | some _, ',' :: rest =>
          let rest := rest.dropWhile blank
          match ← address? style rest with
          | some (a, rest) => .ok (some a, rest.dropWhile blank)
          | none => .error (.unexpectedComma, rest.length - 1)
        | _, cs => .ok (none, cs)
      let (negated, cs) ← match cs with
        | '!' :: rest =>
          match rest.dropWhile blank with
          | '!' :: rest => .error (.severalMarks, rest.length)
          | rest => .ok (true, rest)
        | cs => .ok (false, cs)
      let (action, rest) ← action style start stop cs
      .ok ({ start, stop, negated, action } :: (← commands style steps rest))

/-! ## Editing -/

/-- A line being edited, and what has been printed for it. -/
structure Editing where
  line : String
  printed : List String := []
  deleted : Bool := false
  /-- The status with which the editor stops. -/
  ended : Option Nat := none

def subject (line : String) (foldCase : Bool) : Regex.Subject := ⟨line.toList.toArray, foldCase⟩

def Address.fits (a : Address) (number : Nat) (isLast : Bool) (line : String) : Bool :=
  match a with
  | .line n => n == number
  | .last => isLast
  | .pattern r foldCase => r.occurs (subject line foldCase)

def expand (line : List Char) (start : Nat) (h : Regex.Hit) : List Piece → List Char
  | [] => []
  | .text c :: rest => c :: expand line start h rest
  | .group 0 :: rest => (line.drop start).take (h.stop - start) ++ expand line start h rest
  | .group n :: rest =>
    match h.groups.find? fun g => g.1 == n with
    | some (_, a, b) => (line.drop a).take (b - a) ++ expand line start h rest
    | none => expand line start h rest

/-- Replace matches from a position on, `skipped` of them left as they are; gives the rest of the
line and whether one was replaced. A match of nothing does not count at the place where the match
before it ended, which `joined` tells. -/
def replaceFrom (s : Regex.Subject) (r : Regex) (pieces : List Piece) (everywhere : Bool) :
    Nat → Nat → Bool → Nat → List Char × Bool
  | 0, _, _, start => (s.line.toList.drop start, false)
  | steps + 1, skipped, joined, start =>
    match r.findFrom? s start with
    | none => (s.line.toList.drop start, false)
    | some (i, h) =>
      let line := s.line.toList
      let before := (line.drop start).take (i - start)
      let isEmpty := h.stop == i
      let counts := !(isEmpty && joined && i == start)
      let replaces := counts && skipped == 0
      let put := if replaces then expand line i h pieces else (line.drop i).take (h.stop - i)
      let skipped := if counts then skipped - 1 else skipped
      if replaces && !everywhere then (before ++ put ++ line.drop h.stop, true)
      else if isEmpty then
        if i < line.length then
          let (rest, found) := replaceFrom s r pieces everywhere steps skipped false (i + 1)
          (before ++ put ++ (line.drop i).take 1 ++ rest, replaces || found)
        else (before ++ put, replaces)
      else
        let (rest, found) := replaceFrom s r pieces everywhere steps skipped true h.stop
        (before ++ put ++ rest, replaces || found)

def apply (number : Nat) (e : Editing) : Action → Editing
  | .print => { e with printed := e.printed ++ [e.line] }
  | .delete => { e with deleted := true }
  | .quit silently status => { e with ended := some status, deleted := silently }
  | .lineNumber => { e with printed := e.printed ++ [toString number] }
  | .replace r pieces options =>
    let (line, found) :=
      replaceFrom (subject e.line options.foldCase) r pieces options.everywhere
        (e.line.length + 2) (options.first - 1) false 0
    if found then
      let line := String.ofList line
      { e with line, printed := if options.prints then e.printed ++ [line] else e.printed }
    else e
  | .exchange pairs =>
    { e with line := String.ofList (e.line.toList.map fun c => (pairs.lookup c).getD c) }

/-- Is the range of a command open before the first line? -/
def isOpenAtOnce (c : Command) : Bool :=
  match c.start with
  | some (.line 0) => true
  | _ => false

/-- Is the command meant for this line, and is its range open behind it? -/
def covers (c : Command) (isOpen : Bool) (number : Nat) (isLast : Bool) (line : String) :
    Bool × Bool :=
  match c.start, c.stop with
  | none, _ => (true, false)
  | some a, none => (a.fits number isLast line, false)
  | some a, some b =>
    if isOpen then
      match b with
      | .line n => (number ≤ n, number < n)
      | b => (true, !b.fits number isLast line)
    else if a.fits number isLast line then
      match b with
      | .line n => (true, number < n)
      | .last => (true, !isLast)
      | .pattern _ _ => (true, true)
    else (false, false)

/-- Apply commands, each with whether its range is open, to one line. -/
def applyAll (number : Nat) (isLast : Bool) (e : Editing) :
    List (Command × Bool) → Editing × List (Command × Bool)
  | [] => (e, [])
  | (c, isOpen) :: rest =>
    if e.deleted || e.ended.isSome then (e, (c, isOpen) :: rest)
    else
      let (here, after) := covers c isOpen number isLast e.line
      let e := if here != c.negated then apply number e c.action else e
      let (e, rest) := applyAll number isLast e rest
      (e, (c, after) :: rest)

/-- What has come of going through lines. -/
structure Outcome where
  printed : List String := []
  /-- The status if a command stopped the editor. -/
  ended : Option Nat := none
  /-- Does what was printed go on up to the last line? -/
  reachesEnd : Bool := false

/-- Go through lines. -/
def run (silent : Bool) (number : Nat) (commands : List (Command × Bool)) : List String → Outcome
  | [] => {}
  | line :: rest =>
    let (e, commands) := applyAll number rest.isEmpty { line } commands
    let out := e.printed ++ if silent || e.deleted then [] else [e.line]
    if rest.isEmpty || e.ended.isSome then ⟨out, e.ended, rest.isEmpty && !out.isEmpty⟩
    else
      let more := run silent (number + 1) commands rest
      { more with printed := out ++ more.printed }

end Sed

def sed (c : Call) : Reply :=
  let (given, operands) := switches ['e', 'f'] none c.arguments
  let silent := hasSwitch given 'n'
  let style : RegexStyle := if hasSwitch given 'E' || hasSwitch given 'r' then .extended else .basic
  let scripts := (given.filter fun g => g.1 == 'e').map (·.2)
  let (scripts, files) := match scripts, operands with
    | [], script :: files => ([script], files)
    | scripts, files => (scripts, files)
  let script := (String.intercalate "\n" scripts).toList
  match Sed.commands style (script.length + 1) script with
  | .error (fault, left) =>
    c.fail s!"sed: -e expression #1, char {script.length - left}: {fault.message}"
  | .ok commands =>
    let files := if files.isEmpty then ["-"] else files
    let read := files.foldl (fun (text, err, input) file =>
      match c.readOrInput file with
      | .ok more => (text ++ more, err, input || file == "-")
      | .error e => (text, err ++ s!"sed: can't read {file}: {reason e}\n", input)) ("", "", false)
    let (text, err, readsInput) := read
    let lines := linesOf text
    let outcome := Sed.run silent 1 (commands.map fun c => (c, Sed.isOpenAtOnce c)) lines
    let status := outcome.ended.getD (if err.isEmpty then 0 else 2)
    { c.reply (joinLike text outcome.printed outcome.reachesEnd) status err with readsInput }

end FeatureSurvey.Utility
