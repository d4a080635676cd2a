import FeatureSurvey.Shell.Script

/-!
# `Shell/Reader.lean` — reading shell scripts

A script is read character by character, since what a character means depends on where it
stands. Commands are joined by `;`, line ends, `|`, `&&` and `||`; words end at blanks and at
these characters; some words at the place of a command open or close a construct. Every reader
gives back the characters it left, and none if the text is no script.

The readers call one another, and each call either takes a character or goes down the grammar;
the number handed down bounds the calls.
-/

set_option autoImplicit false

namespace FeatureSurvey.Shell

/-! ## Characters -/

def isNameStart (c : Char) : Bool := c.isAlpha || c == '_'

def isNameChar (c : Char) : Bool := c.isAlphanum || c == '_'

/-- A character that ends a word. -/
def endsWord (c : Char) : Bool :=
  c == ' ' || c == '\t' || c == '\n' || c == ';' || c == '&' || c == '|' || c == '<' || c == '>' ||
    c == '(' || c == ')'

/-- Parameters with a name of one character. -/
def isSpecialName (c : Char) : Bool :=
  c == '@' || c == '*' || c == '#' || c == '?' || c == '$' || c == '!' || c == '-'

def skipBlanks : List Char → List Char
  | ' ' :: cs => skipBlanks cs
  | '\t' :: cs => skipBlanks cs
  | '\\' :: '\n' :: cs => skipBlanks cs
  | cs => cs

/-- Drop a comment, up to the line feed. -/
def skipComment : List Char → List Char
  | '#' :: cs => cs.dropWhile fun c => c != '\n'
  | cs => cs

/-- Drop blanks, comments and line feeds; the number bounds the steps. -/
def skipLines : Nat → List Char → List Char
  | 0, cs => cs
  | steps + 1, cs =>
    match skipComment (skipBlanks cs) with
    | '\n' :: cs => skipLines steps cs
    | cs => cs

/-- The letters of the word at the front, as they are written. -/
def leadingWord (cs : List Char) : String := String.ofList (cs.takeWhile fun c => !endsWord c)

/-- Words that end a construct at the place of a command. -/
def closesConstruct (word : String) : Bool :=
  ["then", "else", "elif", "fi", "do", "done", "esac", "\x7d"].contains word

/-- Does a list of commands end here? -/
def endsList (cs : List Char) : Bool :=
  match cs with
  | [] => true
  | ')' :: _ => true
  | ';' :: ';' :: _ => true
  | _ => closesConstruct (leadingWord cs)

/-- Drop a word that has to stand here. -/
def dropWord? (word : String) (cs : List Char) : Option (List Char) :=
  if leadingWord cs == word then some (cs.drop word.length) else none

/-- Put a character before pieces, into the first one if that is text of the same kind. -/
def consChar (c : Char) (quoted : Bool) : Word → Word
  | .text s q :: rest =>
    if q == quoted then .text (String.singleton c ++ s) q :: rest
    else .text (String.singleton c) quoted :: .text s q :: rest
  | rest => .text (String.singleton c) quoted :: rest

/-- The text up to a quote, and what follows it. -/
def upToQuote? : List Char → Option (List Char × List Char)
  | [] => none
  | '\x27' :: cs => some ([], cs)
  | c :: cs => (upToQuote? cs).map fun (s, rest) => (c :: s, rest)

/-- The script between backquotes, with its escapes undone, and what follows it. -/
def upToBackquote? : List Char → Option (List Char × List Char)
  | [] => none
  | '\x60' :: cs => some ([], cs)
  | '\\' :: c :: cs =>
    (upToBackquote? cs).map fun (s, rest) =>
      if c == '$' || c == '\x60' || c == '\\' then (c :: s, rest) else ('\\' :: c :: s, rest)
  | c :: cs => (upToBackquote? cs).map fun (s, rest) => (c :: s, rest)

/-- The text of an arithmetic expression up to its two closing parentheses. -/
def upToParens? : Nat → List Char → Option (List Char × List Char)
  | _, [] => none
  | 0, ')' :: ')' :: cs => some ([], cs)
  | depth, '(' :: cs => (upToParens? (depth + 1) cs).map fun (s, rest) => ('(' :: s, rest)
  | depth + 1, ')' :: cs => (upToParens? depth cs).map fun (s, rest) => (')' :: s, rest)
  | depth, c :: cs => (upToParens? depth cs).map fun (s, rest) => (c :: s, rest)

/-- The name of a parameter behind an opening brace. -/
def bracedName? (cs : List Char) : Option (String × List Char) :=
  match cs with
  | [] => none
  | c :: rest =>
    if isNameStart c then
      some (String.ofList (cs.takeWhile isNameChar), cs.dropWhile isNameChar)
    else if c.isDigit then
      some (String.ofList (cs.takeWhile Char.isDigit), cs.dropWhile Char.isDigit)
    else if isSpecialName c then some (String.singleton c, rest)
    else none

/-- The file descriptor and mode of a redirection, and what follows them. -/
def redirection? (cs : List Char) : Option (Nat × RedirectionMode × List Char) :=
  let digits := cs.takeWhile Char.isDigit
  let descriptor (usual : Nat) : Nat :=
    if digits.isEmpty then usual
    else digits.foldl (fun n c => n * 10 + (c.toNat - '0'.toNat)) 0
  match cs.dropWhile Char.isDigit with
  | '>' :: '>' :: rest => some (descriptor 1, .append, rest)
  | '>' :: '&' :: rest => some (descriptor 1, .duplicate, rest)
  | '>' :: '|' :: rest => some (descriptor 1, .write, rest)
  | '>' :: rest => some (descriptor 1, .write, rest)
  | '<' :: '&' :: rest => some (descriptor 0, .duplicate, rest)
  | '<' :: '<' :: _ => none
  | '<' :: rest => some (descriptor 0, .read, rest)
  | _ => none

/-- The name that is given a value here, and what follows the equals sign. -/
def assignment? (cs : List Char) : Option (String × List Char) :=
  let name := cs.takeWhile isNameChar
  match name, cs.dropWhile isNameChar with
  | c :: _, '=' :: rest => if isNameStart c then some (String.ofList name, rest) else none
  | _, _ => none

/-- The name of a function that is defined here, and what follows the parentheses. -/
def definition? (cs : List Char) : Option (String × List Char) :=
  let name := cs.takeWhile isNameChar
  match name, skipBlanks (cs.dropWhile isNameChar) with
  | c :: _, '(' :: rest =>
    match skipBlanks rest with
    | ')' :: rest => if isNameStart c then some (String.ofList name, rest) else none
    | _ => none
  | _, _ => none

/-- Where pieces of a word are read: outside of quotes, or between double quotes. A brace may be
what ends them. -/
structure Setting where
  double : Bool
  brace : Bool

/-- Does the word end at this character? -/
def Setting.endsAt (p : Setting) (c : Char) : Bool :=
  if p.brace then c == '\x7d' else if p.double then c == '"' else endsWord c

mutual

/-- The pieces of a word up to its end, which is left. -/
def pieces? : Nat → Setting → List Char → Option (Word × List Char)
  | 0, _, _ => none
  | _, p, [] => if p.double || p.brace then none else some ([], [])
  | fuel + 1, p, c :: cs =>
    if p.endsAt c then some ([], c :: cs)
    else if c == '\\' then
      match cs with
      | [] => some ([.text "\\" true], [])
      | '\n' :: cs => pieces? fuel p cs
      | d :: cs => do
        let (rest, left) ← pieces? fuel p cs
        if p.double && !(d == '$' || d == '\x60' || d == '"' || d == '\\') then
          some (consChar '\\' true (consChar d true rest), left)
        else some (consChar d true rest, left)
    else if c == '\x27' && !p.double then do
      let (s, cs) ← upToQuote? cs
      let (rest, left) ← pieces? fuel p cs
      some (.text (String.ofList s) true :: rest, left)
    else if c == '"' then do
      let (inner, cs) ← pieces? fuel ⟨true, false⟩ cs
      match cs with
      | '"' :: cs =>
        let (rest, left) ← pieces? fuel p cs
        some (.text "" true :: inner ++ rest, left)
      | _ => none
    else if c == '$' then do
      let (piece, cs) ← dollar? fuel p cs
      let (rest, left) ← pieces? fuel p cs
      some (piece :: rest, left)
    else if c == '\x60' then do
      let (body, cs) ← upToBackquote? cs
      let (script, _) ← list? fuel body
      let (rest, left) ← pieces? fuel p cs
      some (.output script p.double :: rest, left)
    else do
      let (rest, left) ← pieces? fuel p cs
      some (consChar c p.double rest, left)

/-- What a dollar sign puts in. -/
def dollar? : Nat → Setting → List Char → Option (WordPiece × List Char)
  | 0, _, _ => none
  | fuel + 1, p, cs =>
    match cs with
    | '(' :: '(' :: cs => do
      let (body, rest) ← upToParens? 0 cs
      let (word, _) ← pieces? fuel ⟨true, true⟩ (body ++ ['\x7d'])
      some (.arithmetic word p.double, rest)
    | '(' :: cs => do
      let (script, rest) ← list? fuel cs
      match rest with
      | ')' :: rest => some (.output script p.double, rest)
      | _ => none
    | '\x7b' :: '#' :: cs => do
      match cs with
      | '\x7d' :: rest => some (.parameter "#" .none p.double, rest)
      | _ =>
        let (name, rest) ← bracedName? cs
        match rest with
        | '\x7d' :: rest => some (.parameter name .length p.double, rest)
        | _ => none
    | '\x7b' :: cs => do
      let (name, rest) ← bracedName? cs
      let (change, rest) ← change? fuel p rest
      match rest with
      | '\x7d' :: rest => some (.parameter name change p.double, rest)
      | _ => none
    | c :: rest =>
      if isNameStart c then
        some (.parameter (String.ofList (cs.takeWhile isNameChar)) .none p.double,
          cs.dropWhile isNameChar)
      else if c.isDigit || isSpecialName c then
        some (.parameter (String.singleton c) .none p.double, rest)
      else some (.text "$" true, cs)
    | [] => some (.text "$" true, [])

/-- The change that follows the name of a parameter, up to the closing brace. -/
def change? : Nat → Setting → List Char → Option (Change × List Char)
  | 0, _, _ => none
  | fuel + 1, p, cs =>
    let word (cs : List Char) : Option (Word × List Char) := pieces? fuel ⟨p.double, true⟩ cs
    let pattern (cs : List Char) : Option (Word × List Char) := pieces? fuel ⟨false, true⟩ cs
    let offer (make : Word → Change) (r : Option (Word × List Char)) :
        Option (Change × List Char) :=
      r.map fun (w, rest) => (make w, rest)
    match cs with
    | ':' :: '-' :: cs => offer (.fallback true) (word cs)
    | '-' :: cs => offer (.fallback false) (word cs)
    | ':' :: '=' :: cs => offer (.assign true) (word cs)
    | '=' :: cs => offer (.assign false) (word cs)
    | ':' :: '?' :: cs => offer (.complain true) (word cs)
    | '?' :: cs => offer (.complain false) (word cs)
    | ':' :: '+' :: cs => offer (.instead true) (word cs)
    | '+' :: cs => offer (.instead false) (word cs)
    | '#' :: '#' :: cs => offer (.cutFront true) (pattern cs)
    | '#' :: cs => offer (.cutFront false) (pattern cs)
    | '%' :: '%' :: cs => offer (.cutBack true) (pattern cs)
    | '%' :: cs => offer (.cutBack false) (pattern cs)
    | cs => some (.none, cs)

/-- A word outside of quotes, at least one character long. -/
def word? : Nat → List Char → Option (Word × List Char)
  | 0, _ => none
  | fuel + 1, cs =>
    match cs with
    | [] => none
    | c :: _ => if endsWord c then none else pieces? fuel ⟨false, false⟩ cs

/-- Redirections, one after another. -/
def redirections? : Nat → List Char → Option (List Redirection × List Char)
  | 0, _ => none
  | fuel + 1, cs =>
    match redirection? (skipBlanks cs) with
    | none => some ([], cs)
    | some (descriptor, mode, rest) => do
      let (target, rest) ← word? fuel (skipBlanks rest)
      let (others, rest) ← redirections? fuel rest
      some (.mk descriptor mode target :: others, rest)

/-- The rest of a simple command that began `feedsLeft` line feeds before the end of the text;
assignments come before words. -/
def simple? : Nat → Nat → List (String × Word) → List Word → List Redirection → List Char →
    Option (Script × List Char)
  | 0, _, _, _, _, _ => none
  | fuel + 1, feedsLeft, assignments, words, redirections, cs => do
    let cs := skipBlanks cs
    match redirection? cs with
    | some (descriptor, mode, rest) =>
      let (target, rest) ← word? fuel (skipBlanks rest)
      simple? fuel feedsLeft assignments words (redirections ++ [.mk descriptor mode target]) rest
    | none =>
      let done : Script := .simple feedsLeft assignments words redirections
      match cs with
      | [] => some (done, [])
      | '#' :: _ => some (done, skipComment cs)
      | c :: _ =>
        if endsWord c then some (done, cs)
        else
          match words, assignment? cs with
          | [], some (name, rest) =>
            let (value, rest) ← pieces? fuel ⟨false, false⟩ rest
            simple? fuel feedsLeft (assignments ++ [(name, value)]) words redirections rest
          | _, _ =>
            let (w, rest) ← word? fuel cs
            simple? fuel feedsLeft assignments (words ++ [w]) redirections rest

/-- The words of a loop over words, up to the end of the command. -/
def words? : Nat → List Char → Option (List Word × List Char)
  | 0, _ => none
  | fuel + 1, cs =>
    match skipBlanks cs with
    | [] => some ([], [])
    | c :: cs =>
      if endsWord c then some ([], c :: cs)
      else do
        let (w, rest) ← word? fuel (c :: cs)
        let (others, rest) ← words? fuel rest
        some (w :: others, rest)

/-- The patterns of a case, up to the closing parenthesis. -/
def patterns? : Nat → List Char → Option (List Word × List Char)
  | 0, _ => none
  | fuel + 1, cs => do
    let (w, rest) ← word? fuel (skipBlanks cs)
    match skipBlanks rest with
    | '|' :: rest =>
      let (others, rest) ← patterns? fuel rest
      some (w :: others, rest)
    | ')' :: rest => some ([w], rest)
    | _ => none

/-- The cases of a choice, up to its closing word. -/
def cases? : Nat → List Char → Option (List (List Word × Script) × List Char)
  | 0, _ => none
  | fuel + 1, cs => do
    let cs := skipLines cs.length cs
    match dropWord? "esac" cs with
    | some rest => some ([], rest)
    | none =>
      let cs := match cs with
        | '(' :: rest => rest
        | cs => cs
      let (patterns, rest) ← patterns? fuel cs
      let (body, rest) ← list? fuel rest
      let rest := match rest with
        | ';' :: ';' :: rest => rest
        | rest => rest
      let (others, rest) ← cases? fuel rest
      some ((patterns, body) :: others, rest)

/-- What follows the condition of a branch. -/
def branch? : Nat → List Char → Option (Script × List Char)
  | 0, _ => none
  | fuel + 1, cs => do
    let (condition, rest) ← list? fuel cs
    let (yes, rest) ← list? fuel (← dropWord? "then" rest)
    if let some rest := dropWord? "elif" rest then
      let (no, rest) ← branch? fuel rest
      some (.branch condition yes no, rest)
    else if let some rest := dropWord? "else" rest then
      let (no, rest) ← list? fuel rest
      some (.branch condition yes no, ← dropWord? "fi" rest)
    else some (.branch condition yes .nothing, ← dropWord? "fi" rest)

/-- The body of a loop. -/
def body? : Nat → List Char → Option (Script × List Char)
  | 0, _ => none
  | fuel + 1, cs => do
    let cs := skipLines cs.length cs
    let (body, rest) ← list? fuel (← dropWord? "do" cs)
    some (body, ← dropWord? "done" rest)

/-- A command that is no simple one, if one stands here. -/
def compound? : Nat → List Char → Option (Option (Script × List Char))
  | 0, _ => none
  | fuel + 1, cs => do
    match cs with
    | '(' :: rest =>
      let (body, rest) ← list? fuel rest
      match rest with
      | ')' :: rest => some (some (.subshell body, rest))
      | _ => none
    | _ =>
      let word := leadingWord cs
      let rest := cs.drop word.length
      if word == "\x7b" then
        let (body, rest) ← list? fuel rest
        some (some (body, ← dropWord? "\x7d" rest))
      else if word == "if" then (branch? fuel rest).map some
      else if word == "while" || word == "until" then
        let (condition, rest) ← list? fuel rest
        let (body, rest) ← body? fuel rest
        some (some (.loop (word == "until") condition body, rest))
      else if word == "for" then
        let rest := skipBlanks rest
        let name := leadingWord rest
        let rest := skipLines rest.length (rest.drop name.length)
        let (words, rest) ←
          match dropWord? "in" rest with
          | some rest => (words? fuel rest).map fun (ws, rest) => (some ws, rest)
          | none => some (none, rest)
        let rest := match skipBlanks rest with
          | ';' :: rest => rest
          | rest => rest
        let (body, rest) ← body? fuel rest
        some (some (.each name words body, rest))
      else if word == "case" then
        let (w, rest) ← word? fuel (skipBlanks rest)
        let rest ← dropWord? "in" (skipLines rest.length rest)
        let (cases, rest) ← cases? fuel rest
        some (some (.choose w cases, rest))
      else
        match definition? cs with
        | some (name, rest) =>
          let (body, rest) ← command? fuel (skipLines rest.length rest)
          some (some (.define name body, rest))
        | none => some none

/-- One command, with the redirections behind it. -/
def command? : Nat → List Char → Option (Script × List Char)
  | 0, _ => none
  | fuel + 1, cs => do
    match ← compound? fuel cs with
    | some (script, rest) =>
      match ← redirections? fuel rest with
      | ([], _) => some (script, rest)
      | (redirections, rest) => some (.redirected (cs.count '\n') script redirections, rest)
    | none => simple? fuel (cs.count '\n') [] [] [] cs

/-- Commands joined by pipes. -/
def pipeline? : Nat → List Char → Option (Script × List Char)
  | 0, _ => none
  | fuel + 1, cs =>
    match dropWord? "!" cs with
    | some rest => (pipeline? fuel (skipBlanks rest)).map fun (s, rest) => (.negate s, rest)
    | none => do
      let (first, rest) ← command? fuel cs
      match skipBlanks rest with
      | '|' :: '|' :: _ => some (first, rest)
      | '|' :: rest =>
        let (second, rest) ← pipeline? fuel (skipLines rest.length rest)
        some (.pipe first second, rest)
      | _ => some (first, rest)

/-- Pipelines joined by conditions, from left to right behind what has been read. -/
def conditions? : Nat → Script → List Char → Option (Script × List Char)
  | 0, _, _ => none
  | fuel + 1, before, cs =>
    match skipBlanks cs with
    | '&' :: '&' :: rest => do
      let (next, rest) ← pipeline? fuel (skipLines rest.length rest)
      conditions? fuel (.andThen before next) rest
    | '|' :: '|' :: rest => do
      let (next, rest) ← pipeline? fuel (skipLines rest.length rest)
      conditions? fuel (.orElse before next) rest
    | _ => some (before, cs)

/-- A list of commands, up to what ends it. -/
def list? : Nat → List Char → Option (Script × List Char)
  | 0, _ => none
  | fuel + 1, cs =>
    let cs := skipLines (cs.length + 1) cs
    if endsList cs then some (.nothing, cs)
    else do
      let (first, rest) ← pipeline? fuel cs
      let (first, rest) ← conditions? fuel first rest
      match skipComment (skipBlanks rest) with
      | ';' :: ';' :: rest => some (first, ';' :: ';' :: rest)
      | ';' :: rest => joined? fuel first rest
      | '&' :: rest => joined? fuel first rest
      | '\n' :: rest => joined? fuel first rest
      | rest => if endsList rest then some (first, rest) else none

/-- The list that goes on behind a command. -/
def joined? : Nat → Script → List Char → Option (Script × List Char)
  | 0, _, _ => none
  | fuel + 1, first, cs => do
    let (others, rest) ← list? fuel cs
    match others with
    | .nothing => some (first, rest)
    | others => some (.sequence first others, rest)

end

/-- Read a whole script. -/
def Script.read? (text : String) : Option Script := do
  let cs := text.toList
  let (script, rest) ← list? (8 * cs.length + 64) cs
  if rest.isEmpty then some script else none

end FeatureSurvey.Shell
