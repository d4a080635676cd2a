import FeatureSurvey.Pattern.Regex

/-!
# `Pattern/RegexReader.lean` — reading regular expressions

There are two ways to write an expression. In the extended one parentheses, braces, bars, plus
and question marks have a meaning of their own, and a backslash takes it away; in the basic one
they have it only behind a backslash. In the basic way an asterisk at the beginning stands for
itself, and the anchors are anchors only at the ends.

The reader goes by precedence: alternatives, sequences, repetitions, single expressions. Every
call takes a character or goes down one of these levels, which bounds the calls.
-/

set_option autoImplicit false

namespace FeatureSurvey

inductive RegexStyle where
  | basic | extended
  deriving DecidableEq, Repr

inductive RegexFault where
  | bracket | brokenBracket | collation | range | className
  | openGroup | closeGroup | trailingBackslash
  | openBrace | interval | tooBig | backReference
  deriving DecidableEq, Repr

def RegexFault.message : RegexFault → String
  | .bracket => "Unmatched [, [^, [:, [., or [="
  | .brokenBracket => "Invalid regular expression"
  | .collation => "Invalid collation character"
  | .range => "Invalid range end"
  | .className => "Invalid character class name"
  | .openGroup => "Unmatched ( or \\("
  | .closeGroup => "Unmatched ) or \\)"
  | .trailingBackslash => "Trailing backslash"
  | .openBrace => "Unmatched \\\x7b"
  | .interval => "Invalid content of \\\x7b\\\x7d"
  | .tooBig => "Regular expression too big"
  | .backReference => "Invalid back reference"

namespace RegexReader

/-! ## Sets -/

def classRanges? (name : String) : Option (List (Char × Char)) :=
  if name == "alpha" then some [('a', 'z'), ('A', 'Z')]
  else if name == "digit" then some [('0', '9')]
  else if name == "alnum" then some [('a', 'z'), ('A', 'Z'), ('0', '9')]
  else if name == "upper" then some [('A', 'Z')]
  else if name == "lower" then some [('a', 'z')]
  else if name == "space" then some [('\t', '\r'), (' ', ' ')]
  else if name == "blank" then some [('\t', '\t'), (' ', ' ')]
  else if name == "punct" then some [('!', '/'), (':', '@'), ('[', '\x60'), ('\x7b', '~')]
  else if name == "xdigit" then some [('0', '9'), ('a', 'f'), ('A', 'F')]
  else if name == "cntrl" then some [('\x00', '\x1f'), ('\x7f', '\x7f')]
  else if name == "graph" then some [('!', '~')]
  else if name == "print" then some [(' ', '~')]
  else none

/-- The name between two marks up to the mark and a closing bracket, and what follows. -/
def enclosed? (mark : Char) : List Char → Option (List Char × List Char)
  | [] => none
  | c :: rest =>
    if c == mark && rest.head? == some ']' then some ([], rest.drop 1)
    else (enclosed? mark rest).map fun (name, rest) => (c :: name, rest)

/-- A part of a set: a character, which may begin or end a range, or a class. -/
inductive SetPart where
  | char (c : Char)
  | ranges (rs : List (Char × Char))

/-- The part at the front, and what follows it. -/
def setPart : List Char → Except RegexFault (SetPart × List Char)
  | [] => .error .bracket
  | '[' :: ':' :: rest =>
    match enclosed? ':' rest with
    | none => .error .bracket
    | some (name, rest) =>
      match classRanges? (String.ofList name) with
      | some ranges => .ok (.ranges ranges, rest)
      | none => .error .className
  | '[' :: '.' :: rest =>
    match enclosed? '.' rest with
    | none => .error .bracket
    | some ([c], rest) => .ok (.char c, rest)
    | some _ => .error .collation
  | '[' :: '=' :: rest =>
    match enclosed? '=' rest with
    | none => .error .bracket
    | some ([c], rest) => .ok (.ranges [(c, c)], rest)
    | some _ => .error .collation
  | c :: rest => .ok (.char c, rest)

/-- The ranges of a set up to its closing bracket, and whether each was one plain character. The
number bounds the steps. -/
def setRanges : Nat → Bool → Bool → List (Char × Char) → List Char →
    Except RegexFault (List (Char × Char) × Bool × List Char)
  | 0, _, _, _, _ => .error .bracket
  | steps + 1, first, plain, acc, cs => do
    match cs, first with
    | ']' :: rest, false => .ok (acc, plain, rest)
    | _, _ =>
      if cs.head? == some '-' && !first && (cs.drop 1).head? != some ']' then .error .range
      let (part, rest) ← setPart cs
      let ranged : Bool := match rest with
        | '-' :: c :: _ => c != ']'
        | _ => false
      match part, ranged with
      | .char a, true =>
        match ← setPart (rest.drop 1) with
        | (.char b, rest) =>
          if b < a then .error .range else setRanges steps false false ((a, b) :: acc) rest
        | _ => .error .range
      | .char a, false =>
        setRanges steps false (plain && cs.head? == some a) ((a, a) :: acc) rest
      | .ranges rs, _ => setRanges steps false false (rs ++ acc) rest

/-- A class name in colons that lacks the brackets of its own. -/
def isNakedClass (plain : Bool) (cs : List Char) : Bool :=
  let inside := cs.takeWhile (· != ']')
  plain && inside.head? == some ':' && inside.getLast? == some ':' && inside.any (· != ':')

/-- The set behind an opening bracket, whether it looks like a class, and what follows it. -/
def set (cs : List Char) : Except RegexFault (CharSet × Bool × List Char) := do
  let negated := cs.head? == some '^'
  let body := if negated then cs.drop 1 else cs
  if body.isEmpty then .error .brokenBracket
  else
    let (ranges, plain, rest) ← setRanges (cs.length + 1) true true [] body
    .ok (⟨negated, ranges⟩, isNakedClass plain body, rest)

def wordSet (negated : Bool) : CharSet :=
  ⟨negated, [('a', 'z'), ('A', 'Z'), ('0', '9'), ('_', '_')]⟩

def spaceSet (negated : Bool) : CharSet := ⟨negated, [('\t', '\r'), (' ', ' ')]⟩

/-! ## Pieces with a meaning of their own -/

/-- What stands at the front: an operator, or a character for itself. -/
inductive Token where
  | open | close | bar | star | plus | option
  | brace
  | char (c : Char)
  | regex (r : Regex)
  | set
  | hat | dollar
  deriving Repr

/-- A character behind a backslash. -/
def escaped (style : RegexStyle) (c : Char) : Token :=
  let marked (token : Token) : Token := if style = .basic then token else .char c
  if c == '(' then marked .open
  else if c == ')' then marked .close
  else if c == '|' then marked .bar
  else if c == '+' then marked .plus
  else if c == '?' then marked .option
  else if c == '\x7b' then marked .brace
  else if c == 'w' then .regex (.one (wordSet false))
  else if c == 'W' then .regex (.one (wordSet true))
  else if c == 's' then .regex (.one (spaceSet false))
  else if c == 'S' then .regex (.one (spaceSet true))
  else if c == 'b' then .regex .wordEdge
  else if c == 'B' then .regex .noWordEdge
  else if c == '<' then .regex .wordStart
  else if c == '>' then .regex .wordEnd
  else if c == '\x60' then .regex .lineStart
  else if c == '\x27' then .regex .lineEnd
  else if '1' ≤ c ∧ c ≤ '9' then .regex (.again (c.toNat - '0'.toNat))
  else .char c

/-- A character without a backslash. -/
def bare (style : RegexStyle) (c : Char) : Token :=
  let own (token : Token) : Token := if style = .extended then token else .char c
  if c == '(' then own .open
  else if c == ')' then own .close
  else if c == '|' then own .bar
  else if c == '+' then own .plus
  else if c == '?' then own .option
  else if c == '\x7b' then own .brace
  else if c == '*' then .star
  else if c == '.' then .regex (.one ⟨true, [('\n', '\n')]⟩)
  else if c == '[' then .set
  else if c == '^' then .hat
  else if c == '$' then .dollar
  else .char c

/-- The token at the front, and what follows it. -/
def token (style : RegexStyle) : List Char → Except RegexFault (Option (Token × List Char))
  | [] => .ok none
  | ['\\'] => .error .trailingBackslash
  | '\\' :: c :: rest => .ok (some (escaped style c, rest))
  | c :: rest => .ok (some (bare style c, rest))

/-! ## Bounds -/

/-- What stands where a bound is due. -/
inductive Bound where
  | missing
  | number (n : Nat)
  | bad

/-- The greatest number of repetitions. -/
def mostRepetitions : Nat := 32767

def Bound.add (c : Char) : Bound → Bound
  | .bad => .bad
  | b =>
    if c.isDigit then
      let n := match b with
        | .number n => n
        | _ => 0
      .number (min (mostRepetitions + 1) (n * 10 + (c.toNat - '0'.toNat)))
    else .bad

/-- What follows a closing brace. -/
def closeBrace? (style : RegexStyle) : List Char → Option (List Char)
  | '\x7d' :: rest => if style = .extended then some rest else none
  | '\\' :: '\x7d' :: rest => if style = .basic then some rest else none
  | _ => none

/-- The bound up to a comma or the closing brace. -/
def bound (style : RegexStyle) : Bound → List Char → Bound × List Char
  | _, [] => (.bad, [])
  | b, c :: rest =>
    if c == ',' || (closeBrace? style (c :: rest)).isSome then (b, c :: rest)
    else bound style (b.add c) rest

/-- The bounds behind an opening brace, and what follows the closing one. In the extended style a
brace that begins no bounds stands for itself, which is what `none` says. -/
def bounds (style : RegexStyle) (cs : List Char) :
    Except RegexFault (Option (Nat × Option Nat × List Char)) :=
  let noBounds (rest : List Char) : Except RegexFault (Option (Nat × Option Nat × List Char)) :=
    if style = .extended then .ok none
    else if rest.isEmpty then .error .openBrace else .error .interval
  let checked (least : Nat) (most : Option Nat) (rest : List Char) :
      Except RegexFault (Option (Nat × Option Nat × List Char)) :=
    match closeBrace? style rest with
    | none => .error .interval
    | some rest =>
      if most.any (· < least) then .error .interval
      else if mostRepetitions < most.getD least then .error .tooBig
      else .ok (some (least, most, rest))
  let second (least : Nat) (rest : List Char) :
      Except RegexFault (Option (Nat × Option Nat × List Char)) :=
    match bound style .missing rest with
    | (.bad, rest) => noBounds rest
    | (.missing, rest) => checked least none rest
    | (.number most, rest) => checked least (some most) rest
  match bound style .missing cs with
  | (.bad, rest) => noBounds rest
  | (.missing, ',' :: rest) => second 0 rest
  | (.missing, _) => .error .interval
  | (.number least, ',' :: rest) => second least rest
  | (.number n, rest) => checked n (some n) rest

/-- Does an expression end here: at the end, or before a closing parenthesis or a bar? -/
def endsHere (style : RegexStyle) (cs : List Char) : Bool :=
  match token style cs with
  | .ok none => true
  | .ok (some (.close, _)) => true
  | .ok (some (.bar, _)) => true
  | _ => false

/-! ## The grammar -/

/-- Where in a sequence a reader is: at its start, behind nothing but anchors, or further on. -/
inductive Lead where
  | start | anchors | inside
  deriving DecidableEq

/-- Does an expression take no characters whatever the line? -/
def isAnchor : Regex → Bool
  | .empty | .lineStart | .lineEnd | .wordStart | .wordEnd | .wordEdge | .noWordEdge => true
  | _ => false

def Lead.behind (lead : Lead) (r : Regex) : Lead :=
  if lead != .inside && isAnchor r then .anchors else .inside

/-- What has been seen so far. -/
structure Seen where
  groups : Nat := 0
  /-- The groups that have been closed. -/
  closed : List Nat := []
  /-- The marks that have nothing to repeat, the last one first. -/
  loose : List Char := []
  /-- A set that looks like a class has been seen; what is loose behind it is not kept. -/
  nakedClass : Bool := false

def Seen.withLoose (s : Seen) (c : Char) : Seen :=
  if s.nakedClass then s else { s with loose := c :: s.loose }

/-- What a reader has come to: the expression, what it has seen, where in the sequence it is, and
what is left. -/
structure Step where
  regex : Regex
  seen : Seen
  lead : Lead
  rest : List Char

mutual

/-- Alternatives, up to the end or a closing parenthesis. -/
def alternatives (style : RegexStyle) : Nat → Nat → Seen → List Char → Except RegexFault Step
  | 0, _, _, _ => .error .openGroup
  | fuel + 1, depth, seen, cs => do
    let first ← sequence style fuel depth seen .start .empty cs
    match ← token style first.rest with
    | some (.bar, rest) =>
      let second ← alternatives style fuel depth first.seen rest
      .ok { second with regex := .either first.regex second.regex }
    | _ => .ok first

/-- A sequence behind what has been read of it. -/
def sequence (style : RegexStyle) :
    Nat → Nat → Seen → Lead → Regex → List Char → Except RegexFault Step
  | 0, _, _, _, _, _ => .error .openGroup
  | fuel + 1, depth, seen, lead, before, cs => do
    let further : Except RegexFault Step := do
      let item ← single style fuel depth seen lead cs
      let item := { item with lead := lead.behind item.regex }
      let item ← repetitions style fuel depth (isAnchor item.regex) item
      sequence style fuel depth item.seen item.lead (.sequence before item.regex) item.rest
    match ← token style cs with
    | none => .ok ⟨before, seen, lead, cs⟩
    | some (.bar, _) => .ok ⟨before, seen, lead, cs⟩
    | some (.close, _) =>
      if 0 < depth then .ok ⟨before, seen, lead, cs⟩
      else if style = .basic then .error .closeGroup else further
    | some _ => further

/-- One expression without repetitions. Of a mark with nothing to repeat it takes nothing. -/
def single (style : RegexStyle) :
    Nat → Nat → Seen → Lead → List Char → Except RegexFault Step
  | 0, _, _, _, _ => .error .openGroup
  | fuel + 1, depth, seen, lead, cs => do
    let found (r : Regex) (rest : List Char) : Except RegexFault Step := .ok ⟨r, seen, lead, rest⟩
    let char (c : Char) (rest : List Char) : Except RegexFault Step :=
      found (.one (.single c)) rest
    let mark (c : Char) (rest : List Char) : Except RegexFault Step :=
      if style = .extended then found .empty cs else char c rest
    match ← token style cs with
    | none => found .empty cs
    | some (.open, rest) =>
      let number := seen.groups + 1
      let inner ← alternatives style fuel (depth + 1) { seen with groups := number } rest
      match ← token style inner.rest with
      | some (.close, rest) =>
        let seen := { inner.seen with closed := number :: inner.seen.closed }
        .ok ⟨.group number inner.regex, seen, lead, rest⟩
      | _ => .error .openGroup
    | some (.set, rest) =>
      let (s, isNaked, rest) ← set rest
      .ok ⟨.one s, { seen with nakedClass := seen.nakedClass || isNaked }, lead, rest⟩
    | some (.regex (.again n), rest) =>
      if seen.closed.contains n then found (.again n) rest else .error .backReference
    | some (.regex r, rest) => found r rest
    | some (.hat, rest) =>
      if style = .extended || lead = .start then found .lineStart rest else char '^' rest
    | some (.dollar, rest) =>
      if style = .extended || endsHere style rest then found .lineEnd rest else char '$' rest
    | some (.char c, rest) => char c rest
    | some (.star, rest) => mark '*' rest
    | some (.plus, rest) => mark '+' rest
    | some (.option, rest) => mark '?' rest
    | some (.brace, rest) =>
      match lead, bounds style rest with
      | .inside, _ => char '\x7b' rest
      | _, .ok (some _) => mark '\x7b' rest
      | _, _ => char '\x7b' rest
    | some (.close, rest) => char ')' rest
    | some (.bar, _) => found .empty cs

/-- The repetition marks behind an expression. Behind nothing but anchors they are ordinary
characters in the basic style, and loose in the extended one. Right behind an anchor wrong bounds
are no bounds, and a parenthesis that follows the mark closes nothing. -/
def repetitions (style : RegexStyle) : Nat → Nat → Bool → Step → Except RegexFault Step
  | 0, _, _, s => .ok s
  | fuel + 1, depth, anchored, s => do
    let seen (mark : Char) : Seen := if s.lead = .inside then s.seen else s.seen.withLoose mark
    let again (mark : Char) (least : Nat) (most : Option Nat) (rest : List Char) :
        Except RegexFault Step := do
      -- An anchor ends its piece, so the mark begins one that runs on over the parenthesis.
      if anchored && 0 < depth then
        match ← token style rest with
        | some (.close, _) => .error .openGroup
        | _ => pure ()
      repetitions style fuel depth anchored
        { s with regex := .repeated s.regex least most, seen := seen mark, rest }
    if style = .basic && s.lead != .inside then .ok s
    else
      match ← token style s.rest with
      | some (.star, rest) => again '*' 0 none rest
      | some (.plus, rest) => again '+' 1 none rest
      | some (.option, rest) => again '?' 0 (some 1) rest
      | some (.brace, rest) =>
        match bounds style rest with
        | .ok (some (least, most, rest)) =>
          repetitions style fuel depth false
            ⟨.repeated s.regex least most, seen '\x7b', .inside, rest⟩
        | .ok none => .ok s
        | .error e => if anchored then .ok s else .error e
      | _ => .ok s

end

end RegexReader

/-- What a pattern says, and what is to be said about it: the marks that have nothing to repeat,
and whether a set looks like a class that lacks its own brackets. -/
structure Regex.Reading where
  regex : Regex
  loose : List Char
  nakedClass : Bool

/-- Read an expression. -/
def Regex.reading (style : RegexStyle) (pattern : String) : Except RegexFault Regex.Reading := do
  let cs := pattern.toList
  let step ← RegexReader.alternatives style (4 * cs.length + 8) 0 {} cs
  match ← RegexReader.token style step.rest with
  | none => .ok ⟨step.regex, step.seen.loose.reverse, step.seen.nakedClass⟩
  | some _ => .error .closeGroup

/-- The expression of a pattern. -/
def Regex.read (style : RegexStyle) (pattern : String) : Except RegexFault Regex :=
  (Regex.reading style pattern).map (·.regex)

end FeatureSurvey
