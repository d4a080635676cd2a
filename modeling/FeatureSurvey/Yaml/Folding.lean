import FeatureSurvey.Yaml.Cursor

/-!
# `Yaml/Folding.lean` — the texts of scalars

A scalar is written bare, in one of two kinds of quotes, or as a block. Bare and quoted scalars
are *folded*: white space inside a line is kept, a single line break becomes a blank, and of
several breaks the first one is dropped. A block keeps its breaks (literal) or folds the ones
between lines that do not start with a blank (folded), and its header says what becomes of the
breaks at its end.

Every reader takes a cursor right behind the opening mark and gives the text with the cursor
behind the scalar, or nothing if the text is malformed. The loops are bounded by the number of
characters left.
-/

set_option autoImplicit false

namespace FeatureSurvey.Yaml

/-! ## White space between two pieces -/

/-- White space met since the last piece of text: blanks on its line, or else a first break and
the breaks after it. -/
structure Gap where
  blanks : List Char
  first : List Char
  more : List Char
  broken : Bool

namespace Gap

def none : Gap := ⟨[], [], [], false⟩

/-- The gap behind an escaped line break, which stands for nothing. -/
def escaped : Gap := ⟨[], [], [], true⟩

/-- What the gap contributes to the text. -/
def text (g : Gap) : List Char :=
  if g.broken then
    if g.first.head? = some '\n' then if g.more.isEmpty then [' '] else g.more
    else g.first ++ g.more
  else g.blanks

end Gap

/-- Take all white space. In a bare scalar (`indent` given) a tab may not stand where the next
line's indentation is decided. -/
def takeGap? (indent : Option Int) : Nat → Gap → Cursor → Option (Gap × Cursor)
  | 0, gap, c => some (gap, c)
  | fuel + 1, gap, c =>
    match c.rest with
    | [] => some (gap, c)
    | x :: _ =>
      if isBlankChar x then
        if gap.broken && x == '\t' && (indent.any fun i => (c.column : Int) < i) then none
        else
          let gap := if gap.broken then gap else { gap with blanks := gap.blanks ++ [x] }
          takeGap? indent fuel gap (c.skip 1)
      else if isBreakChar x then
        let (b, c) := c.takeBreak
        let gap : Gap :=
          if gap.broken then { gap with more := gap.more ++ b } else ⟨[], b, [], true⟩
        takeGap? indent fuel gap c
      else some (gap, c)

/-! ## Bare scalars -/

def isFlowIndicator (c : Char) : Bool :=
  c == ',' || c == '[' || c == ']' || c == '\x7b' || c == '\x7d'

/-- The length of the piece up to white space or an indicator that ends a bare scalar. Inside
brackets a colon right in front of another indicator is an error. -/
def plainPiece? (flow : Bool) : List Char → Option Nat
  | [] => some 0
  | c :: cs =>
    if isBlankChar c || isBreakChar c then some 0
    else if flow && c == ':' && (cs.head?.any fun d => isFlowIndicator d || d == '?') then none
    else if (c == ':' && endsWord cs) || (flow && isFlowIndicator c) then some 0
    else (plainPiece? flow cs).map (· + 1)

/-- A bare scalar, with the gap behind it: its text, whether a line break follows, and where it
ends. `indent` is the least column of its further lines. -/
def plain? (flow : Bool) (indent : Int) :
    Nat → List Char → Gap → Cursor → Option (List Char × Bool × Cursor)
  | 0, _, _, _ => none
  | fuel + 1, text, gap, c =>
    if c.atDocumentMarker || c.rest.head? == some '#' then some (text, gap.broken, c)
    else do
      let n ← plainPiece? flow c.rest
      let (text, gap) :=
        if n = 0 then (text, gap) else (text ++ gap.text ++ c.rest.take n, Gap.none)
      let c := c.skip n
      if !(startsBlank c.rest || startsBreak c.rest) then some (text, gap.broken, c)
      else
        let (gap, c) ← takeGap? (some indent) (c.rest.length + 1) gap c
        if !flow && (c.column : Int) < indent then some (text, gap.broken, c)
        else plain? flow indent fuel text gap c

/-! ## Quoted scalars -/

def hexDigitValue? (c : Char) : Option Nat :=
  if c.isDigit then some (c.toNat - '0'.toNat)
  else if 'a' ≤ c ∧ c ≤ 'f' then some (c.toNat - 'a'.toNat + 10)
  else if 'A' ≤ c ∧ c ≤ 'F' then some (c.toNat - 'A'.toNat + 10)
  else none

/-- A code point written with exactly `n` hexadecimal digits. -/
def codePoint? (n : Nat) (cs : List Char) : Option Char := do
  let ds := cs.take n
  if ds.length ≠ n then none
  else
    let values ← ds.mapM hexDigitValue?
    let k := values.foldl (fun k d => k * 16 + d) 0
    if (0xD800 ≤ k ∧ k ≤ 0xDFFF) ∨ 0x10FFFF < k then none else some (Char.ofNat k)

/-- What an escape stands for, and how many characters it takes after the backslash. -/
def escape? : List Char → Option (Char × Nat)
  | [] => none
  | c :: cs =>
    match c with
    | '0' => some ('\x00', 1)
    | 'a' => some ('\x07', 1)
    | 'b' => some ('\x08', 1)
    | 't' => some ('\t', 1)
    | '\t' => some ('\t', 1)
    | 'n' => some ('\n', 1)
    | 'v' => some ('\x0b', 1)
    | 'f' => some ('\x0c', 1)
    | 'r' => some ('\r', 1)
    | 'e' => some ('\x1b', 1)
    | ' ' => some (' ', 1)
    | '"' => some ('"', 1)
    | '/' => some ('/', 1)
    | '\\' => some ('\\', 1)
    | 'N' => some ('\x85', 1)
    | '_' => some ('\u00a0', 1)
    | 'L' => some ('\u2028', 1)
    | 'P' => some ('\u2029', 1)
    | 'x' => (codePoint? 2 cs).map (·, 3)
    | 'u' => (codePoint? 4 cs).map (·, 5)
    | 'U' => (codePoint? 8 cs).map (·, 9)
    | _ => none

/-- The characters up to white space or the closing quote. The flag says that an escaped line
break ended the piece. -/
def quotedPiece? (quote : Char) :
    Nat → List Char → Cursor → Option (List Char × Bool × Cursor)
  | 0, _, _ => none
  | fuel + 1, text, c =>
    match c.rest with
    | [] => some (text, false, c)
    | x :: rest =>
      if isBlankChar x || isBreakChar x then some (text, false, c)
      else if x == quote then
        if quote == '\x27' && rest.head? == some quote then
          quotedPiece? quote fuel (text ++ [quote]) (c.skip 2)
        else some (text, false, c)
      else if quote == '"' && x == '\\' then
        if startsBreak rest then some (text, true, (c.skip 1).takeBreak.2)
        else do
          let (e, n) ← escape? rest
          quotedPiece? quote fuel (text ++ [e]) (c.skip (n + 1))
      else quotedPiece? quote fuel (text ++ [x]) (c.skip 1)

/-- A quoted scalar, up to and with its closing quote. -/
def quoted? (quote : Char) : Nat → List Char → Cursor → Option (List Char × Cursor)
  | 0, _, _ => none
  | fuel + 1, text, c =>
    if c.atDocumentMarker || c.rest.isEmpty then none
    else do
      let (piece, escaped, c) ← quotedPiece? quote (c.rest.length + 1) [] c
      let text := text ++ piece
      if !escaped && c.rest.head? == some quote then some (text, c.skip 1)
      else
        let gap := if escaped then Gap.escaped else Gap.none
        let (gap, c) ← takeGap? none (c.rest.length + 1) gap c
        quoted? quote fuel (text ++ gap.text) c

/-! ## Blocks -/

/-- What becomes of the line breaks at the end of a block. -/
inductive Chomping where
  | strip | clip | keep
  deriving DecidableEq, Repr

def chompingOf? : Char → Option Chomping
  | '+' => some .keep
  | '-' => some .strip
  | _ => none

/-- The header: chomping mark and indentation digit, in either order. -/
def blockHeader? (c : Cursor) : Option (Chomping × Nat × Cursor) :=
  let digit? (c : Cursor) : Option (Nat × Cursor) :=
    match c.rest with
    | d :: _ =>
      if d.isDigit then if d = '0' then none else some (d.toNat - '0'.toNat, c.skip 1)
      else some (0, c)
    | [] => some (0, c)
  match c.rest.head?.bind chompingOf? with
  | some chomping => (digit? (c.skip 1)).map fun (n, c) => (chomping, n, c)
  | none => do
    let (n, c) ← digit? c
    if n = 0 then some (.clip, 0, c)
    else
      match c.rest.head?.bind chompingOf? with
      | some chomping => some (chomping, n, c.skip 1)
      | none => some (.clip, n, c)

/-- Take the empty lines in front of a line of text. `indent` is the block's indentation, zero
while it is unknown; the greatest column met is given back as well. -/
def blockBreaks? (indent : Nat) :
    Nat → Nat → List Char → Cursor → Option (Nat × List Char × Cursor)
  | 0, _, _, _ => none
  | fuel + 1, deepest, breaks, c =>
    let run := c.rest.takeWhile (· == ' ')
    let n := if indent = 0 then run.length else min run.length (indent - c.column)
    let c := c.skip n
    let deepest := max deepest c.column
    if (indent = 0 || c.column < indent) && c.rest.head? == some '\t' then none
    else if startsBreak c.rest then
      let (b, c) := c.takeBreak
      blockBreaks? indent fuel deepest (breaks ++ b) c
    else some (deepest, breaks, c)

/-- The lines of a block. `leading` is the break behind the line before and `trailing` the empty
lines after it; `blankBefore` says that the line before starts with a blank. -/
def blockLines? (folded : Bool) (indent : Nat) :
    Nat → List Char → List Char → List Char → Bool → Cursor →
      Option (List Char × List Char × List Char × Cursor)
  | 0, _, _, _, _, _ => none
  | fuel + 1, text, leading, trailing, blankBefore, c =>
    if c.column ≠ indent || c.rest.isEmpty then some (text, leading, trailing, c)
    else do
      let blankNow := startsBlank c.rest
      let joint :=
        if folded && leading.head? == some '\n' && !blankBefore && !blankNow then
          if trailing.isEmpty then [' '] else []
        else leading
      let (line, c) := c.takeWhile fun x => !isBreakChar x
      let (leading, c) := c.takeBreak
      let text' := text ++ joint ++ trailing ++ line
      let (_, trailing, c) ← blockBreaks? indent (c.rest.length + 1) 0 [] c
      blockLines? folded indent fuel text' leading trailing blankNow c

/-- A block scalar, from behind its `|` or `>`. `outer` is the indentation it stands in. -/
def block? (folded : Bool) (outer : Int) (c : Cursor) : Option (List Char × Cursor) := do
  let (chomping, increment, c) ← blockHeader? c
  let c := c.skipWhile isBlankChar
  let c := if c.rest.head? == some '#' then c.skipWhile (!isBreakChar ·) else c
  if !endsLine c.rest then none
  else
    let c := c.takeBreak.2
    let given : Nat :=
      if increment = 0 then 0 else if 0 ≤ outer then outer.toNat + increment else increment
    let (deepest, trailing, c) ← blockBreaks? given (c.rest.length + 1) 0 [] c
    let indent := if given = 0 then max (max deepest (outer + 1).toNat) 1 else given
    let (text, leading, trailing, c) ←
      blockLines? folded indent (c.rest.length + 1) [] [] trailing false c
    match chomping with
    | .strip => some (text, c)
    | .clip => some (text ++ leading, c)
    | .keep => some (text ++ leading ++ trailing, c)

end FeatureSurvey.Yaml
