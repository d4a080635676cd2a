import FeatureSurvey.Yaml.Folding
import FeatureSurvey.Yaml.Token

/-!
# `Yaml/Scanner.lean` — from text to tokens

The scanner knows three things besides the place it stands at: how deep the flow brackets are
nested, at which columns the open blocks began, and whether a key without a question mark may
begin here. Such a key is recognised only when its colon arrives; then the mark for the key, and
the opening of a block mapping if one is due, are put in front of the tokens that turned out to
be the key. The key has to lie on one line and within 1024 characters.

`Scanner.next?` takes one token and whatever marks come with it; `scan?` repeats that to the end
of the text. Every step but the last takes a character, so the length of the text bounds them.
-/

set_option autoImplicit false

namespace FeatureSurvey.Yaml

/-- A place at which a key may have begun: before which token, and where in the text. It is
required to be a key if nothing else may stand at its column. -/
structure KeyPlace where
  required : Bool
  token : Nat
  index : Nat
  line : Nat
  column : Nat

structure Scanner where
  cursor : Cursor
  tokens : Array Token
  /-- For each level of flow brackets, innermost first, the key that may have begun there. The
  last one belongs to the text outside all brackets. -/
  keys : List (Option KeyPlace)
  indent : Int
  indents : List Int
  keyAllowed : Bool

namespace Scanner

def start (cs : List Char) : Scanner :=
  { cursor := .ofText cs, tokens := #[], keys := [none], indent := -1, indents := [],
    keyAllowed := true }

def inFlow (s : Scanner) : Bool := 1 < s.keys.length

def push (s : Scanner) (t : Token) : Scanner := { s with tokens := s.tokens.push t }

def insertAt (s : Scanner) (i : Nat) (t : Token) : Scanner :=
  { s with tokens := (s.tokens.extract 0 i).push t ++ s.tokens.extract i s.tokens.size }

/-! ## Keys -/

/-- The key place of the innermost level, replaced. -/
def setKey (s : Scanner) (k : Option KeyPlace) : Scanner := { s with keys := k :: s.keys.drop 1 }

/-- Give up the key that may have begun at the innermost level; an error if it had to be one. -/
def dropKey? (s : Scanner) : Option Scanner :=
  match s.keys.head?.join with
  | some k => if k.required then none else some (s.setKey none)
  | none => some s

/-- Give up, at every level, keys that began on an earlier line or too far back. -/
def dropStaleKeys? (s : Scanner) : Option Scanner := do
  let keys ← s.keys.mapM fun k =>
    match k with
    | some k =>
      if k.line < s.cursor.line || k.index + 1024 < s.cursor.index then
        if k.required then none else some none
      else some (some k)
    | none => some none
  some { s with keys }

/-- A key may begin with the token that comes next. -/
def markKey? (s : Scanner) : Option Scanner :=
  if s.keyAllowed then do
    let required := !s.inFlow && s.indent == (s.cursor.column : Int)
    let s ← s.dropKey?
    let c := s.cursor
    some (s.setKey (some ⟨required, s.tokens.size, c.index, c.line, c.column⟩))
  else some s

/-! ## Indentation -/

/-- Open a block at a column, in front of token `i` (or at the end), if it lies deeper. -/
def openBlock (s : Scanner) (column : Nat) (i : Option Nat) (t : Token) : Scanner :=
  if s.inFlow then s
  else if s.indent < (column : Int) then
    let s := { s with indents := s.indent :: s.indents, indent := column }
    match i with
    | some i => s.insertAt i t
    | none => s.push t
  else s

/-- Close the blocks that lie deeper than a column. -/
def closeBlocksFrom (column : Int) : Nat → Scanner → Scanner
  | 0, s => s
  | fuel + 1, s =>
    if column < s.indent then
      closeBlocksFrom column fuel
        { (s.push .blockEnd) with indent := s.indents.headD (-1), indents := s.indents.drop 1 }
    else s

def closeBlocks (s : Scanner) (column : Int) : Scanner :=
  if s.inFlow then s else closeBlocksFrom column (s.indents.length + 1) s

/-! ## Between tokens -/

/-- Pass over blanks, comments and line breaks. A tab counts as a blank only where no key may
begin; a line break outside brackets allows one. -/
def skipBetween : Nat → Scanner → Scanner
  | 0, s => s
  | fuel + 1, s =>
    let tabs := s.inFlow || !s.keyAllowed
    let c := s.cursor.skipWhile fun x => x == ' ' || (tabs && x == '\t')
    let c := if c.rest.head? == some '#' then c.skipWhile (!isBreakChar ·) else c
    if startsBreak c.rest then
      skipBetween fuel
        { s with cursor := c.takeBreak.2, keyAllowed := s.keyAllowed || !s.inFlow }
    else { s with cursor := c }

/-! ## Directives, anchors and tags -/

/-- A run of one to nine digits. -/
def number? (c : Cursor) : Option (Nat × Cursor) :=
  let (ds, c) := c.takeWhile Char.isDigit
  if ds.isEmpty || 9 < ds.length then none
  else some (ds.foldl (fun n d => n * 10 + (d.toNat - '0'.toNat)) 0, c)

/-- The characters that may occur in a tag as they are. Flow indicators may not, unless the tag
is spelled out in angle brackets. -/
def isUriChar (verbatim : Bool) (c : Char) : Bool :=
  isNameChar c || ";/?:@&=+$.%!~*\x27()".toList.contains c ||
    (verbatim && (c == ',' || c == '[' || c == ']'))

/-- Undo the `%` escapes of a tag, whose bytes have to be UTF-8. -/
def unescapeBytes? : List Char → Option (List UInt8)
  | [] => some []
  | '%' :: a :: b :: rest => do
    let x ← hexDigitValue? a
    let y ← hexDigitValue? b
    let rest ← unescapeBytes? rest
    some (UInt8.ofNat (x * 16 + y) :: rest)
  | c :: rest => do
    if c = '%' then none
    else
      let rest ← unescapeBytes? rest
      some ((String.singleton c).toUTF8.data.toList ++ rest)

def unescape? (cs : List Char) : Option String := do
  String.fromUTF8? (ByteArray.mk (← unescapeBytes? cs).toArray)

/-- A run of tag characters, which may have to be there. -/
def uri? (verbatim mayBeEmpty : Bool) (lead : String) (c : Cursor) : Option (String × Cursor) := do
  let (run, c) := c.takeWhile (isUriChar verbatim)
  let text ← unescape? run
  if text.isEmpty && !mayBeEmpty then none else some (lead ++ text, c)

/-- A tag handle: `!`, `!!` or `!name!`. A name without its second mark is no handle, which a
directive does not forgive. -/
def tagHandle? (directive : Bool) (c : Cursor) : Option (String × Cursor) :=
  if c.rest.head? ≠ some '!' then none
  else
    let (name, c) := (c.skip 1).takeWhile isNameChar
    let text := "!" ++ String.ofList name
    if c.rest.head? = some '!' then some (text ++ "!", c.skip 1)
    else if directive && text ≠ "!" then none
    else some (text, c)

/-- The end of a directive: blanks, a comment, a line break. -/
def directiveEnd? (c : Cursor) : Option Cursor :=
  let c := c.skipWhile isBlankChar
  let c := if c.rest.head? == some '#' then c.skipWhile (!isBreakChar ·) else c
  if endsLine c.rest then some c.takeBreak.2 else none

def directive? (c : Cursor) : Option (Token × Cursor) := do
  let (name, c) := (c.skip 1).takeWhile isNameChar
  if name.isEmpty || !endsWord c.rest then none
  else if String.ofList name == "YAML" then do
    let (major, c) ← number? (c.skipWhile isBlankChar)
    if c.rest.head? ≠ some '.' then none
    else
      let (minor, c) ← number? (c.skip 1)
      some (.versionDirective major minor, ← directiveEnd? c)
  else if String.ofList name == "TAG" then do
    let (handle, c) ← tagHandle? true (c.skipWhile isBlankChar)
    if !startsBlank c.rest then none
    else
      let (lead, c) ← uri? true false "" (c.skipWhile isBlankChar)
      if !endsWord c.rest then none
      else some (.tagDirective handle lead, ← directiveEnd? c)
  else none

/-- What may follow an anchor or alias without a blank between. -/
def endsAnchor (cs : List Char) : Bool :=
  endsWord cs || (cs.head?.any fun c => "?:,]\x7d%@\x60".toList.contains c)

def anchorName? (c : Cursor) : Option (String × Cursor) :=
  let (name, c) := (c.skip 1).takeWhile isNameChar
  if name.isEmpty || !endsAnchor c.rest then none else some (String.ofList name, c)

def tag? (flow : Bool) (c : Cursor) : Option (Token × Cursor) := do
  let (t, c) ←
    if c.rest.take 2 == ['!', '<'] then do
      let (suffix, c) ← uri? true false "" (c.skip 2)
      if c.rest.head? ≠ some '>' then none
      else some (Token.tag "" suffix, c.skip 1)
    else do
      let (handle, c) ← tagHandle? false c
      if 2 ≤ handle.length && handle.toList.getLast? == some '!' then do
        let (suffix, c) ← uri? false false "" c
        some (Token.tag handle suffix, c)
      else do
        let (suffix, c) ← uri? false true (String.ofList (handle.toList.drop 1)) c
        -- A lone mark is the tag that says nothing.
        if suffix.isEmpty then some (Token.tag "" "!", c)
        else some (Token.tag "!" suffix, c)
  if endsWord c.rest || (flow && c.rest.head? == some ',') then some (t, c) else none

/-! ## One token -/

/-- A token that cannot be part of a key, after which one may begin. -/
def mark? (s : Scanner) (length : Nat) (t : Token) (keyAllowed : Bool) : Option Scanner := do
  let s ← s.dropKey?
  some { (s.push t) with cursor := s.cursor.skip length, keyAllowed }

/-- The start of flow brackets, which may be a key. -/
def openFlow? (s : Scanner) (t : Token) : Option Scanner := do
  let s ← s.markKey?
  some { (s.push t) with cursor := s.cursor.skip 1, keys := none :: s.keys, keyAllowed := true }

def closeFlow? (s : Scanner) (t : Token) : Option Scanner := do
  let s ← s.dropKey?
  let keys := if s.inFlow then s.keys.drop 1 else s.keys
  some { (s.push t) with cursor := s.cursor.skip 1, keys, keyAllowed := false }

/-- A token that may be a key, or the front of one. -/
def word? (s : Scanner) (read : Cursor → Option (Token × Cursor)) : Option Scanner := do
  let s ← s.markKey?
  let (t, cursor) ← read s.cursor
  some { (s.push t) with cursor, keyAllowed := false }

def blockEntry? (s : Scanner) : Option Scanner :=
  if s.inFlow then s.mark? 1 .blockEntry true
  else if !s.keyAllowed then none
  else (s.openBlock s.cursor.column none .blockSequenceStart).mark? 1 .blockEntry true

def explicitKey? (s : Scanner) : Option Scanner :=
  if s.inFlow then s.mark? 1 .key false
  else if !s.keyAllowed then none
  else (s.openBlock s.cursor.column none .blockMappingStart).mark? 1 .key true

/-- The colon: it makes a key of the tokens since the place where one may have begun, or follows
an explicit key. -/
def valueMark? (s : Scanner) : Option Scanner :=
  match s.keys.head?.join with
  | some k =>
    -- The key's own mark first: the mapping then opens in front of it, at the same index.
    let s := s.insertAt k.token .key
    let s := s.openBlock k.column (some k.token) .blockMappingStart
    some { ((s.setKey none).push .value) with cursor := s.cursor.skip 1, keyAllowed := false }
  | none =>
    if s.inFlow then some { (s.push .value) with cursor := s.cursor.skip 1, keyAllowed := false }
    else if !s.keyAllowed then none
    else
      let s := s.openBlock s.cursor.column none .blockMappingStart
      some { (s.push .value) with cursor := s.cursor.skip 1, keyAllowed := true }

def blockScalar? (s : Scanner) (folded : Bool) : Option Scanner := do
  let s ← s.dropKey?
  let (text, cursor) ← block? folded s.indent (s.cursor.skip 1)
  let style := if folded then ScalarStyle.other else .literal
  some { (s.push (.scalar (String.ofList text) style)) with cursor, keyAllowed := true }

def quotedScalar? (s : Scanner) (quote : Char) : Option Scanner :=
  s.word? fun c => do
    let (text, c) ← quoted? quote (c.rest.length + 1) [] (c.skip 1)
    some (.scalar (String.ofList text) .other, c)

/-- A bare scalar. If a line break follows it, a key may begin behind. -/
def plainScalar? (s : Scanner) : Option Scanner := do
  let s ← s.markKey?
  let c := s.cursor
  let (text, broken, cursor) ← plain? s.inFlow (s.indent + 1) (c.rest.length + 1) [] Gap.none c
  some { (s.push (.scalar (String.ofList text) .plain)) with cursor, keyAllowed := broken }

/-- Can this be the first character of a bare scalar? -/
def startsPlain (flow : Bool) : List Char → Bool
  | [] => false
  | c :: cs =>
    if c == '-' then !(cs.head?.any isBlankChar)
    else if c == '?' || c == ':' then !flow && !endsWord cs
    else
      !(isBlankChar c || isBreakChar c || isFlowIndicator c ||
        "#&*!|>\x27\"%@\x60".toList.contains c)

/-- Leave all blocks, for a marker of documents or the end of the text. -/
def leaveBlocks? (s : Scanner) : Option Scanner := do
  let s ← (s.closeBlocks (-1)).dropKey?
  some { s with keyAllowed := false }

/-- Scan one token. The flag says that it was the last one. -/
def next? (s : Scanner) : Option (Bool × Scanner) := do
  let s := skipBetween (s.cursor.rest.length + 1) s
  let s ← s.dropStaleKeys?
  let s := s.closeBlocks s.cursor.column
  let c := s.cursor
  let on (r : Option Scanner) : Option (Bool × Scanner) := r.map fun s => (false, s)
  match c.rest with
  | [] => do
    let s ← s.leaveBlocks?
    some (true, s.push .streamEnd)
  | x :: rest =>
    if c.column = 0 && x == '%' then do
      let s ← s.leaveBlocks?
      let (t, cursor) ← directive? c
      some (false, { (s.push t) with cursor })
    else if c.atMarker '-' then do
      let s ← s.leaveBlocks?
      some (false, { (s.push .documentStart) with cursor := c.skip 3 })
    else if c.atMarker '.' then do
      let s ← s.leaveBlocks?
      some (false, { (s.push .documentEnd) with cursor := c.skip 3 })
    else if x == '[' then on (s.openFlow? .flowSequenceStart)
    else if x == '\x7b' then on (s.openFlow? .flowMappingStart)
    else if x == ']' then on (s.closeFlow? .flowSequenceEnd)
    else if x == '\x7d' then on (s.closeFlow? .flowMappingEnd)
    else if x == ',' then on (s.mark? 1 .flowEntry true)
    else if x == '-' && endsWord rest then on s.blockEntry?
    else if x == '?' && (s.inFlow || endsWord rest) then on s.explicitKey?
    else if x == ':' && (s.inFlow || endsWord rest) then on s.valueMark?
    else if x == '*' then on (s.word? fun c => (anchorName? c).map fun (n, c) => (.alias n, c))
    else if x == '&' then on (s.word? fun c => (anchorName? c).map fun (n, c) => (.anchor n, c))
    else if x == '!' then on (s.word? (tag? s.inFlow))
    else if x == '|' && !s.inFlow then on (s.blockScalar? false)
    else if x == '>' && !s.inFlow then on (s.blockScalar? true)
    else if x == '\x27' then on (s.quotedScalar? '\x27')
    else if x == '"' then on (s.quotedScalar? '"')
    else if startsPlain s.inFlow c.rest then on s.plainScalar?
    else none

def run? : Nat → Scanner → Option (List Token)
  | 0, _ => none
  | fuel + 1, s => do
    let (done, s) ← s.next?
    if done then some s.tokens.toList else run? fuel s

end Scanner

/-- The tokens of a text, of which a byte order mark in front is no part. -/
def scan? (text : String) : Option (List Token) :=
  let cs :=
    match text.toList with
    | '\ufeff' :: cs => cs
    | cs => cs
  if cs.all isAllowedChar then Scanner.run? (cs.length + 2) (.start cs) else none

end FeatureSurvey.Yaml
