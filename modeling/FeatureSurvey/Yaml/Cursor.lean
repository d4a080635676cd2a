import FeatureSurvey.Data.Scalar

/-!
# `Yaml/Cursor.lean` — a place in a YAML text

A cursor is the text that is left together with the line and column it starts at; columns decide
nesting, and lines and offsets decide how far a one-line key may reach. Beside it stand the
classes of characters the scanner asks for: blanks, line breaks (of which there are five, the
pair of return and feed counting as one), and the characters that may occur in a text at all.
-/

set_option autoImplicit false

namespace FeatureSurvey.Yaml

/-! ## Characters -/

def isBlankChar (c : Char) : Bool := c == ' ' || c == '\t'

def isBreakChar (c : Char) : Bool :=
  c == '\n' || c == '\r' || c == '\x85' || c == '\u2028' || c == '\u2029'

/-- May this character occur in a text? Control characters may not, apart from tab and breaks,
nor may the byte order mark once the text has begun. -/
def isAllowedChar (c : Char) : Bool :=
  let n := c.toNat
  n == 9 || n == 10 || n == 13 || (32 ≤ n && n ≤ 126) || n == 0x85 || (0xA0 ≤ n && n ≤ 0xD7FF) ||
    (0xE000 ≤ n && n ≤ 0xFFFD && n != 0xFEFF) || 0x10000 ≤ n

/-- The characters of anchor names, directive names and tag handles. -/
def isNameChar (c : Char) : Bool := c.toNat < 128 && (c.isAlphanum || c == '_' || c == '-')

/-- Is there no text left on the line, or only after a blank? -/
def endsWord : List Char → Bool
  | [] => true
  | c :: _ => isBlankChar c || isBreakChar c

def endsLine : List Char → Bool
  | [] => true
  | c :: _ => isBreakChar c

def startsBlank : List Char → Bool
  | c :: _ => isBlankChar c
  | [] => false

def startsBreak : List Char → Bool
  | c :: _ => isBreakChar c
  | [] => false

/-! ## Cursors -/

structure Cursor where
  rest : List Char
  index : Nat
  line : Nat
  column : Nat

namespace Cursor

def ofText (cs : List Char) : Cursor := ⟨cs, 0, 0, 0⟩

/-- Pass over characters of the line. -/
def skip (c : Cursor) (n : Nat) : Cursor :=
  { c with rest := c.rest.drop n, index := c.index + n, column := c.column + n }

/-- Pass over characters of the line while they are of a class, and give them. -/
def takeWhile (c : Cursor) (p : Char → Bool) : List Char × Cursor :=
  let run := c.rest.takeWhile p
  (run, c.skip run.length)

def skipWhile (c : Cursor) (p : Char → Bool) : Cursor := (c.takeWhile p).2

/-- Pass over a line break, and give the character it stands for: the separators of lines and
paragraphs stand for themselves, every other break for a line feed. -/
def takeBreak (c : Cursor) : List Char × Cursor :=
  match c.rest with
  | '\r' :: '\n' :: rest => (['\n'], ⟨rest, c.index + 2, c.line + 1, 0⟩)
  | b :: rest =>
    if b = '\u2028' ∨ b = '\u2029' then ([b], ⟨rest, c.index + 1, c.line + 1, 0⟩)
    else if isBreakChar b then (['\n'], ⟨rest, c.index + 1, c.line + 1, 0⟩)
    else ([], c)
  | [] => ([], c)

/-- At the start of a line that holds a document marker, `---` or `...`? -/
def atMarker (c : Cursor) (mark : Char) : Bool :=
  c.column == 0 && c.rest.take 3 == [mark, mark, mark] && endsWord (c.rest.drop 3)

def atDocumentMarker (c : Cursor) : Bool := c.atMarker '-' || c.atMarker '.'

end Cursor

end FeatureSurvey.Yaml
