import FeatureSurvey.Json.Number

/-!
# `Json/Reader.lean` — JSON text as a source

The grammar is read character by character, and every step gives back the characters it left.
Lists and tables may be nested `127` deep; a list or table further in is read to its end but
stands for nothing. The same holds for a string with half a surrogate pair and for a number out
of range: the text is well-formed, and only who asks for the value is refused.

The two readers of nested text are bounded by the number of characters, of which every call
takes at least one.
-/

set_option autoImplicit false

namespace FeatureSurvey.Json

/-- The deepest nesting of lists and tables that can be read. -/
def nestingLimit : Nat := 127

def isSpace (c : Char) : Bool := c == ' ' || c == '\n' || c == '\t' || c == '\r'

def skipSpace (cs : List Char) : List Char := cs.dropWhile isSpace

/-! ## Strings -/

def hexValue? (c : Char) : Option Nat :=
  if c.isDigit then some (c.toNat - '0'.toNat)
  else if 'a' ≤ c ∧ c ≤ 'f' then some (c.toNat - 'a'.toNat + 10)
  else if 'A' ≤ c ∧ c ≤ 'F' then some (c.toNat - 'A'.toNat + 10)
  else none

def hexUnit? (a b c d : Char) : Option Nat := do
  some ((← hexValue? a) * 4096 + (← hexValue? b) * 256 + (← hexValue? c) * 16 + (← hexValue? d))

/-- One unit of a string: a character, or a surrogate written as an escape. -/
inductive StringUnit where
  | char (c : Char)
  | surrogate (unit : Nat)

def simpleEscape? (c : Char) : Option Char :=
  if c = '"' ∨ c = '\\' ∨ c = '/' then some c
  else if c = 'b' then some '\x08'
  else if c = 'f' then some '\x0c'
  else if c = 'n' then some '\n'
  else if c = 'r' then some '\r'
  else if c = 't' then some '\t'
  else none

/-- The units up to the closing quote, and what follows it. -/
def stringUnits? : List Char → Option (List StringUnit × List Char)
  | [] => none
  | '"' :: cs => some ([], cs)
  | '\\' :: 'u' :: a :: b :: c :: d :: cs => do
    let unit ← hexUnit? a b c d
    let (units, rest) ← stringUnits? cs
    if 0xD800 ≤ unit ∧ unit ≤ 0xDFFF then some (.surrogate unit :: units, rest)
    else some (.char (Char.ofNat unit) :: units, rest)
  | '\\' :: e :: cs => do
    let c ← simpleEscape? e
    let (units, rest) ← stringUnits? cs
    some (.char c :: units, rest)
  | c :: cs => do
    if c = '\\' ∨ c.toNat < 32 then none
    else
      let (units, rest) ← stringUnits? cs
      some (.char c :: units, rest)

/-- Join surrogate pairs; `none` if a surrogate has no partner. -/
def joinUnits? : List StringUnit → Option (List Char)
  | [] => some []
  | .char c :: rest => (joinUnits? rest).map (c :: ·)
  | .surrogate hi :: .surrogate lo :: rest =>
    if hi < 0xDC00 ∧ 0xDC00 ≤ lo then
      (joinUnits? rest).map (Char.ofNat (0x10000 + (hi - 0xD800) * 1024 + (lo - 0xDC00)) :: ·)
    else none
  | .surrogate _ :: _ => none

def stringSource (units : List StringUnit) : Source :=
  match joinUnits? units with
  | some cs => .value (.text (String.ofList cs))
  | none => .unreadable

/-! ## Numbers -/

def isDigitChar (c : Char) : Bool := c.isDigit

/-- One or more digits, and the rest. -/
def digitRun? (cs : List Char) : Option (List Char × List Char) :=
  let ds := cs.takeWhile isDigitChar
  if ds.isEmpty then none else some (ds, cs.dropWhile isDigitChar)

def exponentPart? : List Char → Option (Option (Bool × List Char) × List Char)
  | e :: cs =>
    if e = 'e' ∨ e = 'E' then
      match cs with
      | '-' :: cs => (digitRun? cs).map fun (ds, rest) => (some (true, ds), rest)
      | '+' :: cs => (digitRun? cs).map fun (ds, rest) => (some (false, ds), rest)
      | cs => (digitRun? cs).map fun (ds, rest) => (some (false, ds), rest)
    else some (none, e :: cs)
  | [] => some (none, [])

/-- A numeral, after its sign. No digit may follow a leading zero. -/
def unsigned? (negative : Bool) (cs : List Char) : Option (Numeral × List Char) := do
  let (whole, rest) ← digitRun? cs
  if whole.head? = some '0' ∧ whole.length ≠ 1 then none
  else
    let (fraction, rest) ←
      match rest with
      | '.' :: more => digitRun? more
      | _ => some ([], rest)
    let (exponent, rest) ← exponentPart? rest
    some (⟨negative, whole, fraction, exponent⟩, rest)

def numeral? : List Char → Option (Numeral × List Char)
  | '-' :: cs => unsigned? true cs
  | cs => unsigned? false cs

/-! ## Values -/

def keyword? (cs : List Char) : Option (Source × List Char) :=
  match cs with
  | 't' :: 'r' :: 'u' :: 'e' :: rest => some (.value (.bool true), rest)
  | 'f' :: 'a' :: 'l' :: 's' :: 'e' :: rest => some (.value (.bool false), rest)
  | 'n' :: 'u' :: 'l' :: 'l' :: rest => some (.value .null, rest)
  | _ => none

mutual

/-- A value; `depth` is the nesting still allowed. -/
def value? : Nat → Nat → List Char → Option (Source × List Char)
  | 0, _, _ => none
  | fuel + 1, depth, cs =>
    match skipSpace cs with
    | '[' :: rest => do
      let (items, rest) ←
        match skipSpace rest with
        | ']' :: rest => some ([], rest)
        | rest => items? fuel (depth - 1) rest
      some (if depth = 0 then .unreadable else .list items, rest)
    | '\x7b' :: rest => do
      let (entries, rest) ←
        match skipSpace rest with
        | '\x7d' :: rest => some ([], rest)
        | rest => entries? fuel (depth - 1) rest
      some (if depth = 0 then .unreadable else .table entries, rest)
    | '"' :: rest => do
      let (units, rest) ← stringUnits? rest
      some (stringSource units, rest)
    | rest =>
      match keyword? rest with
      | some r => some r
      | none => (numeral? rest).map fun (n, rest) => (n.source, rest)

/-- One or more items and the closing bracket. -/
def items? : Nat → Nat → List Char → Option (List Source × List Char)
  | 0, _, _ => none
  | fuel + 1, depth, cs => do
    let (item, rest) ← value? fuel depth cs
    match skipSpace rest with
    | ',' :: rest => do
      let (items, rest) ← items? fuel depth rest
      some (item :: items, rest)
    | ']' :: rest => some ([item], rest)
    | _ => none

/-- One or more entries and the closing brace. -/
def entries? : Nat → Nat → List Char → Option (List (Source × Source) × List Char)
  | 0, _, _ => none
  | fuel + 1, depth, cs =>
    match skipSpace cs with
    | '"' :: rest => do
      let (units, rest) ← stringUnits? rest
      match skipSpace rest with
      | ':' :: rest => do
        let (item, rest) ← value? fuel depth rest
        match skipSpace rest with
        | ',' :: rest => do
          let (entries, rest) ← entries? fuel depth rest
          some ((stringSource units, item) :: entries, rest)
        | '\x7d' :: rest => some ([(stringSource units, item)], rest)
        | _ => none
      | _ => none
    | _ => none

end

/-- The source of a whole JSON text: one value, and blanks around it. -/
def read? (text : String) : Option Source := do
  let cs := text.toList
  let (source, rest) ← value? (2 * cs.length + 1) nestingLimit cs
  if (skipSpace rest).isEmpty then some source else none

end FeatureSurvey.Json
