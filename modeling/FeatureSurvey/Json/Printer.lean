import FeatureSurvey.Data.Value
import FeatureSurvey.Decimal.Shortest

/-!
# `Json/Printer.lean` — values as JSON text

Two layouts of the same text: `compact` puts no blank anywhere, `pretty` gives each member a line
of its own, two blanks deeper than its surroundings, and leaves an empty list or table on one
line. Strings escape the quote, the backslash and the characters below the blank, and nothing
else.

A real number is written with the fewest digits that read back. Between `1e-5` and `1e16` it is
positional and always shows a point; outside it is in scientific form, `e` without a plus sign.
-/

set_option autoImplicit false

namespace FeatureSurvey.Json

/-! ## Numbers -/

def zeros (n : Nat) : String := String.ofList (List.replicate n '0')

/-- Lay out a decimal whose digits do not end in a zero. -/
def layoutReal (w : Decimal.Written) : String :=
  let ds := Nat.toDigits 10 w.digits
  let point : Int := ds.length + w.exponent
  if 0 ≤ w.exponent ∧ point ≤ 16 then String.ofList ds ++ zeros w.exponent.toNat ++ ".0"
  else if 0 < point ∧ point ≤ 16 then
    String.ofList (ds.take point.toNat) ++ "." ++ String.ofList (ds.drop point.toNat)
  else if -5 < point ∧ point ≤ 0 then "0." ++ zeros (-point).toNat ++ String.ofList ds
  else
    match ds with
    | [] => "0.0"
    | [d] => String.ofList [d] ++ "e" ++ toString (point - 1)
    | d :: rest => String.ofList (d :: '.' :: rest) ++ "e" ++ toString (point - 1)

/-- A real as JSON writes it; what is no finite number has no form and becomes `null`. -/
def printReal (x : Float) : String :=
  if x.isNaN || x.isInf then "null"
  else
    let bits := x.toBits.toNat
    let sign := if wordSignBit ≤ bits then "-" else ""
    let magnitude := bits % wordSignBit
    sign ++ if magnitude = 0 then "0.0" else layoutReal (Decimal.shortest magnitude)

/-! ## Strings -/

def hexDigit (n : Nat) : Char := (Nat.digitChar n)

/-- How one character stands inside a quoted string. -/
def escapeChar (c : Char) : List Char :=
  if c = '"' then ['\\', '"']
  else if c = '\\' then ['\\', '\\']
  else if 32 ≤ c.toNat then [c]
  else if c = '\n' then ['\\', 'n']
  else if c = '\t' then ['\\', 't']
  else if c = '\r' then ['\\', 'r']
  else if c.toNat = 8 then ['\\', 'b']
  else if c.toNat = 12 then ['\\', 'f']
  else ['\\', 'u', '0', '0', hexDigit (c.toNat / 16), hexDigit (c.toNat % 16)]

def quote (s : String) : String := "\"" ++ String.ofList (s.toList.flatMap escapeChar) ++ "\""

/-! ## Values -/

/-- A scalar's text; lists and tables are laid out by the two layouts. -/
def printScalar : Value → String
  | .null => "null"
  | .bool b => if b then "true" else "false"
  | .int n => toString n
  | .real x => printReal x
  | .text s => quote s
  | .list _ => "[]"
  | .table _ => "\x7b\x7d"

/-- A name in a table. JSON has only texts there: any other scalar is quoted as it is written. -/
def printName : Value → String
  | .text s => quote s
  | v => quote (printScalar v)

mutual

def compact : Value → String
  | .list items => "[" ++ String.intercalate "," (compactItems items) ++ "]"
  | .table entries => "\x7b" ++ String.intercalate "," (compactEntries entries) ++ "\x7d"
  | v => printScalar v

def compactItems : List Value → List String
  | [] => []
  | v :: rest => compact v :: compactItems rest

def compactEntries : List (Value × Value) → List String
  | [] => []
  | (k, v) :: rest => (printName k ++ ":" ++ compact v) :: compactEntries rest

end

theorem compactItems_eq_map (items : List Value) : compactItems items = items.map compact := by
  induction items with
  | nil => rfl
  | cons v rest ih => rw [compactItems, ih, List.map_cons]

theorem compactEntries_record (fields : List (String × Value)) :
    compactEntries (fields.map fun f => (.text f.1, f.2)) =
      fields.map fun f => quote f.1 ++ ":" ++ compact f.2 := by
  induction fields with
  | nil => rfl
  | cons f rest ih => rw [List.map_cons, compactEntries, ih, List.map_cons, printName]

/-- The start of a line at a depth of nesting. -/
def indentation (depth : Nat) : String := "\n" ++ String.ofList (List.replicate (2 * depth) ' ')

mutual

/-- The layout with one member a line, for a value that stands at a depth of nesting. -/
def prettyAt (depth : Nat) : Value → String
  | .list [] => "[]"
  | .list items =>
    "[" ++ String.intercalate "," (prettyItems (depth + 1) items) ++ indentation depth ++ "]"
  | .table [] => "\x7b\x7d"
  | .table entries =>
    "\x7b" ++ String.intercalate "," (prettyEntries (depth + 1) entries) ++ indentation depth ++
      "\x7d"
  | v => printScalar v

def prettyItems (depth : Nat) : List Value → List String
  | [] => []
  | v :: rest => (indentation depth ++ prettyAt depth v) :: prettyItems depth rest

def prettyEntries (depth : Nat) : List (Value × Value) → List String
  | [] => []
  | (k, v) :: rest =>
    (indentation depth ++ printName k ++ ": " ++ prettyAt depth v) :: prettyEntries depth rest

end

theorem prettyItems_eq_map (depth : Nat) (items : List Value) :
    prettyItems depth items = items.map fun v => indentation depth ++ prettyAt depth v := by
  induction items with
  | nil => rfl
  | cons v rest ih => rw [prettyItems, ih, List.map_cons]

theorem prettyEntries_record (depth : Nat) (fields : List (String × Value)) :
    prettyEntries depth (fields.map fun f => (.text f.1, f.2)) =
      fields.map fun f => indentation depth ++ quote f.1 ++ ": " ++ prettyAt depth f.2 := by
  induction fields with
  | nil => rfl
  | cons f rest ih => rw [List.map_cons, prettyEntries, ih, List.map_cons, printName]

def pretty (v : Value) : String := prettyAt 0 v

end FeatureSurvey.Json
