import FeatureSurvey.Shell.Reader

/-!
# `Shell/Arithmetic.lean` — arithmetic expressions

The expressions of a script are over whole numbers: names stand for the values of parameters, the
operators bind as usual, and comparisons give one or zero. Operators of one strength group to the
left.
-/

set_option autoImplicit false

namespace FeatureSurvey.Shell.Arithmetic

inductive Token where
  | number (n : Int)
  | name (s : String)
  | symbol (s : String)
  deriving DecidableEq, Repr

def digitsValue (radix : Nat) (cs : List Char) : Option Int :=
  cs.foldlM (fun n c =>
    let d :=
      if c.isDigit then c.toNat - '0'.toNat
      else if 'a' ≤ c ∧ c ≤ 'f' then c.toNat - 'a'.toNat + 10
      else if 'A' ≤ c ∧ c ≤ 'F' then c.toNat - 'A'.toNat + 10
      else radix
    if d < radix then some (n * radix + d) else none) 0

/-- A number: hexadecimal behind `0x`, octal behind `0`, else decimal. -/
def numeral? : List Char → Option Int
  | '0' :: 'x' :: cs => digitsValue 16 cs
  | '0' :: c :: cs => digitsValue 8 (c :: cs)
  | cs => digitsValue 10 cs

/-- The symbols, longer ones before those they begin with. -/
def symbols : List String :=
  ["<<", ">>", "<=", ">=", "==", "!=", "&&", "||", "+", "-", "*", "/", "%", "(", ")", "<", ">",
    "&", "|", "^", "!", "~", "?", ":"]

def tokens? : Nat → List Char → Option (List Token)
  | 0, _ => none
  | _, [] => some []
  | steps + 1, c :: cs =>
    if c == ' ' || c == '\t' || c == '\n' then tokens? steps cs
    else if c.isDigit then do
      let run := (c :: cs).takeWhile Char.isAlphanum
      some (.number (← numeral? run) :: (← tokens? steps ((c :: cs).drop run.length)))
    else if isNameStart c then do
      let run := (c :: cs).takeWhile isNameChar
      some (.name (String.ofList run) :: (← tokens? steps ((c :: cs).drop run.length)))
    else do
      let symbol ← symbols.find? fun s => s.toList.isPrefixOf (c :: cs)
      some (.symbol symbol :: (← tokens? steps ((c :: cs).drop symbol.length)))

/-- How strongly an operator between two operands binds. -/
def strength? (symbol : String) : Option Nat :=
  if ["*", "/", "%"].contains symbol then some 10
  else if ["+", "-"].contains symbol then some 9
  else if ["<<", ">>"].contains symbol then some 8
  else if ["<", "<=", ">", ">="].contains symbol then some 7
  else if ["==", "!="].contains symbol then some 6
  else if symbol == "&" then some 5
  else if symbol == "^" then some 4
  else if symbol == "|" then some 3
  else if symbol == "&&" then some 2
  else if symbol == "||" then some 1
  else none

def ofBool (b : Bool) : Int := if b then 1 else 0

/-- The value of an operation, unless it divides by zero. -/
def combine? (symbol : String) (a b : Int) : Option Int :=
  if symbol == "*" then some (a * b)
  else if symbol == "/" then if b == 0 then none else some (a.tdiv b)
  else if symbol == "%" then if b == 0 then none else some (a.tmod b)
  else if symbol == "+" then some (a + b)
  else if symbol == "-" then some (a - b)
  else if symbol == "<<" then some (a * Int.ofNat (Nat.pow 2 b.toNat))
  else if symbol == ">>" then some (a.fdiv (Int.ofNat (Nat.pow 2 b.toNat)))
  else if symbol == "<" then some (ofBool (decide (a < b)))
  else if symbol == "<=" then some (ofBool (decide (a ≤ b)))
  else if symbol == ">" then some (ofBool (decide (b < a)))
  else if symbol == ">=" then some (ofBool (decide (b ≤ a)))
  else if symbol == "==" then some (ofBool (a == b))
  else if symbol == "!=" then some (ofBool (a != b))
  else if symbol == "&" then some (Int.ofNat (a.toNat &&& b.toNat))
  else if symbol == "^" then some (Int.ofNat (a.toNat ^^^ b.toNat))
  else if symbol == "|" then some (Int.ofNat (a.toNat ||| b.toNat))
  else if symbol == "&&" then some (ofBool (a != 0 && b != 0))
  else if symbol == "||" then some (ofBool (a != 0 || b != 0))
  else none

mutual

/-- An operand with the signs before it. -/
def operand? (value : String → Option Int) : Nat → List Token → Option (Int × List Token)
  | 0, _ => none
  | fuel + 1, ts =>
    match ts with
    | .number n :: rest => some (n, rest)
    | .name s :: rest => (value s).map (·, rest)
    | .symbol "(" :: rest => do
      let (n, rest) ← expression? value fuel rest
      match rest with
      | .symbol ")" :: rest => some (n, rest)
      | _ => none
    | .symbol "-" :: rest => (operand? value fuel rest).map fun (n, rest) => (-n, rest)
    | .symbol "+" :: rest => operand? value fuel rest
    | .symbol "!" :: rest => (operand? value fuel rest).map fun (n, rest) => (ofBool (n == 0), rest)
    | .symbol "~" :: rest => (operand? value fuel rest).map fun (n, rest) => (-n - 1, rest)
    | _ => none

/-- Operations behind a first operand, as far as they bind at least so strongly. -/
def operations? (value : String → Option Int) (least : Nat) :
    Nat → Int → List Token → Option (Int × List Token)
  | 0, _, _ => none
  | fuel + 1, a, ts =>
    match ts with
    | .symbol s :: rest =>
      match strength? s with
      | some strength =>
        if strength < least then some (a, ts)
        else do
          let (b, rest) ← operand? value fuel rest
          let (b, rest) ← operations? value (strength + 1) fuel b rest
          operations? value least fuel (← combine? s a b) rest
      | none => some (a, ts)
    | _ => some (a, ts)

/-- A whole expression, with a choice between two at its end. -/
def expression? (value : String → Option Int) : Nat → List Token → Option (Int × List Token)
  | 0, _ => none
  | fuel + 1, ts => do
    let (a, rest) ← operand? value fuel ts
    let (a, rest) ← operations? value 1 fuel a rest
    match rest with
    | .symbol "?" :: rest =>
      let (yes, rest) ← expression? value fuel rest
      match rest with
      | .symbol ":" :: rest =>
        let (no, rest) ← expression? value fuel rest
        some (if a != 0 then yes else no, rest)
      | _ => none
    | _ => some (a, rest)

end

/-- The number that the value of a parameter stands for; an empty one is zero. -/
def ofValue? (s : String) : Option Int :=
  match s.toList.filter fun c => c != ' ' with
  | [] => some 0
  | '-' :: cs => (numeral? cs).map fun n => -n
  | cs => numeral? cs

/-- Evaluate an expression. -/
def eval? (value : String → Option String) (text : String) : Option Int := do
  let ts ← tokens? (text.length + 1) text.toList
  if ts.isEmpty then some 0
  else
    let number (name : String) : Option Int := ofValue? ((value name).getD "")
    let (n, rest) ← expression? number (4 * ts.length + 8) ts
    if rest.isEmpty then some n else none

end FeatureSurvey.Shell.Arithmetic
