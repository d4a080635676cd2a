import FeatureSurvey.Utility.Basic

/-!
# `Utility/Printing.lean` — printing and testing

`echo` prints its arguments, `printf` puts them into a format, and `test` decides a condition on
texts, numbers and files. Both ways of printing know escapes behind a backslash; a format is used
again as long as arguments are left.
-/

set_option autoImplicit false

namespace FeatureSurvey.Utility

open Sandbox

/-! ## Escapes -/

def octal? (c : Char) : Option Nat :=
  if '0' ≤ c ∧ c ≤ '7' then some (c.toNat - '0'.toNat) else none

/-- Up to a number of octal digits as a byte, and what follows them. -/
def octalByte : Nat → Nat → List Char → Char × List Char
  | 0, n, cs => (Char.ofNat (n % 256), cs)
  | _, n, [] => (Char.ofNat (n % 256), [])
  | more + 1, n, c :: cs =>
    match octal? c with
    | some d => octalByte more (n * 8 + d) cs
    | none => (Char.ofNat (n % 256), c :: cs)

def letterEscape? (c : Char) : Option Char :=
  if c == 'a' then some '\x07'
  else if c == 'b' then some '\x08'
  else if c == 'f' then some '\x0c'
  else if c == 'n' then some '\n'
  else if c == 'r' then some '\r'
  else if c == 't' then some '\t'
  else if c == 'v' then some '\x0b'
  else if c == '\\' then some '\\'
  else none

/-- What an escape stands for, and what follows it; the backslash stays where it is none. -/
def escape (cs : List Char) : Char × List Char :=
  match cs with
  | [] => ('\\', [])
  | c :: rest =>
    match letterEscape? c with
    | some e => (e, rest)
    | none => if (octal? c).isSome then octalByte 3 0 cs else ('\\', cs)

/-- Undo the escapes of an argument, up to one that ends the output. Octal numbers may have a
zero before their three digits. Gives also whether the output goes on. -/
def unescaped : Nat → List Char → List Char × Bool
  | 0, _ => ([], true)
  | _, [] => ([], true)
  | steps + 1, '\\' :: cs =>
    match cs with
    | 'c' :: _ => ([], false)
    | '0' :: cs =>
      let (c, rest) := octalByte 3 0 cs
      let (more, goes) := unescaped steps rest
      (c :: more, goes)
    | cs =>
      let (c, rest) := escape cs
      let (more, goes) := unescaped steps rest
      (c :: more, goes)
  | steps + 1, c :: cs =>
    let (more, goes) := unescaped steps cs
    (c :: more, goes)

def echo (c : Call) : Reply :=
  let (feed, words) := match c.arguments with
    | "-n" :: rest => (false, rest)
    | words => (true, words)
  let text := (String.intercalate " " words).toList
  let (out, goes) := unescaped (text.length + 1) text
  c.reply (String.ofList out ++ if feed && goes then "\n" else "")

/-! ## Formats -/

/-- A text in a field: cut to a precision and filled to a width. -/
def inField (left zeros : Bool) (width : Nat) (precision : Option Nat) (s : List Char) :
    List Char :=
  let s := match precision with
    | some n => s.take n
    | none => s
  let fill := width - s.length
  if left then s ++ List.replicate fill ' '
  else if zeros then List.replicate fill '0' ++ s
  else List.replicate fill ' ' ++ s

/-- The number that an argument stands for. -/
def argumentNumber? (s : String) : Option Int :=
  match s.toList with
  | [] => some 0
  | ['\x27', c] => some c.toNat
  | ['"', c] => some c.toNat
  | _ => integer? s

/-- The state of a format being filled. -/
structure Filling where
  out : List Char := []
  arguments : List String
  used : Bool := false
  status : Nat := 0
  err : String := ""
  ended : Bool := false

/-- Put the next argument in by a conversion; `plus` goes before a number that has no sign. -/
def Filling.convert (f : Filling) (left zeros : Bool) (plus : List Char) (width : Nat)
    (precision : Option Nat) (conversion : Char) : Filling :=
  let argument := f.arguments.head?.getD ""
  let f := { f with arguments := f.arguments.tail, used := true }
  let put (s : List Char) : Filling :=
    { f with out := f.out ++ inField left zeros width precision s }
  if conversion == 's' then put argument.toList
  else if conversion == 'c' then put (argument.toList.take 1)
  else if conversion == 'b' then
    let (s, goes) := unescaped (argument.length + 1) argument.toList
    { put s with ended := !goes }
  else
    match argumentNumber? argument with
    | some n =>
      let radix := if conversion == 'x' || conversion == 'X' then 16
        else if conversion == 'o' then 8 else 10
      let digits := Nat.toDigits radix n.natAbs
      let digits := if conversion == 'X' then digits.map Char.toUpper else digits
      let signed := conversion == 'd' || conversion == 'i'
      let written := if n < 0 then '-' :: digits else if signed then plus ++ digits else digits
      { f with out := f.out ++ inField left zeros width none written }
    | none =>
      let zero := inField left zeros width none ['0']
      { f with
        out := f.out ++ zero
        status := 1
        err := f.err ++ s!"printf: {argument}: expected numeric value\n" }

/-- Fill a format once. -/
def fill : Nat → Filling → List Char → Filling
  | 0, f, _ => f
  | _, f, [] => f
  | steps + 1, f, c :: cs =>
    if f.ended then f
    else if c == '\\' then
      let (e, rest) := escape cs
      fill steps { f with out := f.out ++ [e] } rest
    else if c == '%' then
      match cs with
      | '%' :: rest => fill steps { f with out := f.out ++ ['%'] } rest
      | cs =>
        let flags := cs.takeWhile fun c => c == '-' || c == '0' || c == '+' || c == ' '
        let cs := cs.drop flags.length
        let width := cs.takeWhile Char.isDigit
        let cs := cs.drop width.length
        let (precision, cs) := match cs with
          | '.' :: rest =>
            (some ((number? (String.ofList (rest.takeWhile Char.isDigit))).getD 0),
              rest.dropWhile Char.isDigit)
          | cs => (none, cs)
        match cs with
        | [] =>
          { f with status := 1, ended := true, err := f.err ++ "printf: missing conversion\n" }
        | conversion :: rest =>
          let plus : List Char :=
            if flags.contains '+' then ['+'] else if flags.contains ' ' then [' '] else []
          if "sbcdiuoxX".toList.contains conversion then
            fill steps
              (f.convert (flags.contains '-') (flags.contains '0') plus
                ((number? (String.ofList width)).getD 0) precision conversion) rest
          else
            { f with
              status := 2
              ended := true
              err := f.err ++
                s!"printf: %{String.ofList (flags ++ width)}{conversion}: invalid directive\n" }
    else fill steps { f with out := f.out ++ [c] } cs

/-- Fill a format until no argument is left; a format without a place for one is used once. -/
def fillAll (format : List Char) : Nat → Filling → Filling
  | 0, f => f
  | rounds + 1, f =>
    let f := fill (format.length + 1) { f with used := false } format
    if f.ended || f.arguments.isEmpty || !f.used then f else fillAll format rounds f

def printf (c : Call) : Reply :=
  let words := match c.arguments with
    | "--" :: rest => rest
    | words => words
  match words with
  | [] => c.fail "printf: usage: printf format [arg ...]" 2
  | format :: arguments =>
    let f := fillAll format.toList (arguments.length + 1) { arguments }
    c.reply (String.ofList f.out) f.status f.err

/-! ## Conditions -/

def fileTest? (c : Call) (operator path : String) : Option Bool :=
  let entry := c.tree.find c.here (Bytes.toText path)
  let there := match entry with
    | .ok _ => true
    | .error _ => false
  let size := match entry with
    | .ok (_, .file bytes _) => bytes.size
    | _ => 0
  let executable := match entry with
    | .ok (_, .file _ executable) => executable
    | .ok (_, .void) => false
    | .ok _ => true
    | .error _ => false
  let kind := c.tree.kind? c.here (Bytes.toText path)
  if operator == "-e" then some there
  else if operator == "-f" then some (kind == some .file)
  else if operator == "-d" then some (kind == some .directory)
  else if operator == "-s" then some (0 < size || kind == some .directory)
  else if operator == "-r" || operator == "-w" then some there
  else if operator == "-x" then some executable
  else if operator == "-L" || operator == "-h" || operator == "-p" || operator == "-S" then
    some false
  else if operator == "-t" then some false
  else none

def unaryTest? (c : Call) (operator operand : String) : Option Bool :=
  if operator == "-n" then some (!operand.isEmpty)
  else if operator == "-z" then some operand.isEmpty
  else fileTest? c operator operand

/-- A number, with blanks around it. -/
def comparedNumber (s : String) : Except String Int :=
  let inner := ((s.toList.dropWhile (· == ' ')).reverse.dropWhile (· == ' ')).reverse
  match integer? (String.ofList inner) with
  | some n => .ok n
  | none => .error s!"Illegal number: {s}"

/-- A comparison of two operands; an error is a message. -/
def binaryTest? (a operator b : String) : Option (Except String Bool) :=
  let numeric (compare : Int → Int → Bool) : Option (Except String Bool) :=
    some do return compare (← comparedNumber a) (← comparedNumber b)
  if operator == "=" || operator == "==" then some (.ok (a == b))
  else if operator == "!=" then some (.ok (a != b))
  else if operator == "<" then some (.ok (decide (a < b)))
  else if operator == ">" then some (.ok (decide (b < a)))
  else if operator == "-eq" then numeric fun m n => m == n
  else if operator == "-ne" then numeric fun m n => m != n
  else if operator == "-lt" then numeric fun m n => decide (m < n)
  else if operator == "-le" then numeric fun m n => decide (m ≤ n)
  else if operator == "-gt" then numeric fun m n => decide (n < m)
  else if operator == "-ge" then numeric fun m n => decide (n ≤ m)
  else none

def isBinaryTest (operator : String) : Bool := (binaryTest? "" operator "").isSome

/-- Is a word that could ask something of the next one an operand itself? -/
def isOperand : List String → Bool
  | [] => true
  | [_] => false
  | operator :: other :: _ => isBinaryTest operator && other != ")"

mutual

/-- One condition. Of the words the last one taken is given back at the front of those left. -/
def primary (c : Call) : Nat → List String → Except String (Bool × List String)
  | 0, _ => .error "argument expected"
  | fuel + 1, words =>
    match words with
    | [] => .ok (false, [])
    | "!" :: rest => (primary c fuel rest).map fun (b, rest) => (!b, rest)
    | "(" :: next :: rest => do
      match ← anyOf c fuel (next :: rest) with
      | (b, _ :: ")" :: rest) => .ok (b, ")" :: rest)
      | _ => .error "closing paren expected"
    | operator :: operand :: rest =>
      match unaryTest? c operator operand, isOperand (operand :: rest) with
      | some b, false => .ok (b, operand :: rest)
      | _, _ =>
        match binaryTest? operator operand (rest.headD "") with
        | some result =>
          if rest.isEmpty then .error s!"{operand}: argument expected"
          else result.map (·, rest)
        | none => .ok (!operator.isEmpty, operator :: operand :: rest)
    | [a] => .ok (!a.isEmpty, [a])

/-- Conditions joined by `-a`. -/
def allOf (c : Call) : Nat → List String → Except String (Bool × List String)
  | 0, _ => .error "argument expected"
  | fuel + 1, words => do
    match ← primary c fuel words with
    | (b, _ :: "-a" :: rest) =>
      let (others, rest) ← allOf c fuel rest
      .ok (b && others, rest)
    | found => .ok found

/-- Conditions joined by `-o`, which binds less. -/
def anyOf (c : Call) : Nat → List String → Except String (Bool × List String)
  | 0, _ => .error "argument expected"
  | fuel + 1, words => do
    match ← allOf c fuel words with
    | (b, _ :: "-o" :: rest) =>
      let (others, rest) ← anyOf c fuel rest
      .ok (b || others, rest)
    | found => .ok found

end

/-- Decide a condition that takes all the words. Three words with a comparison in the middle are
one, whatever the others are. -/
def condition (c : Call) (words : List String) : Except String Bool :=
  let whole : Except String Bool := do
    match ← anyOf c (3 * words.length + 3) words with
    | (_, last :: _ :: _) => .error s!"{last}: unexpected operator"
    | (b, _) => .ok b
  match words with
  | [a, operator, b] => (binaryTest? a operator b).getD whole
  | _ => whole

/-- Decide the condition that words make up, under the name of the utility. -/
def decideWords (c : Call) (name : String) (words : List String) : Reply :=
  if words.isEmpty then c.reply "" 1
  else
    match condition c words with
    | .ok b => c.reply "" (if b then 0 else 1)
    | .error e => c.fail s!"{name}: {e}" 2

def test (c : Call) : Reply := decideWords c "test" c.arguments

/-- A condition in brackets. -/
def bracket (c : Call) : Reply :=
  match c.arguments.reverse with
  | "]" :: words => decideWords c "[" words.reverse
  | _ => c.fail "[: missing ]" 2

end FeatureSurvey.Utility
