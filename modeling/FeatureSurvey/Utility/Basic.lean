import FeatureSurvey.Sandbox.Walk
import FeatureSurvey.Text.Bytes

/-!
# `Utility/Basic.lean` — what utilities are given and give

A utility is called with arguments, with an input that it may read, and at a place in the tree.
It replies with a status, with what it prints, and with the tree as it leaves it. All text is
bytes; paths are turned into the names they spell where a file is looked for.
-/

set_option autoImplicit false

namespace FeatureSurvey.Utility

open Sandbox

structure Call where
  arguments : List String
  input : String := ""
  tree : Tree
  here : Place

structure Reply where
  status : Nat := 0
  out : String := ""
  err : String := ""
  tree : Tree
  /-- Was the input read? -/
  readsInput : Bool := false

/-- A reply that changes nothing. -/
def Call.reply (c : Call) (out : String) (status : Nat := 0) (err : String := "") : Reply :=
  { status, out, err, tree := c.tree }

def Call.fail (c : Call) (err : String) (status : Nat := 1) : Reply :=
  { status, err := err ++ "\n", tree := c.tree }

/-- The wording of a refusal by the system. -/
def reason (e : OsError) : String :=
  match e.numbered? with
  | some (_, wording) => wording
  | none => e.message

/-- The bytes of a file. -/
def Call.read (c : Call) (path : String) : Except OsError String :=
  (c.tree.read c.here (Bytes.toText path)).map Bytes.ofByteArray

/-- A hyphen stands for the input. -/
def Call.readOrInput (c : Call) (path : String) : Except OsError String :=
  if path == "-" then .ok c.input else c.read path

/-- Cut bytes into lines; a line feed at the end is no line of its own. -/
def linesOf (s : String) : List String :=
  let pieces := s.splitOn "\n"
  if pieces.getLast? == some "" then pieces.dropLast else pieces

/-- Lines with a line feed behind each. -/
def joinLines (lines : List String) : String := String.join (lines.map (· ++ "\n"))

/-- Lines with a line feed behind each, except where the text they come from ends without one. -/
def joinLike (source : String) (lines : List String) (keepsLast : Bool) : String :=
  if keepsLast && !source.isEmpty && !source.endsWith "\n" then String.intercalate "\n" lines
  else joinLines lines

/-- A number written with digits only. -/
def number? (s : String) : Option Nat :=
  if s.isEmpty || !s.all Char.isDigit then none
  else some (s.toList.foldl (fun n c => n * 10 + (c.toNat - '0'.toNat)) 0)

/-- A number with an optional sign. -/
def integer? (s : String) : Option Int :=
  match s.toList with
  | '-' :: cs => (number? (String.ofList cs)).map fun n => -(n : Int)
  | '+' :: cs => (number? (String.ofList cs)).map Int.ofNat
  | _ => (number? s).map Int.ofNat

/-- The switches in one word. Of the letters in `valued`, each takes the rest of the word as its
value; if nothing is left, the letter is given back, as its value comes next. -/
def letters (valued : List Char) : List Char → List (Char × String) × Option Char
  | [] => ([], none)
  | c :: cs =>
    if valued.contains c then
      if cs.isEmpty then ([], some c) else ([(c, String.ofList cs)], none)
    else
      let (found, waiting) := letters valued cs
      ((c, "") :: found, waiting)

/-- Split arguments into switches and operands; `waiting` is a letter whose value comes next. -/
def switches (valued : List Char) (waiting : Option Char) :
    List String → List (Char × String) × List String
  | [] => ([], [])
  | word :: rest =>
    match waiting, word.toList with
    | some c, _ =>
      let (found, operands) := switches valued none rest
      ((c, word) :: found, operands)
    | none, ['-', '-'] => ([], rest)
    | none, '-' :: c :: cs =>
      let (here, waiting) := letters valued (c :: cs)
      let (found, operands) := switches valued waiting rest
      (here ++ found, operands)
    | none, _ =>
      let (found, operands) := switches valued none rest
      (found, word :: operands)

/-- Is a switch among those given? -/
def hasSwitch (given : List (Char × String)) (c : Char) : Bool := given.any fun g => g.1 == c

end FeatureSurvey.Utility
