import FeatureSurvey.Utility.Basic

/-!
# `Utility/Text.lean` — utilities that pass text on

`cat` joins files, `head` and `tail` keep lines at either end, `cut` keeps fields or characters of
each line, and `seq` counts.
-/

set_option autoImplicit false

namespace FeatureSurvey.Utility

/-- Go through files, or the input if none are named, and join what is made of them. A file that
cannot be read costs a message and the status. -/
def Call.overFiles (c : Call) (name : String) (files : List String) (complain : String → String)
    (make : String → String) : Reply :=
  let files := if files.isEmpty then ["-"] else files
  files.foldl (fun reply file =>
    match c.readOrInput file with
    | .ok text =>
      { reply with out := reply.out ++ make text, readsInput := reply.readsInput || file == "-" }
    | .error e =>
      { reply with status := 1, err := reply.err ++ s!"{name}: {complain file}{reason e}\n" })
    (c.reply "")

def cat (c : Call) : Reply :=
  let (_, files) := switches [] none c.arguments
  c.overFiles "cat" files (fun file => file ++ ": ") id

/-- Write `-5` as `-n 5`, where no value is due. -/
def withCount (isValue : Bool) : List String → List String
  | [] => []
  | word :: rest =>
    match isValue, word.toList with
    | false, '-' :: d :: ds =>
      if d.isDigit then "-n" :: String.ofList (d :: ds) :: withCount false rest
      else word :: withCount ((d == 'n' || d == 'c') && ds.isEmpty) rest
    | _, _ => word :: withCount false rest

/-- The count that `-n` gives. -/
def countOf (given : List (Char × String)) : String := (given.lookup 'n').getD "10"

/-- Go through files as `overFiles` does, each under its name if there are several. -/
def Call.overEnds (c : Call) (name : String) (files : List String) (make : String → String) :
    Reply :=
  let files := if files.isEmpty then ["-"] else files
  files.foldl (fun reply file =>
    match c.readOrInput file with
    | .ok text =>
      let shown := if file == "-" then "standard input" else file
      let gap := if reply.out.isEmpty then "" else "\n"
      let title := if 1 < files.length then s!"{gap}==> {shown} <==\n" else ""
      { reply with
        out := reply.out ++ title ++ make text
        readsInput := reply.readsInput || file == "-" }
    | .error e =>
      let what := match e with
        | .isDirectory => s!"error reading '{file}'"
        | _ => s!"cannot open '{file}' for reading"
      { reply with status := 1, err := reply.err ++ s!"{name}: {what}: {reason e}\n" })
    (c.reply "")

def head (c : Call) : Reply :=
  let (given, files) := switches ['n', 'c'] none (withCount false c.arguments)
  match given.lookup 'c', integer? (countOf given) with
  | some bytes, _ =>
    match integer? bytes with
    | some n =>
      c.overEnds "head" files fun text =>
        let kept := if n < 0 then text.length - n.natAbs else n.toNat
        (text.take kept).toString
    | none => c.fail s!"head: invalid number of bytes: '{bytes}'"
  | none, some n =>
    c.overEnds "head" files fun text =>
      let lines := linesOf text
      let kept := if n < 0 then lines.take (lines.length - n.natAbs) else lines.take n.toNat
      joinLike text kept (kept.length == lines.length)
  | none, none => c.fail s!"head: invalid number of lines: '{countOf given}'"

def tail (c : Call) : Reply :=
  let (given, files) := switches ['n', 'c'] none (withCount false c.arguments)
  match given.lookup 'c', integer? (countOf given) with
  | some bytes, _ =>
    match integer? bytes with
    | some n =>
      c.overEnds "tail" files fun text =>
        let passed := if bytes.startsWith "+" then n.toNat - 1 else text.length - n.natAbs
        (text.drop passed).toString
    | none => c.fail s!"tail: invalid number of bytes: '{bytes}'"
  | none, some n =>
    c.overEnds "tail" files fun text =>
      let lines := linesOf text
      let kept :=
        if (countOf given).startsWith "+" then lines.drop (n.toNat - 1)
        else lines.drop (lines.length - n.natAbs)
      joinLike text kept true
  | none, none => c.fail s!"tail: invalid number of lines: '{countOf given}'"

/-! ## Cutting lines -/

/-- Is a position in a list of ranges such as `1,3-5,7-`? -/
def inList (list : String) (position : Nat) : Bool :=
  (list.splitOn ",").any fun range =>
    match range.splitOn "-" with
    | [one] => number? one == some position
    | [first, last] => (number? first).getD 1 ≤ position && position ≤ (number? last).getD position
    | _ => false

/-- The members of a list at the positions chosen, counted from one. -/
def chosen {α : Type} (list : String) (members : List α) : List α :=
  (members.zipIdx 1).filterMap fun (x, i) => if inList list i then some x else none

def cutLine (given : List (Char × String)) (line : String) : Option String :=
  match given.lookup 'f' with
  | some fields =>
    let delimiter := (given.lookup 'd').getD "\t"
    let pieces := line.splitOn delimiter
    if pieces.length == 1 then if hasSwitch given 's' then none else some line
    else some (String.intercalate delimiter (chosen fields pieces))
  | none =>
    let list := ((given.lookup 'c').orElse fun _ => given.lookup 'b').getD ""
    some (String.ofList (chosen list line.toList))

def cut (c : Call) : Reply :=
  let (given, files) := switches ['d', 'f', 'c', 'b'] none c.arguments
  if given.all fun g => g.1 == 'd' || g.1 == 's' then
    c.fail "cut: you must specify a list of bytes, characters, or fields"
  else
    c.overFiles "cut" files (fun file => file ++ ": ") fun text =>
      joinLines ((linesOf text).filterMap (cutLine given))

/-! ## Counting -/

/-- The numbers from one to another in steps; the number bounds them. -/
def count (step last : Int) : Nat → Int → List Int
  | 0, _ => []
  | steps + 1, n =>
    if (0 < step && last < n) || (step < 0 && n < last) then []
    else n :: count step last steps (n + step)

/-- What `seq` is asked to do besides counting. -/
structure Counting where
  separator : String := "\n"
  sameWidth : Bool := false

/-- The switches before the numbers. -/
def counting : Counting → List String → Counting × List String
  | o, "-w" :: rest => counting { o with sameWidth := true } rest
  | o, "-s" :: separator :: rest => counting { o with separator } rest
  | o, word :: rest =>
    match word.toList with
    | '-' :: 's' :: separator =>
      counting { o with separator := String.ofList separator } rest
    | _ => (o, word :: rest)
  | o, [] => (o, [])

/-- Numbers with zeros before them, so that all take the same space. -/
def widened (numbers : List Int) : List String :=
  let width := numbers.foldl (fun width n => max width (toString n).length) 0
  numbers.map fun n =>
    let digits := toString n.natAbs
    let sign := if n < 0 then "-" else ""
    sign ++ String.ofList (List.replicate (width - sign.length - digits.length) '0') ++ digits

def seq (c : Call) : Reply :=
  let (o, words) := counting {} c.arguments
  let hint : String := "\nTry 'seq --help' for more information."
  let numbers (first step last : Int) : Reply :=
    let written := words.getD 1 "0"
    if step == 0 then c.fail s!"seq: invalid Zero increment value: '{written}'{hint}"
    else
      let steps := ((last - first).natAbs / (max step.natAbs 1)) + 1
      let found := count step last steps first
      let shown := if o.sameWidth then widened found else found.map toString
      c.reply (if shown.isEmpty then "" else String.intercalate o.separator shown ++ "\n")
  match words.map integer? with
  | [some last] => numbers 1 1 last
  | [some first, some last] => numbers first 1 last
  | [some first, some step, some last] => numbers first step last
  | [] => c.fail s!"seq: missing operand{hint}"
  | _ =>
    match words.find? fun word => (integer? word).isNone with
    | some word => c.fail s!"seq: invalid floating point argument: '{word}'{hint}"
    | none =>
      let extra := words.getD 3 ""
      c.fail s!"seq: extra operand '{extra}'{hint}"

end FeatureSurvey.Utility
