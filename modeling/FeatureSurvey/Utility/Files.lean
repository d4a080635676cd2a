import FeatureSurvey.Utility.Basic

/-!
# `Utility/Files.lean` — utilities that change the tree

`touch` makes files, `mkdir` directories, `rm` removes both and `cp` copies them. Each goes through
its operands in order and carries on after one that fails.
-/

set_option autoImplicit false

namespace FeatureSurvey.Utility

open Sandbox

/-- Do something for each operand; what fails costs a message and the status. -/
def Call.forEach (c : Call) (operands : List String)
    (act : Tree → String → Except String Tree) : Reply :=
  operands.foldl (fun reply operand =>
    match act reply.tree operand with
    | .ok tree => { reply with tree }
    | .error message => { reply with status := 1, err := reply.err ++ message ++ "\n" })
    (c.reply "")

def touch (c : Call) : Reply :=
  let (_, files) := switches ['d', 't', 'r'] none c.arguments
  if files.isEmpty then c.fail "touch: missing file operand"
  else
    c.forEach files fun tree file =>
      let path := Bytes.toText file
      if (tree.kind? c.here path).isSome then .ok tree
      else (tree.write c.here path ByteArray.empty).mapError fun e =>
        s!"touch: cannot touch '{file}': {reason e}"

def mkdir (c : Call) : Reply :=
  let (given, dirs) := switches ['m'] none c.arguments
  if dirs.isEmpty then c.fail "mkdir: missing operand"
  else
    c.forEach dirs fun tree dir =>
      let path := Bytes.toText dir
      let made :=
        if hasSwitch given 'p' then tree.makeDirectories c.here path
        else tree.makeDirectory c.here path
      made.mapError fun e => s!"mkdir: cannot create directory '{dir}': {reason e}"

def rm (c : Call) : Reply :=
  let (given, files) := switches [] none c.arguments
  let force := hasSwitch given 'f'
  let deep := hasSwitch given 'r' || hasSwitch given 'R'
  if files.isEmpty then if force then c.reply "" else c.fail "rm: missing operand"
  else
    c.forEach files fun tree file =>
      match tree.find c.here (Bytes.toText file) with
      | .error .notFound =>
        if force then .ok tree else .error s!"rm: cannot remove '{file}': {reason .notFound}"
      | .error .notDirectory =>
        if force then .ok tree else .error s!"rm: cannot remove '{file}': {reason .notDirectory}"
      | .error e => .error s!"rm: cannot remove '{file}': {reason e}"
      | .ok (place, .directory) =>
        if !deep then .error s!"rm: cannot remove '{file}': {reason .isDirectory}"
        else if place.isEmpty then .error "rm: it is dangerous to operate recursively on '/'"
        else .ok (tree.remove place)
      | .ok (place, _) => .ok (tree.remove place)

/-! ## Copying -/

/-- Copy what is inside one place into another, directories before what they hold. -/
def copyInside (tree : Tree) (source dest : Place) : Tree :=
  let inside := tree.entries.filter fun e =>
    source.isPrefixOf e.1 && source.length < e.1.length
  let byDepth := inside.mergeSort fun a b => decide (a.1.length ≤ b.1.length)
  byDepth.foldl (fun tree (place, entry) =>
    let target := dest ++ place.drop source.length
    match entry, tree.entryAt? target with
    | .directory, some .directory => tree
    | _, _ => tree.put target entry) tree

/-- The last piece of a path as it is written, which may be a dot. -/
def lastPiece (path : String) : String :=
  ((Path.pieces (Path.withoutTrailing path)).getLast?).getD path

def copyOne (c : Call) (deep : Bool) (target : String) (into : Bool) (tree : Tree)
    (source : String) : Except String Tree :=
  let dest := Bytes.toText (if into then Path.join target (lastPiece source) else target)
  match tree.find c.here (Bytes.toText source) with
  | .error e => .error s!"cp: cannot stat '{source}': {reason e}"
  | .ok (place, .directory) =>
    let kind := tree.kind? c.here dest
    if !deep then .error s!"cp: -r not specified; omitting directory '{source}'"
    else if kind.isSome && kind != some .directory then
      .error s!"cp: cannot overwrite non-directory '{dest}' with directory '{source}'"
    else
      let made :=
        if tree.kind? c.here dest = some .directory then .ok tree
        else tree.makeDirectory c.here dest
      match made, tree.locate c.here (Path.withoutTrailing dest) with
      | .ok tree, .ok target => .ok (copyInside tree place target)
      | .error e, _ => .error s!"cp: cannot create directory '{dest}': {reason e}"
      | _, .error e => .error s!"cp: cannot create directory '{dest}': {reason e}"
  | .ok _ =>
    (tree.copy c.here (Bytes.toText source) dest).mapError fun e =>
      s!"cp: cannot create regular file '{dest}': {reason e}"

def cp (c : Call) : Reply :=
  let (given, operands) := switches [] none c.arguments
  let deep := hasSwitch given 'r' || hasSwitch given 'R' || hasSwitch given 'a'
  match operands.reverse with
  | [] => c.fail "cp: missing file operand"
  | [only] => c.fail s!"cp: missing destination file operand after '{only}'"
  | target :: sources =>
    let into := c.tree.kind? c.here (Bytes.toText target) = some .directory
    let misplaced := match c.tree.find c.here (Bytes.toText target) with
      | .error .notDirectory => true
      | _ => false
    if misplaced then c.fail s!"cp: cannot stat '{target}': {reason .notDirectory}"
    else if 1 < sources.length && !into then
      c.fail s!"cp: target '{target}': {reason .notDirectory}"
    else c.forEach sources.reverse (copyOne c deep target into)

end FeatureSurvey.Utility
