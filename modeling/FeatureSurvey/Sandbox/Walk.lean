import FeatureSurvey.Host.Basic
import FeatureSurvey.Host.Path
import FeatureSurvey.Sandbox.Tree

/-!
# `Sandbox/Walk.lean` — following paths in a tree

A path is followed piece by piece, from the root or from the place one is at. Every place passed
on the way has to be a directory; the last one need not be there. An empty path leads nowhere,
and a name may have 255 bytes.

The steps below are those that a system offers on files and directories, with its refusals.
-/

set_option autoImplicit false

namespace FeatureSurvey.Sandbox

namespace Tree

/-- Go on from a place along pieces of a path. -/
def follow (t : Tree) (place : Place) : List String → Except OsError Place
  | [] => .ok place
  | piece :: rest =>
    match t.entryAt? place with
    | none => .error .notFound
    | some .directory =>
      if !Path.isTelling piece then follow t place rest
      else if piece == ".." then follow t place.dropLast rest
      else if 255 < piece.utf8ByteSize then .error .nameTooLong
      else follow t (place ++ [piece]) rest
    | some _ => .error .notDirectory

/-- The place that a path leads to, whether or not anything is there. -/
def locate (t : Tree) (here : Place) (path : String) : Except OsError Place :=
  if path.isEmpty then .error .notFound
  else if path.toList.contains '\x00' then .error .nulInPath
  else t.follow (if Path.isAbsolute path then [] else here) (Path.pieces path)

/-- The place and what stands there. -/
def find (t : Tree) (here : Place) (path : String) : Except OsError (Place × Entry) :=
  match t.locate here path with
  | .error e => .error e
  | .ok place =>
    match t.entryAt? place with
    | some entry => .ok (place, entry)
    | none => .error .notFound

def Entry.kind : Entry → EntryKind
  | .directory => .directory
  | .file _ _ => .file
  | .program _ => .file
  | .void => .other

def kind? (t : Tree) (here : Place) (path : String) : Option EntryKind :=
  match t.find here path with
  | .ok (_, entry) => some (Entry.kind entry)
  | .error _ => none

/-- What can be read from an entry. -/
def Entry.content : Entry → Except OsError ByteArray
  | .file bytes _ => .ok bytes
  | .directory => .error .isDirectory
  | .program _ => .ok ByteArray.empty
  | .void => .ok ByteArray.empty

def read (t : Tree) (here : Place) (path : String) : Except OsError ByteArray :=
  match t.find here path with
  | .ok (_, entry) => Entry.content entry
  | .error e => .error e

def list (t : Tree) (here : Place) (path : String) : Except OsError (List String) :=
  match t.find here path with
  | .ok (place, .directory) => .ok (t.namesIn place)
  | .ok _ => .error .notDirectory
  | .error e => .error e

/-- The absolute path of a place. -/
def pathOf (place : Place) : String := "/" ++ String.intercalate "/" place

/-! ## Writing files -/

/-- Where a file can be opened for writing, with its bytes and its mark if it is there. -/
def writable (t : Tree) (here : Place) (path : String) :
    Except OsError (Place × Option (ByteArray × Bool)) :=
  match t.locate here path with
  | .error e => .error e
  | .ok place =>
    match t.entryAt? place with
    | none => .ok (place, none)
    | some (.file bytes executable) => .ok (place, some (bytes, executable))
    | some .directory => .error .isDirectory
    | some (.program _) => .error .busy
    | some .void => .ok (place, none)

/-- Put bytes at a place, unless what stands there takes everything. -/
def store (t : Tree) (place : Place) (bytes : ByteArray) (executable : Bool) : Tree :=
  match t.entryAt? place with
  | some .void => t
  | _ => t.put place (.file bytes executable)

/-- Write a file anew; one that was there keeps its mark. -/
def write (t : Tree) (here : Place) (path : String) (bytes : ByteArray) : Except OsError Tree :=
  match t.writable here path with
  | .error e => .error e
  | .ok (place, old) => .ok (t.store place bytes ((old.map (·.2)).getD false))

/-- Write behind the end of a file that is there. -/
def append (t : Tree) (here : Place) (path : String) (bytes : ByteArray) : Except OsError Tree :=
  match t.writable here path with
  | .error e => .error e
  | .ok (_, none) => if (t.kind? here path).isSome then .ok t else .error .notFound
  | .ok (place, some (old, executable)) => .ok (t.store place (old ++ bytes) executable)

/-- Copy a file with its mark. -/
def copy (t : Tree) (here : Place) (source dest : String) : Except OsError Tree :=
  match t.find here source with
  | .error e => .error e
  | .ok (_, .directory) => .error .isDirectory
  | .ok (_, entry) =>
    match Entry.content entry, t.writable here dest with
    | .ok bytes, .ok (place, _) =>
      let executable := match entry with
        | .file _ executable => executable
        | _ => false
      .ok (t.store place bytes executable)
    | .error e, _ => .error e
    | _, .error e => .error e

/-! ## Directories -/

/-- Make one directory, in one that is there. -/
def makeDirectory (t : Tree) (here : Place) (path : String) : Except OsError Tree :=
  match t.locate here (Path.withoutTrailing path) with
  | .error e => .error e
  | .ok place => if (t.entryAt? place).isSome then .error .exists else .ok (t.put place .directory)

/-- Make a directory and those above it that are missing. If this fails in between, those that were
made stay. The steps are bounded by the pieces of the path. -/
def layDirectories (t : Tree) (here : Place) : Nat → String → Except OsError Unit × Tree
  | 0, _ => (.error .notFound, t)
  | steps + 1, path =>
    if path.isEmpty then (.ok (), t)
    else
      match t.makeDirectory here path with
      | .ok t => (.ok (), t)
      | .error .notFound =>
        match Path.parent? path with
        | none => (.error .notFound, t)
        | some parent =>
          match t.layDirectories here steps parent with
          | (.error e, t) => (.error e, t)
          | (.ok (), t) =>
            match t.makeDirectory here path with
            | .ok t => (.ok (), t)
            | .error e => (if t.kind? here path = some .directory then .ok () else .error e, t)
      | .error e => (if t.kind? here path = some .directory then .ok () else .error e, t)

def layPath (t : Tree) (here : Place) (path : String) : Except OsError Unit × Tree :=
  t.layDirectories here ((Path.pieces path).length + 1) path

/-- The tree with a directory and those above it, if it can be made. -/
def makeDirectories (t : Tree) (here : Place) (path : String) : Except OsError Tree :=
  let (result, t) := t.layPath here path
  result.map fun () => t

/-- Remove a directory with everything inside it. -/
def removeDirectory (t : Tree) (here : Place) (path : String) : Except OsError Tree :=
  match t.find here path with
  | .ok (place, .directory) => if place.isEmpty then .error .busy else .ok (t.remove place)
  | .ok _ => .error .notDirectory
  | .error e => .error e

end Tree

end FeatureSurvey.Sandbox
