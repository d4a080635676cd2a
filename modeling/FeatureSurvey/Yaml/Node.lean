import FeatureSurvey.Yaml.Scanner

/-!
# `Yaml/Node.lean` — from tokens to a tree

A document is a tree of scalars, sequences and mappings; a node may have an anchor, and an alias
stands for an anchored node. Anchors are numbered: a new name takes as its number the count of
names seen so far, and so does a name that is given a second time (which is why two anchors can
end up with one number; the node that began last then answers for both). An alias takes the
number that its name has where the alias stands.

`Outline` is what parsing leaves: the root, the anchored nodes, and how many events the tree is
made of. A text holds at most one document.
-/

set_option autoImplicit false

namespace FeatureSurvey.Yaml

inductive Node where
  | scalar (w : Scalar)
  | sequence (tag : Option String) (items : List Node)
  | mapping (tag : Option String) (entries : List (Node × Node))
  | alias (number : Nat)
  deriving Inhabited

/-- A place without anything. -/
def Node.nothing : Node := .scalar ⟨"", .plain, none⟩

/-- An anchored node, with its number and how many anchored nodes began before it. -/
structure Anchored where
  number : Nat
  order : Nat
  node : Node

/-- What the parser carries along. -/
structure Build where
  tokens : List Token
  handles : List (String × String)
  names : List (String × Nat)
  order : Nat
  anchored : List Anchored
  events : Nat

abbrev Parse (α : Type) := StateT Build Option α

namespace Parse

def refuse {α : Type} : Parse α := fun _ => none

def peek : Parse Token := do
  match (← get).tokens with
  | t :: _ => pure t
  | [] => refuse

def skip : Parse Unit := modify fun b => { b with tokens := b.tokens.drop 1 }

def event : Parse Unit := modify fun b => { b with events := b.events + 1 }

/-- Give an anchor its number, at the place where its node begins. -/
def openAnchor : Option String → Parse (Option (Nat × Nat))
  | none => pure none
  | some name => do
    let b ← get
    let number := b.names.length
    let names :=
      if b.names.any (·.1 == name) then
        b.names.map fun e => if e.1 == name then (name, number) else e
      else (name, number) :: b.names
    set { b with names, order := b.order + 1 }
    pure (some (number, b.order))

def closeAnchor (place : Option (Nat × Nat)) (node : Node) : Parse Node := do
  match place with
  | some (number, order) =>
    modify fun b => { b with anchored := ⟨number, order, node⟩ :: b.anchored }
    pure node
  | none => pure node

def aliasNumber (name : String) : Parse Nat := do
  match (← get).names.find? (·.1 == name) with
  | some (_, n) => pure n
  | none => refuse

/-- Spell out a tag. -/
def resolveTag (handle suffix : String) : Parse String := do
  if handle.isEmpty then pure suffix
  else
    match (← get).handles.find? (·.1 == handle) with
    | some (_, lead) => pure (lead ++ suffix)
    | none => refuse

/-- The anchor and the tag of a node, in either order and each at most once. -/
def properties : Nat → Option String → Option String → Parse (Option String × Option String)
  | 0, anchor, tag => pure (anchor, tag)
  | fuel + 1, anchor, tag => do
    match ← peek with
    | .anchor name =>
      if anchor.isSome then pure (anchor, tag)
      else do
        skip
        properties fuel (some name) tag
    | .tag handle suffix =>
      if tag.isSome then pure (anchor, tag)
      else do
        skip
        properties fuel anchor (some (← resolveTag handle suffix))
    | _ => pure (anchor, tag)

end Parse

open Parse

/-! ## Nodes

Where a node may be missing, the tokens that end the place are named; anything else has to be a
node. `block` allows block collections, and `bare` a sequence at the column of the mapping it
stands in. -/

/-- Is there nothing where a value of a block mapping may stand? -/
def Token.endsBlockPlace : Token → Bool
  | .key => true
  | .value => true
  | .blockEnd => true
  | _ => false

/-- Is there nothing where a member of a flow sequence may stand? -/
def Token.endsFlowItem : Token → Bool
  | .flowEntry => true
  | .flowSequenceEnd => true
  | _ => false

def Token.endsFlowPlace : Token → Bool
  | .flowEntry => true
  | .flowMappingEnd => true
  | _ => false

def emptyNode : Parse Node := do
  event
  pure .nothing

mutual

def node (fuel : Nat) (block bare : Bool) : Parse Node :=
  match fuel with
  | 0 => refuse
  | fuel + 1 => do
    match ← peek with
    | .alias name =>
      skip
      event
      pure (.alias (← aliasNumber name))
    | _ =>
      let (anchor, tag) ← properties 2 none none
      let place ← openAnchor anchor
      let tree ←
        match ← peek, bare, block with
        | .blockEntry, true, _ => do
          event
          let items ← bareItems fuel
          event
          pure (Node.sequence tag items)
        | .scalar text style, _, _ => do
          skip
          event
          pure (Node.scalar ⟨text, style, tag.filter (· != "!")⟩)
        | .flowSequenceStart, _, _ => do
          skip
          event
          let items ← flowItems fuel true
          event
          pure (Node.sequence tag items)
        | .flowMappingStart, _, _ => do
          skip
          event
          let entries ← flowEntries fuel true
          event
          pure (Node.mapping tag entries)
        | .blockSequenceStart, _, true => do
          skip
          event
          let items ← blockItems fuel
          event
          pure (Node.sequence tag items)
        | .blockMappingStart, _, true => do
          skip
          event
          let entries ← blockEntries fuel
          event
          pure (Node.mapping tag entries)
        | _, _, _ =>
          if anchor.isSome || tag.isSome then do
            event
            pure (Node.scalar ⟨"", .plain, tag⟩)
          else refuse
      closeAnchor place tree

/-- The entries of a block sequence, to its end. -/
def blockItems (fuel : Nat) : Parse (List Node) :=
  match fuel with
  | 0 => refuse
  | fuel + 1 => do
    match ← peek with
    | .blockEntry =>
      skip
      let item ←
        match ← peek with
        | .blockEntry => emptyNode
        | .blockEnd => emptyNode
        | _ => node fuel true false
      pure (item :: (← blockItems fuel))
    | .blockEnd =>
      skip
      pure []
    | _ => refuse

/-- The entries of a block sequence that has no end of its own. -/
def bareItems (fuel : Nat) : Parse (List Node) :=
  match fuel with
  | 0 => refuse
  | fuel + 1 => do
    match ← peek with
    | .blockEntry =>
      skip
      let next ← peek
      let item ←
        if next == .blockEntry || next.endsBlockPlace then emptyNode else node fuel true false
      pure (item :: (← bareItems fuel))
    | _ => pure []

/-- The entries of a block mapping, to its end. -/
def blockEntries (fuel : Nat) : Parse (List (Node × Node)) :=
  match fuel with
  | 0 => refuse
  | fuel + 1 => do
    match ← peek with
    | .key =>
      skip
      let k ← if (← peek).endsBlockPlace then emptyNode else node fuel true true
      let v ← blockValue fuel
      pure ((k, v) :: (← blockEntries fuel))
    | .blockEnd =>
      skip
      pure []
    | _ => refuse

def blockValue (fuel : Nat) : Parse Node :=
  match fuel with
  | 0 => refuse
  | fuel + 1 => do
    match ← peek with
    | .value =>
      skip
      if (← peek).endsBlockPlace then emptyNode else node fuel true true
    | _ => emptyNode

/-- The members of a flow sequence, to its end. A key makes a mapping of one entry. -/
def flowItems (fuel : Nat) (first : Bool) : Parse (List Node) :=
  match fuel with
  | 0 => refuse
  | fuel + 1 => do
    if (← peek) == .flowSequenceEnd then
      skip
      pure []
    else do
      if !first then
        if (← peek) == .flowEntry then skip else refuse
      match ← peek with
      | .flowSequenceEnd =>
        skip
        pure []
      | .key =>
        skip
        event
        let k ←
          match ← peek with
          | .value => do
            skip
            emptyNode
          | .flowEntry => do
            skip
            emptyNode
          | .flowSequenceEnd => do
            skip
            emptyNode
          | _ => node fuel false false
        let v ← flowValue fuel Token.endsFlowItem
        event
        pure (.mapping none [(k, v)] :: (← flowItems fuel false))
      | _ =>
        let item ← node fuel false false
        pure (item :: (← flowItems fuel false))

/-- The entries of a flow mapping, to its end. A member without a key mark is a key alone. -/
def flowEntries (fuel : Nat) (first : Bool) : Parse (List (Node × Node)) :=
  match fuel with
  | 0 => refuse
  | fuel + 1 => do
    if (← peek) == .flowMappingEnd then
      skip
      pure []
    else do
      if !first then
        if (← peek) == .flowEntry then skip else refuse
      match ← peek with
      | .flowMappingEnd =>
        skip
        pure []
      | .key =>
        skip
        let next ← peek
        let k ←
          if next == .value || next.endsFlowPlace then emptyNode else node fuel false false
        let v ← flowValue fuel Token.endsFlowPlace
        pure ((k, v) :: (← flowEntries fuel false))
      | _ =>
        let k ← node fuel false false
        let v ← emptyNode
        pure ((k, v) :: (← flowEntries fuel false))

def flowValue (fuel : Nat) (ends : Token → Bool) : Parse Node :=
  match fuel with
  | 0 => refuse
  | fuel + 1 => do
    match ← peek with
    | .value =>
      skip
      if ends (← peek) then emptyNode else node fuel false false
    | _ => emptyNode

end

/-! ## Documents -/

/-- The directives in front of a document: a version that is known, at most once, and handles,
each at most once. -/
def directives : Nat → Bool → List String → Parse Bool
  | 0, _, _ => refuse
  | fuel + 1, versioned, seen => do
    match ← peek with
    | .versionDirective major minor =>
      if versioned || major ≠ 1 || (minor ≠ 1 && minor ≠ 2) then refuse
      else
        skip
        directives fuel true seen
    | .tagDirective handle lead =>
      if seen.contains handle then refuse
      else
        skip
        modify fun b => { b with handles := b.handles ++ [(handle, lead)] }
        directives fuel versioned (handle :: seen)
    | _ => pure (versioned || !seen.isEmpty)

/-- The handles that every document has. -/
def standardHandles : Parse Unit := modify fun b =>
  { b with handles := b.handles ++ [("!", "!"), ("!!", "tag:yaml.org,2002:")] }

/-- After the document: markers of its end, and then nothing. -/
def streamRest : Nat → Parse Unit
  | 0 => refuse
  | fuel + 1 => do
    match ← peek with
    | .documentEnd =>
      skip
      streamRest fuel
    | .streamEnd => pure ()
    | _ => refuse

/-- The root of the one document, or nothing if the text holds no document. -/
def stream (fuel : Nat) : Parse (Option Node) := do
  match ← peek with
  | .streamEnd => pure none
  | _ =>
    let directed ← directives fuel false []
    standardHandles
    let root ←
      match ← peek with
      | .documentStart => do
        skip
        match ← peek with
        | .documentEnd => emptyNode
        | .streamEnd => emptyNode
        | .documentStart => emptyNode
        | .versionDirective _ _ => emptyNode
        | .tagDirective _ _ => emptyNode
        | _ => node fuel true false
      | _ => if directed then refuse else node fuel true false
    streamRest fuel
    pure (some root)

structure Outline where
  root : Option Node
  anchored : List Anchored
  events : Nat

def outline? (text : String) : Option Outline := do
  let tokens ← scan? text
  let fuel := 4 * tokens.length + 16
  let (root, b) ← stream fuel
    { tokens, handles := [], names := [], order := 0, anchored := [], events := 0 }
  some ⟨root, b.anchored, b.events⟩

end FeatureSurvey.Yaml
