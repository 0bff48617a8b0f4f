import FeltLowering.Codec.Yaml.Token
import FeltLowering.Codec.Yaml.Source

/-
The tree of a document.

An alias keeps the number of the node it stands for, since that node may hold the alias
itself.  The nodes with an anchor are kept beside the tree.
-/
namespace FeltLowering
namespace Yaml

/-- A node.  A tag that is not written is empty, apart from that of a scalar in quotes
or in a block, which is a text. -/
inductive Node where
  | scalar (tag text : Text)
  | sequence (tag : Text) (items : List Node)
  | mapping (tag : Text) (entries : List (Node × Node))
  /-- The name and the number of the anchor, and the number of the alias itself. -/
  | alias (name : Text) (target place : Nat)

structure Document where
  root : Node
  /-- The nodes with an anchor, by number. -/
  anchored : List (Nat × Node)
  /-- The number of characters, which bounds the number of nodes. -/
  length : Nat

namespace Node

def empty : Node := .scalar [] []

end Node

structure Builder where
  scanner : Scanner
  /-- The tag handles in force, and what they stand for. -/
  handles : List (Text × Text) := []
  /-- The number that each anchor name stands for, the latest first. -/
  names : List (Text × Nat) := []
  anchored : List (Nat × Node) := []
  aliases : Nat := 0

abbrev Building := StateT Builder Option

namespace Building

def peek : Building Token := do
  let b ← get
  let (t, s) ← b.scanner.peek
  set { b with scanner := s }
  return t

def drop : Building Unit := modify fun b => { b with scanner := b.scanner.drop }

/-! ## Directives -/

def defaultHandles : List (Text × Text) := [("!", "!"), ("!!", "tag:yaml.org,2002:")]

def directives : (fuel : Nat) → (versioned : Bool) → Building Unit
  | 0, _ => failure
  | fuel + 1, versioned => do
    match ← peek with
    | .version major minor =>
      if versioned || major ≠ 1 || minor ≠ 1 then failure
      else
        drop
        directives fuel true
    | .tagDirective handle start =>
      if (← get).handles.any (·.1 = handle) then failure
      else
        modify fun b => { b with handles := b.handles ++ [(handle, start)] }
        drop
        directives fuel versioned
    | _ => modify fun b => { b with handles := b.handles ++ defaultHandles }

/-! ## Anchors and tags -/

def fullTag (handle suffix : Text) : Building Text := do
  if handle.isEmpty then return suffix
  else
    match (← get).handles.find? (·.1 = handle) with
    | none => failure
    | some (_, start) => if (start ++ suffix).isEmpty then failure else return start ++ suffix

def readAnchor : Building (Option Text) := do
  match ← peek with
  | .anchor name =>
    drop
    return some name
  | _ => return none

def readTag : Building Text := do
  match ← peek with
  | .tag handle suffix =>
    drop
    fullTag handle suffix
  | _ => return []

/-- Reads an anchor and a tag, which may come in either order. -/
def properties : Building (Option Text × Text) := do
  match ← readAnchor with
  | some name => return (some name, ← readTag)
  | none =>
    let tag ← readTag
    if tag.isEmpty then return (none, tag) else return (← readAnchor, tag)

/-- Gives an anchor its number, before the node is read. -/
def enter (name : Option Text) : Building (Option Nat) := do
  match name with
  | none => return none
  | some name =>
    let number := (← get).names.length
    modify fun b => { b with names := (name, number) :: b.names }
    return some number

def keep (number : Option Nat) (n : Node) : Building Node := do
  match number with
  | none => return n
  | some number =>
    modify fun b => { b with anchored := (number, n) :: b.anchored }
    return n

def aliasNode (name : Text) : Building Node := do
  let b ← get
  match b.names.find? (·.1 = name) with
  | none => failure
  | some (_, target) =>
    set { b with aliases := b.aliases + 1 }
    return .alias name target b.aliases

/-- The tags of the format itself in their short form. -/
def shortTag (tag : Text) : Text :=
  let start := Text.ofString "tag:yaml.org,2002:"
  if Text.startsWith tag start then "!!" ++ tag.drop start.length else tag

/-- A scalar with the tag written in front of it.  The tag `!` says nothing. -/
def scalarNode (tag text : Text) (plain : Bool) : Node :=
  if tag ≠ [] && tag ≠ Text.ofString "!" then .scalar (shortTag tag) text
  else if !plain then .scalar "!!str" text
  else if text = Text.ofString "<<" then .scalar "!!merge" text
  else .scalar [] text

/-! ## Nodes -/

mutual

/-- Reads a node.  In a flow collection no block may start; the value of a block mapping
may be a sequence that is not indented further than the mapping. -/
def node (block indentless : Bool) : (fuel : Nat) → Building Node
  | 0 => failure
  | fuel + 1 => do
    match ← peek with
    | .alias name =>
      drop
      aliasNode name
    | _ =>
      let (anchor, tag) ← properties
      let number ← enter anchor
      let n ← content block indentless (anchor.isSome || !tag.isEmpty) tag fuel
      keep number n

/-- Reads what stands behind the anchor and the tag of a node.  With either of them the
node may be left out. -/
def content (block indentless marked : Bool) (tag : Text) : (fuel : Nat) → Building Node
  | 0 => failure
  | fuel + 1 => do
    let t ← peek
    if indentless && t = .blockEntry then return .sequence (shortTag tag) (← entries false fuel)
    else
      match t with
      | .scalar text plain =>
        drop
        return scalarNode tag text plain
      | .flowSequenceStart =>
        drop
        return .sequence (shortTag tag) (← flowItems true fuel)
      | .flowMappingStart =>
        drop
        return .mapping (shortTag tag) (← flowPairs true fuel)
      | .blockSequenceStart =>
        if !block then failure
        else
          drop
          return .sequence (shortTag tag) (← entries true fuel)
      | .blockMappingStart =>
        if !block then failure
        else
          drop
          return .mapping (shortTag tag) (← pairs fuel)
      | _ => if marked then return scalarNode tag [] true else failure

/-- Reads a node, unless one of some tokens shows that it is left out. -/
def nodeUnless (stops : List Token) (block indentless : Bool) : (fuel : Nat) → Building Node
  | 0 => failure
  | fuel + 1 => do
    if stops.contains (← peek) then return Node.empty else node block indentless fuel

/-- Reads the entries of a block sequence.  One that is not indented ends where its
entries end. -/
def entries (indented : Bool) : (fuel : Nat) → Building (List Node)
  | 0 => failure
  | fuel + 1 => do
    match ← peek with
    | .blockEntry =>
      drop
      let stops := if indented then [.blockEntry, .blockEnd] else [.blockEntry, .key, .value, .blockEnd]
      let n ← nodeUnless stops true false fuel
      return n :: (← entries indented fuel)
    | .blockEnd =>
      if indented then drop
      return []
    | _ => if indented then failure else return []

def pairs : (fuel : Nat) → Building (List (Node × Node))
  | 0 => failure
  | fuel + 1 => do
    match ← peek with
    | .key =>
      drop
      let k ← nodeUnless [.key, .value, .blockEnd] true true fuel
      let v ← pairValue [.key, .value, .blockEnd] true fuel
      return (k, v) :: (← pairs fuel)
    | .blockEnd =>
      drop
      return []
    | _ => failure

/-- Reads the value of an entry; without a colon there is none. -/
def pairValue (stops : List Token) (block : Bool) : (fuel : Nat) → Building Node
  | 0 => failure
  | fuel + 1 => do
    if (← peek) = .value then
      drop
      nodeUnless stops block block fuel
    else return Node.empty

def flowItems (first : Bool) : (fuel : Nat) → Building (List Node)
  | 0 => failure
  | fuel + 1 => do
    let t ← peek
    if t = .flowSequenceEnd then
      drop
      return []
    else if !first && t ≠ .flowEntry then failure
    else
      if !first then drop
      match ← peek with
      | .key =>
        drop
        let n ← singlePair fuel
        return n :: (← flowItems false fuel)
      | .flowSequenceEnd =>
        drop
        return []
      | _ =>
        let n ← node false false fuel
        return n :: (← flowItems false fuel)

def singlePair : (fuel : Nat) → Building Node
  | 0 => failure
  | fuel + 1 => do
    let t ← peek
    if [Token.value, .flowEntry, .flowSequenceEnd].contains t then
      drop
      let v ← pairValue [.flowEntry, .flowSequenceEnd] false fuel
      return .mapping [] [(Node.empty, v)]
    else
      let k ← node false false fuel
      let v ← pairValue [.flowEntry, .flowSequenceEnd] false fuel
      return .mapping [] [(k, v)]

def flowPairs (first : Bool) : (fuel : Nat) → Building (List (Node × Node))
  | 0 => failure
  | fuel + 1 => do
    let t ← peek
    if t = .flowMappingEnd then
      drop
      return []
    else if !first && t ≠ .flowEntry then failure
    else
      if !first then drop
      match ← peek with
      | .key =>
        drop
        let k ← nodeUnless [.value, .flowEntry, .flowMappingEnd] false false fuel
        let v ← pairValue [.flowEntry, .flowMappingEnd] false fuel
        return (k, v) :: (← flowPairs false fuel)
      | .flowMappingEnd =>
        drop
        return []
      | _ =>
        let k ← node false false fuel
        return (k, Node.empty) :: (← flowPairs false fuel)

end

/-! ## Documents -/

def marked (fuel : Nat) : Building Node := do
  directives fuel false
  if (← peek) ≠ .documentStart then failure
  else
    drop
    match ← peek with
    | .version _ _ | .tagDirective _ _ | .documentStart | .documentEnd | .streamEnd => return Node.empty
    | _ => node true false fuel

def document? (fuel : Nat) : Building (Option Node) := do
  let _ ← peek
  drop
  match ← peek with
  | .streamEnd => return none
  | .version _ _ | .tagDirective _ _ | .documentStart =>
    let n ← marked fuel
    let _ ← peek
    return some n
  | _ =>
    modify fun b => { b with handles := defaultHandles }
    let n ← node true false fuel
    let _ ← peek
    return some n

end Building

namespace Document

/-- The node that an alias stands for; any other node stands for itself. -/
def resolve (d : Document) : Node → Node
  | .alias _ target _ => ((d.anchored.find? (·.1 = target)).map (·.2)).getD Node.empty
  | n => n

/-- The first document of a text, which an empty stream has none of.  Every character
gives at most four tokens, and every token is read in at most two steps. -/
def parse? (t : Text) : Option (Option Document) := do
  let cs ← characters? t
  let (root, b) ← Building.document? (8 * cs.length + 64) { scanner := { cursor := { rest := cs } } }
  return root.map fun n => ⟨n, b.anchored, cs.length⟩

end Document
end Yaml
end FeltLowering
