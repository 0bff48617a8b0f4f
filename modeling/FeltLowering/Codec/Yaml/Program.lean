import FeltLowering.Codec.Yaml.Node
import FeltLowering.Codec.Yaml.Value
import FeltLowering.Program

/-
Programs in YAML.

A record is a mapping from field names to values.  Unknown fields are skipped, no key
may be given twice, and the key `<<` brings in the fields of other mappings that the
mapping itself does not give.  A null leaves a field as it is, clears a list and a
payload, and is no entry of a list.
-/
namespace FeltLowering
namespace Yaml
namespace Document

/-! ## Scalars -/

def text? (d : Document) (n : Node) : Option (Option Text) :=
  match d.resolve n with
  | .scalar tag t => do
    match ← Value.ofScalar? tag t with
    | .null => return none
    | .text u => return some u
    | _ => return some t
  | _ => none

def readText (d : Document) (old : Text) (n : Node) : Option Text :=
  (d.text? n).map fun t => t.getD old

def readId (d : Document) (old : UInt64) (n : Node) : Option UInt64 :=
  match d.resolve n with
  | .scalar tag t => do
    match ← Value.ofScalar? tag t with
    | .null => return old
    | v => v.toId?
  | _ => none

/-! ## Records -/

/-- What tells the keys of a mapping apart: the kind of node, and its text or the name
it is an alias of. -/
def keyIdentity : Node → Nat × Text
  | .scalar _ t => (0, t)
  | .alias name _ _ => (1, name)
  | .sequence _ _ => (2, [])
  | .mapping _ _ => (3, [])

def hasRepeats {α : Type} [BEq α] : List α → Bool
  | [] => false
  | x :: xs => xs.contains x || hasRepeats xs

def isMerge : Node → Bool
  | .scalar tag t => tag = Text.ofString "!!merge" && t = Text.ofString "<<"
  | _ => false

/-- The named fields among the entries of a mapping, and the last value of a merge
key.  The key null names no field. -/
def named (d : Document) : List (Node × Node) → Option (List (Text × Node) × Option Node)
  | [] => some ([], none)
  | (k, v) :: rest => do
    if isMerge k then
      let (fields, merge) ← d.named rest
      return (fields, merge.or (some v))
    else
      let name ← d.text? k
      let (fields, merge) ← d.named rest
      return (name.toList.map (·, v) ++ fields, merge)

def sources? : Option Node → Option (List Node)
  | none => some []
  | some (.sequence _ items) => some items
  | some n => some [n]

def addFields (given new : List (Text × Node)) : List (Text × Node) :=
  new.foldl (fun fs f => if fs.any (·.1 = f.1) then fs else fs ++ [f]) given

/-- Adds the fields of the mappings a merge key brings in, and of those that they bring
in themselves.  No alias may bring in itself. -/
def mergeFields (d : Document) : (fuel : Nat) → (inside : List Nat) → (given : List (Text × Node)) →
    List Node → Option (List (Text × Node))
  | 0, _, _, _ => none
  | _ + 1, _, given, [] => some given
  | fuel + 1, inside, given, n :: rest => do
    let within ←
      match n with
      | .alias _ _ place => if inside.contains place then none else some (place :: inside)
      | _ => some inside
    match d.resolve n with
    | .mapping _ entries =>
      if hasRepeats (entries.map fun e => keyIdentity e.1) then none
      else
        let (fields, merge) ← d.named entries
        let merged ← d.mergeFields fuel within (addFields given fields) (← sources? merge)
        d.mergeFields fuel inside merged rest
    | _ => none

def fields? (d : Document) (entries : List (Node × Node)) : Option (List (Text × Node)) := do
  if hasRepeats (entries.map fun e => keyIdentity e.1) then none
  else
    let (fields, merge) ← d.named entries
    match merge with
    | none => return fields
    | some _ => d.mergeFields ((d.length + 1) * (d.length + 1)) [] fields (← sources? merge)

abbrev Fields (α : Type) := List (Text × (α → Node → Option α))

/-- Reads a record; a null is none. -/
def readRecord {α : Type} (d : Document) (known : Fields α) (zero : α) (n : Node) : Option (Option α) :=
  match d.resolve n with
  | .scalar tag t => do
    match ← Value.ofScalar? tag t with
    | .null => return none
    | _ => none
  | .mapping _ entries => do
    let given ← d.fields? entries
    let used := given.filter fun f => known.any (·.1 = f.1)
    if hasRepeats (used.map (·.1)) then none
    else
      let r ← used.foldlM (fun r f => (known.find? (·.1 = f.1)).elim (some r) (fun k => k.2 r f.2)) zero
      return some r
  | _ => none

def readList {α : Type} (d : Document) (read : Node → Option (Option α)) (n : Node) :
    Option (Option (List α)) :=
  match d.resolve n with
  | .scalar tag t => do
    match ← Value.ofScalar? tag t with
    | .null => return none
    | _ => none
  | .sequence _ items => do
    let xs ← items.mapM read
    return some (xs.filterMap id)
  | _ => none

/-! ## Programs -/

def identFields (d : Document) : Fields Ident :=
  [("id", fun i n => do return { i with id := ← d.readId i.id n }),
   ("debug_name", fun i n => do return { i with debugName := ← d.readText i.debugName n })]

def readIdent (d : Document) : Node → Option (Option Ident) := d.readRecord d.identFields ⟨0, []⟩

/-- A mapping under the tag of nulls is no payload. -/
def readPayload (d : Document) (n : Node) : Option (Option Ident) :=
  match d.resolve n with
  | .mapping tag _ => if tag = Text.ofString "!!null" then none else d.readIdent n
  | _ => d.readIdent n

def argFields (d : Document) : Fields GenericArg :=
  [("value", fun a n => do return { a with value := ← d.text? n }),
   ("type", fun a n => do return { a with type := ← d.readPayload n }),
   ("user_type", fun a n => do return { a with userType := ← d.text? n }),
   ("libfunc", fun a n => do return { a with libfunc := ← d.readPayload n })]

def longIdFields (d : Document) : Fields Declaration :=
  [("generic_id", fun x n => do return { x with genericId := ← d.readText x.genericId n }),
   ("generic_args", fun x n => do return { x with args := ← d.readList (d.readRecord d.argFields {}) n })]

def declarationFields (d : Document) : Fields Declaration :=
  [("id", fun x n => do return { x with id := (← d.readIdent n).getD x.id }),
   ("long_id", fun x n => do return (← d.readRecord d.longIdFields x n).getD x)]

def readDeclaration (d : Document) : Node → Option (Option Declaration) :=
  d.readRecord d.declarationFields ⟨⟨0, []⟩, [], none⟩

def programFields (d : Document) : Fields Program :=
  [("type_declarations", fun p n => do return { p with types := ← d.readList d.readDeclaration n }),
   ("libfunc_declarations", fun p n => do return { p with libfuncs := ← d.readList d.readDeclaration n })]

def toProgram? (d : Document) : Option Program := (d.readRecord d.programFields {} d.root).map (·.getD {})

end Document

/-- The program of the first document of a text; a text without a document gives the
empty program. -/
def decodeProgram? (t : Text) : Option Program := do
  match ← Document.parse? t with
  | none => return {}
  | some d => d.toProgram?

end Yaml
end FeltLowering
