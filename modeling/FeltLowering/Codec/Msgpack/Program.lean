import FeltLowering.Codec.Msgpack
import FeltLowering.Codec.Draft

/-
Programs in MessagePack.

A record is a map from field names to values, in which unknown fields are skipped, or
an array of exactly its fields in order.  An empty array and `nil` stand for a record
with nothing set.
-/
namespace FeltLowering
namespace Msgpack

/-! ## Writing -/

def writeIdent (i : Ident) : Text :=
  writeRecord (("id", writeId i.id) ::
    if i.debugName.isEmpty then [] else [("debug_name", writeText i.debugName)])

def writeArg (a : GenericArg) : Text :=
  writeRecord ((a.value.map fun t => (Text.ofString "value", writeText t)).toList ++
    (a.type.map fun i => (Text.ofString "type", writeIdent i)).toList ++
    (a.userType.map fun t => (Text.ofString "user_type", writeText t)).toList ++
    (a.libfunc.map fun i => (Text.ofString "libfunc", writeIdent i)).toList)

def writeDeclaration (d : Declaration) : Text :=
  writeRecord [("id", writeIdent d.id), ("long_id", writeRecord (("generic_id", writeText d.genericId) ::
    match d.argList with
    | [] => []
    | args => [("generic_args", writeList (args.map writeArg))]))]

def writeDeclarations : Option (List Declaration) → Text
  | none => nil
  | some ds => writeList (ds.map writeDeclaration)

def encodeProgram (p : Program) : Text :=
  writeRecord [("type_declarations", writeDeclarations p.types),
    ("libfunc_declarations", writeDeclarations p.libfuncs)]

/-! ## Reading -/

/-- The fields of a record, each with the reader that reads it over the record. -/
abbrev Fields (α : Type) := List (Text × (α → Reader α))

/-- Reads the value of a key over a record; the value of a key that names no field is
skipped. -/
def readEntry {α : Type} (fields : Fields α) (key : Text) (old : α) : Reader α :=
  match fields.find? fun f => f.1 = key with
  | some f => f.2 old
  | none => do
    skip
    return old

def readEntries {α : Type} (fields : Fields α) : Nat → α → Reader α
  | 0, old => return old
  | n + 1, old => do
    let key ← readText
    let new ← readEntry fields key old
    readEntries fields n new

/-- Reads a record over `old`; `zero` has nothing set. -/
def readRecord {α : Type} (zero : α) (fields : Fields α) (old : α) : Reader α := do
  let c ← byte
  match mapLength? c with
  | some length =>
    match ← length with
    | none => return zero
    | some n => readEntries fields n old
  | none =>
    match arrayLength? c with
    | none => failure
    | some length =>
      match ← length with
      | none => return zero
      | some 0 => return zero
      | some n => if n = fields.length then fields.foldlM (fun r f => f.2 r) old else failure

/-- Reads `n` elements over the entries of `old`. -/
def readElements {α : Type} (zero : α) (read : α → Reader α) : Nat → (old : List α) → Reader (List α)
  | 0, _ => return []
  | n + 1, old => do
    let x ← read (old.headD zero)
    let xs ← readElements zero read n old.tail
    return x :: xs

def readSlots {α : Type} (zero : α) (read : α → Reader α) (old : Option (Slots α)) :
    Reader (Option (Slots α)) := do
  let c ← byte
  match arrayLength? c with
  | none => failure
  | some length =>
    match ← length with
    | none => return none
    | some n =>
      let slots := old.getD .empty
      let used ← readElements zero read n slots.all
      return some (slots.refill used)

/-- Reads a payload: `nil` clears it, any other value is read over it. -/
def readPayload {α : Type} (zero : α) (read : α → Reader α) (old : Option α) : Reader (Option α) := do
  let t ← get
  if t.head? = some 0xC0 then
    let _ ← byte
    return none
  else some <$> read (old.getD zero)

def identFields : Fields Ident :=
  [("id", fun i => do return { i with id := ← readId }),
   ("debug_name", fun i => do return { i with debugName := ← readText })]

def readIdent : Ident → Reader Ident := readRecord ⟨0, []⟩ identFields

def argFields : Fields GenericArg :=
  [("value", fun a => do return { a with value := ← readPayload [] (fun _ => readText) a.value }),
   ("type", fun a => do return { a with type := ← readPayload ⟨0, []⟩ readIdent a.type }),
   ("user_type", fun a => do return { a with userType := ← readPayload [] (fun _ => readText) a.userType }),
   ("libfunc", fun a => do return { a with libfunc := ← readPayload ⟨0, []⟩ readIdent a.libfunc })]

def readArg : GenericArg → Reader GenericArg := readRecord {} argFields

def longIdFields : Fields DeclarationDraft :=
  [("generic_id", fun d => do return { d with genericId := ← readText }),
   ("generic_args", fun d => do return { d with args := ← readSlots {} readArg d.args })]

/-- Reads the generic id and the generic arguments of a declaration, which keeps its id. -/
def readLongId (d : DeclarationDraft) : Reader DeclarationDraft := readRecord { id := d.id } longIdFields d

def declarationFields : Fields DeclarationDraft :=
  [("id", fun d => do return { d with id := ← readIdent d.id }),
   ("long_id", readLongId)]

def readDeclaration : DeclarationDraft → Reader DeclarationDraft := readRecord {} declarationFields

def programFields : Fields ProgramDraft :=
  [("type_declarations", fun p => do return { p with types := ← readSlots {} readDeclaration p.types }),
   ("libfunc_declarations", fun p => do return { p with libfuncs := ← readSlots {} readDeclaration p.libfuncs })]

def decodeProgram? (t : Text) : Option Program :=
  (readRecord {} programFields {} t).map fun (p, _) => p.finish

end Msgpack
end FeltLowering
