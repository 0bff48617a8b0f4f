import FeltLowering.Codec.Json.Reader
import FeltLowering.Codec.Draft
import FeltLowering.Decimal
import FeltLowering.Text.Fold

/-
Programs in JSON.

A key names the field spelled the same, or else the field that differs from it in case
only; a key that names no field is refused.  The value `null` leaves a field as it is,
except that it clears a list and a payload.
-/
namespace FeltLowering
namespace Json

/-! ## Writing -/

def ofIdent (i : Ident) : Json :=
  .object (("id", ofNat i.id.toNat) ::
    if i.debugName.isEmpty then [] else [("debug_name", .string i.debugName)])

def ofArg (a : GenericArg) : Json :=
  .object ((a.value.map fun t => (Text.ofString "value", Json.string t)).toList ++
    (a.type.map fun i => (Text.ofString "type", ofIdent i)).toList ++
    (a.userType.map fun t => (Text.ofString "user_type", Json.string t)).toList ++
    (a.libfunc.map fun i => (Text.ofString "libfunc", ofIdent i)).toList)

def ofDeclaration (d : Declaration) : Json :=
  .object [("id", ofIdent d.id), ("long_id", .object (("generic_id", .string d.genericId) ::
    match d.argList with
    | [] => []
    | args => [("generic_args", .array (args.map ofArg))]))]

def ofDeclarations : Option (List Declaration) → Json
  | none => .null
  | some ds => .array (ds.map ofDeclaration)

def ofProgram (p : Program) : Json :=
  .object [("type_declarations", ofDeclarations p.types), ("libfunc_declarations", ofDeclarations p.libfuncs)]

/-! ## Reading -/

/-- A record read member by member over `old`. -/
def readRecord {α : Type} (fields : List (Text × (α → Json → Option α))) (old : α) :
    List (Text × Json) → Option α
  | [] => some old
  | (k, v) :: rest => do
    let field ← Text.findFolded? fields k
    let new ← field.2 old v
    readRecord fields new rest

def readObject {α : Type} (fields : List (Text × (α → Json → Option α))) (old : α) : Json → Option α
  | .null => some old
  | .object ms => readRecord fields old ms
  | _ => none

def readText (old : Text) : Json → Option Text
  | .null => some old
  | .string t => some t
  | _ => none

def readId (old : UInt64) : Json → Option UInt64
  | .null => some old
  | .number t => do
    let n ← Decimal.parseNat? t
    if n < twoPow 64 then some n.toUInt64 else none
  | _ => none

/-- A payload: `null` clears it, any other value is read over it. -/
def readPayload {α : Type} (zero : α) (read : α → Json → Option α) (old : Option α) :
    Json → Option (Option α)
  | .null => some none
  | v => (read (old.getD zero) v).map some

/-- A list: `null` clears it, an empty array starts afresh, and any other array is read
over the list before it. -/
def readSlots {α : Type} (zero : α) (read : α → Json → Option α) (old : Option (Slots α)) :
    Json → Option (Option (Slots α))
  | .null => some none
  | .array [] => some (some .empty)
  | .array vs => do
    let slots := old.getD .empty
    let used ← readOver zero read slots.all vs
    return some (slots.refill used)
  | _ => none

def identFields : List (Text × (Ident → Json → Option Ident)) :=
  [("id", fun i v => do return { i with id := ← readId i.id v }),
   ("debug_name", fun i v => do return { i with debugName := ← readText i.debugName v })]

def readIdent : Ident → Json → Option Ident := readObject identFields

def argFields : List (Text × (GenericArg → Json → Option GenericArg)) :=
  [("value", fun a v => do return { a with value := ← readPayload [] readText a.value v }),
   ("type", fun a v => do return { a with type := ← readPayload ⟨0, []⟩ readIdent a.type v }),
   ("user_type", fun a v => do return { a with userType := ← readPayload [] readText a.userType v }),
   ("libfunc", fun a v => do return { a with libfunc := ← readPayload ⟨0, []⟩ readIdent a.libfunc v })]

def readArg : GenericArg → Json → Option GenericArg := readObject argFields

def longIdFields : List (Text × (DeclarationDraft → Json → Option DeclarationDraft)) :=
  [("generic_id", fun d v => do return { d with genericId := ← readText d.genericId v }),
   ("generic_args", fun d v => do return { d with args := ← readSlots {} readArg d.args v })]

def declarationFields : List (Text × (DeclarationDraft → Json → Option DeclarationDraft)) :=
  [("id", fun d v => do return { d with id := ← readIdent d.id v }),
   ("long_id", readObject longIdFields)]

def readDeclaration : DeclarationDraft → Json → Option DeclarationDraft := readObject declarationFields

def programFields : List (Text × (ProgramDraft → Json → Option ProgramDraft)) :=
  [("type_declarations", fun p v => do return { p with types := ← readSlots {} readDeclaration p.types v }),
   ("libfunc_declarations",
      fun p v => do return { p with libfuncs := ← readSlots {} readDeclaration p.libfuncs v })]

def toProgram? (v : Json) : Option Program := (readObject programFields {} v).map ProgramDraft.finish

def decodeProgram? (t : Text) : Option Program := do
  let v ← parseFirst? t
  v.toProgram?

def encodeProgram (p : Program) : Text := (ofProgram p).pretty

end Json
end FeltLowering
