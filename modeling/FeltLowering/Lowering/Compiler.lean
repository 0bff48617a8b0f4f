import FeltLowering.Lowering.Error
import FeltLowering.Lowering.Registry

/-
The compiler.

A compiler owns one module, the registry of its types and, with debug info, a table of
metadata nodes that describe both.  Calls check and change it step by step, and a call
that fails undoes nothing.
-/
namespace FeltLowering
namespace Lowering

open Ir

structure Options where
  debugInfo : Bool := false
  sourceFile : Text := []
  sourceDir : Text := []
  producer : Text := []
  targetTriple : Text := []
  deriving DecidableEq, Repr

/-- The debug nodes of types, by key, and of functions, by the name they go by. -/
structure DebugTable where
  nextId : Nat := 0
  types : List (Text × NodeRef) := []
  subprograms : List (Text × NodeRef) := []
  deriving DecidableEq, Repr

namespace DebugTable

def file : NodeRef := .node 0

def unit : NodeRef := .node 1

def type? (d : DebugTable) (key : Text) : Option NodeRef := (d.types.find? (·.1 = key)).map Prod.snd

def subprogram? (d : DebugTable) (name : Text) : Option NodeRef :=
  (d.subprograms.find? (·.1 = name)).map Prod.snd

/-- Records the subprogram of a function, in place of an earlier one under its name. -/
def putSubprogram (d : DebugTable) (name : Text) (r : NodeRef) : DebugTable :=
  if d.subprograms.any (·.1 = name) then
    { d with subprograms := d.subprograms.map fun s => if s.1 = name then (name, r) else s }
  else { d with subprograms := d.subprograms ++ [(name, r)] }

end DebugTable

structure Compiler where
  module : Module
  registry : Registry := {}
  debug : Option DebugTable := none
  /-- Positions of the lowered functions by name. -/
  table : List (Text × Nat) := []
  helper : Option Helper := none
  /-- The source line attached to the next functions. -/
  line : Int := 0
  deriving DecidableEq, Repr

namespace Compiler

def define (c : Compiler) (d : DebugTable) (nodes : List Node) : Compiler :=
  { c with
    debug := some { d with nextId := d.nextId + nodes.length }
    module := { c.module with
      definitions := c.module.definitions ++
        nodes.mapIdx fun i n => ⟨.node (d.nextId + i), n⟩ } }

def new (o : Options) : Compiler :=
  let c : Compiler :=
    { module := { sourceFilename := o.sourceFile, targetTriple := o.targetTriple } }
  if o.debugInfo then
    let producer : Text := if o.producer.isEmpty then "sierra2llvm" else o.producer
    let c := c.define {}
      [.file o.sourceFile o.sourceDir, .unit DebugTable.file producer,
        .flag "Dwarf Version" 4, .flag "Debug Info Version" 3]
    { c with
      module := { c.module with
        named := [("llvm.dbg.cu", [DebugTable.unit]), ("llvm.module.flags", [.node 2, .node 3])] } }
  else c

def debugInfo (c : Compiler) : Bool := c.debug.isSome

def setLine (c : Compiler) (line : Int) : Compiler := { c with line }

def position? (c : Compiler) (name : Text) : Option Nat :=
  (c.table.find? (·.1 = name)).map Prod.snd

def func? (c : Compiler) (name : Text) : Option Function :=
  (c.position? name).bind fun p => c.module.functions[p]?

/-! ## Types -/

def describeType (c : Compiler) (key name : Text) (size : Nat) : Compiler :=
  match c.debug with
  | none => c
  | some d =>
    c.define { d with types := d.types ++ [(key, .node d.nextId)] } [.basicType name size]

def insertType (c : Compiler) (key name : Text) (type : Handle) : Compiler :=
  { c with registry := c.registry.add key type }.describeType key name type.ty.size

def debugSize (c : Compiler) (key : Text) : Nat :=
  match c.debug.bind fun d => (d.type? key).bind c.module.node? with
  | some (.basicType _ size) => size
  | _ => 0

/-- Enters a wrapper: the handle of the inner type, and a debug type of its own that is
sized after the inner one. -/
def aliasType (c : Compiler) (key name : Text) (inner : Slot) : Compiler :=
  { c with registry := c.registry.add key inner.type }.describeType key name (c.debugSize inner.key)

/-! ## Functions -/

def debugSignature (c : Compiler) (name : Text) (slots : List Slot) :
    Except LowerError (List NodeRef) :=
  match c.debug with
  | none => .ok []
  | some d =>
    slots.mapM fun s =>
      match d.type? s.key with
      | some r => .ok r
      | none => .error (.fatal name (.noDebugType s.key))

def checkBody (c : Compiler) (name : Text) (params : List Slot) (body : Body) :
    Except LowerError Unit :=
  if params.length ≠ body.arity then .error (.arity name body.arity params.length)
  else if name.isEmpty then .error (.emptyName body.kind)
  else if (c.position? name).isSome then .error (.defined body.kind name)
  else
    match body with
    | .invalid => .error (.invalidBody name)
    | .const none => .error (.constMissing name)
    | .field op none => .error (.fatal name (.bodyNeedsHelper op))
    | _ => .ok ()

def buildFunction (name : Text) (result : Slot) (params : List Slot) (code : Code) : Function where
  name := name
  result := result.type.ty
  params := params.mapIdx fun i p => ⟨"p" ++ Text.ofNat i, p.type.ty⟩
  blocks := [⟨"entry", code.insts, .ret (some (code.type, code.value))⟩]

/-- Locates every call of a list, the first at node `id` and each at the next. -/
def locateCalls (id : Nat) : List Inst → List Inst
  | [] => []
  | .call name result callee args attachments :: rest =>
    .call name result callee args (attachments ++ [⟨"dbg", .node id⟩]) :: locateCalls (id + 1) rest
  | i :: rest => i :: locateCalls id rest

def locate (id : Nat) (f : Function) : Function :=
  { f with blocks := f.blocks.map fun b => { b with insts := locateCalls id b.insts } }

def appendFunction (c : Compiler) (f : Function) : Compiler :=
  { c with
    module := { c.module with functions := c.module.functions ++ [f] }
    table := c.table ++ [(f.name, c.module.functions.length)] }

def replaceLast (c : Compiler) (f : Function) : Compiler :=
  { c with module := { c.module with functions := c.module.functions.dropLast ++ [f] } }

/-- Describes the last function: it gets a subprogram of its own, and every call in it a
location there; a call without one is refused inside a function that has debug info. -/
def attachSubprogram (c : Compiler) (f : Function) (signature : List NodeRef) : Compiler :=
  match c.debug with
  | none => c
  | some d =>
    let types : NodeRef := .node d.nextId
    let subroutine : NodeRef := .node (d.nextId + 1)
    let subprogram : NodeRef := .node (d.nextId + 2)
    let described :=
      { locate (d.nextId + 3) f with attachments := f.attachments ++ [⟨"dbg", subprogram⟩] }
    (c.replaceLast described).define (d.putSubprogram f.displayName subprogram)
      ([.tuple signature, .subroutine (some types),
          .subprogram f.displayName DebugTable.unit DebugTable.file c.line (some subroutine)] ++
        f.calls.map fun _ => .location c.line subprogram)

end Compiler

/-! ## Calls -/

/-- A call of a compiler.  What it has changed by the time it fails stays changed. -/
abbrev Call := EStateM LowerError Compiler

structure Summary where
  name : Text
  kind : BodyKind
  /-- The number of instructions in the body. -/
  size : Nat
  deriving DecidableEq, Repr

namespace Call

def check {α : Type} (f : Compiler → Except LowerError α) : Call α := do
  match f (← get) with
  | .ok a => return a
  | .error e => throw e

/-- Lowers a function.  Its code is built on the side: the module gets to see it only after
the last check. -/
def lower (name : Text) (result : Slot) (params : List Slot) (body : Body) : Call Summary := do
  check fun c => c.checkBody name params body
  let signature ← check fun c => c.debugSignature name (result :: params)
  match body.code result.type.ty (params.map fun p => p.type.ty) with
  | .error fault => throw (.body name fault)
  | .ok code =>
    let f := Compiler.buildFunction name result params code
    modify fun c => c.appendFunction f
    modify fun c => c.attachSubprogram f signature
    return { name, kind := body.kind, size := code.insts.length }

end Call
end Lowering
end FeltLowering
