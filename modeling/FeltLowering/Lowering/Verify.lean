import FeltLowering.Ir.Printer
import FeltLowering.Lowering.Compiler

/-
The check before a module is written.

With debug info every type must have a debug type of its width, and every function a
subprogram that lists its result and parameters.  Without debug info the module must
hold no metadata at all.
-/
namespace FeltLowering
namespace Lowering

open Ir

inductive DebugFault where
  | noType (key : Text)
  | size (key : Text) (got want : Nat)
  | noSubprogram (func : Text)
  | notAttached (func : Text)
  | notLocated (func callee : Text)
  | noSignature (func : Text)
  | signatureLength (func : Text) (got want : Nat)
  | count (subprograms functions : Nat)
  | strayNodes (count : Nat)
  | strayFunction (func : Text)
  | strayCall (func : Text)
  deriving DecidableEq, Repr

namespace DebugFault

def text : DebugFault → Text
  | .noType key => "type " ++ key ++ ": no debug type"
  | .size key got want =>
    "type " ++ key ++ ": debug size " ++ Text.ofNat got ++ ", backend width " ++ Text.ofNat want
  | .noSubprogram func => "function " ++ func ++ ": no subprogram"
  | .notAttached func => "function " ++ func ++ ": subprogram not attached"
  | .notLocated func callee => "function " ++ func ++ ": call to " ++ callee ++ " has no location"
  | .noSignature func => "function " ++ func ++ ": subprogram has no signature"
  | .signatureLength func got want =>
    "function " ++ func ++ ": debug signature has " ++ Text.ofNat got ++ " entries, want " ++
      Text.ofNat want
  | .count subprograms functions =>
    Text.ofNat subprograms ++ " subprograms for " ++ Text.ofNat functions ++ " functions"
  | .strayNodes nodes =>
    "debug info disabled but module holds " ++ Text.ofNat nodes ++ " metadata nodes"
  | .strayFunction func => "debug info disabled but function " ++ func ++ " has attachments"
  | .strayCall func => "debug info disabled but a call in " ++ func ++ " has attachments"

def message (faults : List DebugFault) : Text := Text.join "\n" (faults.map text)

end DebugFault

namespace Compiler

def attachmentsOf : Inst → List Attachment
  | .call _ _ _ _ attachments => attachments
  | _ => []

def calleeOf : Inst → Option Nat
  | .call _ _ callee _ _ => callee
  | _ => none

/-- Whether one of the attachments places a call in a subprogram. -/
def isLocated (c : Compiler) (subprogram : NodeRef) (attachments : List Attachment) : Bool :=
  attachments.any fun a =>
    a.name = Text.ofString "dbg" &&
      match c.module.node? a.ref with
      | some (.location _ scope) => scope = subprogram
      | _ => false

def signatureLength? (c : Compiler) (subprogram : NodeRef) : Option Nat := do
  let .subprogram _ _ _ _ (some type) ← c.module.node? subprogram | none
  let .subroutine (some types) ← c.module.node? type | none
  let .tuple fields ← c.module.node? types | none
  return fields.length

def typeFaults (c : Compiler) (d : DebugTable) (s : Slot) : List DebugFault :=
  if (d.type? s.key).isNone then [.noType s.key]
  else if c.debugSize s.key ≠ s.type.ty.size then [.size s.key (c.debugSize s.key) s.type.ty.size]
  else []

def functionFaults (c : Compiler) (d : DebugTable) (f : Function) : List DebugFault :=
  match d.subprogram? f.displayName with
  | none => [.noSubprogram f.displayName]
  | some sp =>
    (if f.attachments.contains ⟨"dbg", sp⟩ then [] else [.notAttached f.displayName]) ++
      ((f.calls.filter fun i => !c.isLocated sp (attachmentsOf i)).map fun i =>
        .notLocated f.displayName (Function.calleeIdent c.module (calleeOf i))) ++
      match c.signatureLength? sp with
      | none => [.noSignature f.displayName]
      | some n =>
        if n = 1 + f.params.length then []
        else [.signatureLength f.displayName n (1 + f.params.length)]

def strayFaults (f : Function) : List DebugFault :=
  if !f.attachments.isEmpty then [.strayFunction f.displayName]
  else if f.calls.any fun i => !(attachmentsOf i).isEmpty then [.strayCall f.displayName]
  else []

/-- Everything the check finds.  Without debug info it stops at the first finding. -/
def debugFaults (c : Compiler) : List DebugFault :=
  match c.debug with
  | some d =>
    c.registry.entries.flatMap (c.typeFaults d) ++ c.module.listed.flatMap (c.functionFaults d) ++
      if d.subprograms.length = c.module.listed.length then []
      else [.count d.subprograms.length c.module.listed.length]
  | none =>
    if !c.module.definitions.isEmpty then [.strayNodes c.module.definitions.length]
    else (c.module.listed.flatMap strayFaults).take 1

def emit (c : Compiler) : Except (List DebugFault) Text :=
  match c.debugFaults with
  | [] => .ok c.module.text
  | faults => .error faults

def emitMessage (faults : List DebugFault) : Text := "emit: " ++ DebugFault.message faults

end Compiler
end Lowering
end FeltLowering
