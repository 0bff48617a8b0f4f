import FeltLowering.Ir.Metadata
import FeltLowering.Ir.Type

/-
Functions and modules.

An operand names a parameter or an instruction of its own function by position, so a
function reads the same whatever its values are called.  A call names its callee by
position in the module.
-/
namespace FeltLowering
namespace Ir

structure Param where
  name : Text
  ty : Ty
  deriving DecidableEq, Repr

inductive Operand where
  | param (index : Nat)
  /-- An instruction, counted over all blocks of the function. -/
  | inst (index : Nat)
  | const (width : Nat) (value : Int)
  /-- Anything else, by its type and identifier.  It has no value. -/
  | symbol (ty : Ty) (ident : Text)
  deriving DecidableEq, Repr

inductive BinaryOp where
  | add
  | sub
  | mul
  | urem
  | srem
  deriving DecidableEq, Repr

def BinaryOp.text : BinaryOp → Text
  | .add => "add"
  | .sub => "sub"
  | .mul => "mul"
  | .urem => "urem"
  | .srem => "srem"

inductive ConvertOp where
  | sext
  | zext
  | trunc
  deriving DecidableEq, Repr

def ConvertOp.text : ConvertOp → Text
  | .sext => "sext"
  | .zext => "zext"
  | .trunc => "trunc"

/-- Instructions outside the evaluated language. -/
inductive ForeignOp where
  | udiv
  | sdiv
  | and
  | or
  | xor
  | shl
  | lshr
  | ashr
  | fadd
  | icmp
  | select
  | alloca
  | bitcast
  deriving DecidableEq, Repr

def ForeignOp.tag : ForeignOp → Text
  | .udiv => "*ir.InstUDiv"
  | .sdiv => "*ir.InstSDiv"
  | .and => "*ir.InstAnd"
  | .or => "*ir.InstOr"
  | .xor => "*ir.InstXor"
  | .shl => "*ir.InstShl"
  | .lshr => "*ir.InstLShr"
  | .ashr => "*ir.InstAShr"
  | .fadd => "*ir.InstFAdd"
  | .icmp => "*ir.InstICmp"
  | .select => "*ir.InstSelect"
  | .alloca => "*ir.InstAlloca"
  | .bitcast => "*ir.InstBitCast"

inductive Inst where
  /-- The type is that of both operands and of the result. -/
  | binary (name : Text) (op : BinaryOp) (ty : Ty) (x y : Operand)
  | convert (name : Text) (op : ConvertOp) (source : Ty) (x : Operand) (target : Ty)
  /-- A call; without a callee it goes through a pointer. -/
  | call (name : Text) (result : Ty) (callee : Option Nat) (args : List (Ty × Operand))
      (attachments : List Attachment)
  | foreign (name : Text) (op : ForeignOp) (ty : Ty)
  deriving DecidableEq, Repr

namespace Inst

def name : Inst → Text
  | .binary name .. => name
  | .convert name .. => name
  | .call name .. => name
  | .foreign name .. => name

def resultType : Inst → Ty
  | .binary _ _ ty _ _ => ty
  | .convert _ _ _ _ target => target
  | .call _ result _ _ _ => result
  | .foreign _ _ ty => ty

def isCall : Inst → Bool
  | .call .. => true
  | _ => false

end Inst

inductive Terminator where
  | missing
  | ret (value : Option (Ty × Operand))
  | br (block : Nat)
  | unreachable
  deriving DecidableEq, Repr

structure Block where
  name : Text
  insts : List Inst
  term : Terminator
  deriving DecidableEq, Repr

structure Function where
  name : Text
  result : Ty
  params : List Param
  blocks : List Block := []
  attachments : List Attachment := []
  deriving DecidableEq, Repr

namespace Function

/-- The name the function goes by in look-ups and reports. -/
def displayName (f : Function) : Text := Name.display f.name

def ident (f : Function) : Text := Name.ofFunction f.name

def signature (f : Function) : Text := Ty.functionText f.result (f.params.map Param.ty)

def insts (f : Function) : List Inst := f.blocks.flatMap Block.insts

def calls (f : Function) : List Inst := f.insts.filter Inst.isCall

def operandIdent (f : Function) : Operand → Text
  | .param i => Name.ofValue ((f.params[i]?.map Param.name).getD [])
  | .inst i => Name.ofValue ((f.insts[i]?.map Inst.name).getD [])
  | .const _ v => Text.ofInt v
  | .symbol _ ident => ident

def operandType (f : Function) : Operand → Ty
  | .param i => (f.params[i]?.map Param.ty).getD (.other "void")
  | .inst i => (f.insts[i]?.map Inst.resultType).getD (.other "void")
  | .const w _ => .int w
  | .symbol ty _ => ty

end Function

/-- A module.  A call reaches every function ever created, also one that has been taken
off the list. -/
structure Module where
  functions : List Function := []
  /-- Positions of the functions taken off the list. -/
  unlisted : List Nat := []
  sourceFilename : Text := []
  targetTriple : Text := []
  definitions : List Definition := []
  named : List (Text × List NodeRef) := []
  deriving DecidableEq, Repr

namespace Module

/-- The functions the module lists, in order of creation. -/
def listed (m : Module) : List Function :=
  (m.functions.zipIdx.filter fun (_, i) => !m.unlisted.contains i).map Prod.fst

def find? (m : Module) (name : Text) : Option Function :=
  m.listed.find? fun f => f.displayName = name

def node? (m : Module) (r : NodeRef) : Option Node :=
  (m.definitions.find? fun d => d.ref = r).map Definition.node

end Module
end Ir
end FeltLowering
