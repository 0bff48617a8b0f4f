import FeltLowering.Felt
import FeltLowering.Ir.Function

/-
Function bodies.

A body is the part of a lowered function that differs between declarations.  Field
operations widen their operands, compute there and fold the result back through the
reduction helper, so a raw result is never returned.
-/
namespace FeltLowering
namespace Lowering

open Ir

/-- The reduction helper, by its position in the module. -/
structure Helper where
  position : Nat
  deriving DecidableEq, Repr

inductive FieldOp where
  | add
  | sub
  | mul
  deriving DecidableEq, Repr

inductive Body where
  | invalid
  /-- Returns a constant of some width. -/
  | const (value : Option (Nat × Int))
  /-- Adds the first and the last parameter at their own width. -/
  | intAdd
  | field (op : FieldOp) (helper : Option Helper)
  /-- Folds a wide signed value into the range of canonical elements. -/
  | reduce
  /-- A kind of body nothing is known of. -/
  | unknown
  deriving DecidableEq, Repr

inductive BodyKind where
  | invalid
  | const
  | intAdd
  | field (op : FieldOp)
  | reduce
  deriving DecidableEq, Repr

namespace BodyKind

def text : BodyKind → Text
  | .invalid => "invalid"
  | .const => "const"
  | .intAdd => "int_add"
  | .field .add => "felt_add"
  | .field .sub => "felt_sub"
  | .field .mul => "felt_mul"
  | .reduce => "reduce"

def ofCode : Nat → BodyKind
  | 1 => .const
  | 2 => .intAdd
  | 3 => .field .add
  | 4 => .field .sub
  | 5 => .field .mul
  | 6 => .reduce
  | _ => .invalid

def arity : BodyKind → Nat
  | .const => 0
  | .reduce => 1
  | _ => 2

end BodyKind

inductive BodyFault where
  | constType (const result : Ty)
  | operandMismatch (first last : Ty)
  | fieldOperand (op : FieldOp) (got : Ty)
  | reduceResult (ty : Ty)
  | reduceOperand (ty : Ty)
  | notNarrowing (source target : Nat)
  | unsupported
  deriving DecidableEq, Repr

namespace BodyFault

def text : BodyFault → Text
  | .constType const result => "constant of type " ++ const.text ++ " returned as " ++ result.text
  | .operandMismatch first last => "operand type mismatch: " ++ first.text ++ " vs " ++ last.text
  | .fieldOperand op got =>
    (BodyKind.field op).text ++ " operand must be " ++ (Ty.int Felt.width).text ++ ", got " ++ got.text
  | .reduceResult ty => "reduce must return an integer, got " ++ ty.text
  | .reduceOperand ty => "reduce operand must be an integer, got " ++ ty.text
  | .notNarrowing source target =>
    "reduce from i" ++ Text.ofNat source ++ " to i" ++ Text.ofNat target ++ " does not narrow"
  | .unsupported => "unsupported body " ++ BodyKind.invalid.text

end BodyFault

structure Code where
  insts : List Inst
  type : Ty
  value : Operand
  deriving DecidableEq, Repr

namespace Code

/-- `((x srem P) + P) srem P`, cut to the target width.  For `|x| < P * P` the sum stays
inside the wide range. -/
def reduce (wide target : Nat) : Code where
  insts :=
    [.binary "rem" .srem (.int wide) (.param 0) (.const wide Felt.prime),
      .binary "shifted" .add (.int wide) (.inst 0) (.const wide Felt.prime),
      .binary "canon" .srem (.int wide) (.inst 1) (.const wide Felt.prime),
      .convert "res" .trunc (.int wide) (.inst 2) (.int target)]
  type := .int target
  value := .inst 3

def callHelper (h : Helper) (arg : Nat) : Inst :=
  .call "res" (.int Felt.width) (some h.position) [(.int Felt.wideWidth, .inst arg)] []

def widen (name : Text) (x : Operand) : Inst :=
  .convert name .sext (.int Felt.width) x (.int Felt.wideWidth)

/-- A difference of canonical elements is exact at felt width and is widened afterwards.
Sums and products go past that range, so their operands are widened first. -/
def field (op : FieldOp) (h : Helper) : Code :=
  let wide (op : BinaryOp) : Code :=
    { insts :=
        [widen "lhs" (.param 0), widen "rhs" (.param 1),
          .binary "arg" op (.int Felt.wideWidth) (.inst 0) (.inst 1), callHelper h 2]
      type := .int Felt.width
      value := .inst 3 }
  match op with
  | .add => wide .add
  | .mul => wide .mul
  | .sub =>
    { insts :=
        [.binary "diff" .sub (.int Felt.width) (.param 0) (.param 1), widen "arg" (.inst 0),
          callHelper h 1]
      type := .int Felt.width
      value := .inst 2 }

end Code

namespace Body

def kind : Body → BodyKind
  | .invalid => .invalid
  | .const _ => .const
  | .intAdd => .intAdd
  | .field op _ => .field op
  | .reduce => .reduce
  | .unknown => .invalid

def arity (b : Body) : Nat := b.kind.arity

/-- The code of a body in a function of the given signature.  Parameters that are not
there count as void. -/
def code (b : Body) (result : Ty) (params : List Ty) : Except BodyFault Code :=
  let first := params.head?.getD (.other "void")
  let last := params.getLast?.getD (.other "void")
  match b with
  | .const (some (w, v)) =>
    if Ty.int w = result then .ok ⟨[], .int w, .const w v⟩
    else .error (.constType (.int w) result)
  | .intAdd =>
    if first = last then
      .ok ⟨[.binary "res" .add first (.param 0) (.param (params.length - 1))], first, .inst 0⟩
    else .error (.operandMismatch first last)
  | .field op (some h) =>
    if first ≠ .int Felt.width then .error (.fieldOperand op first)
    else if last ≠ .int Felt.width then .error (.fieldOperand op last)
    else .ok (Code.field op h)
  | .reduce =>
    match result, first with
    | .int target, .int wide =>
      if wide ≤ target then .error (.notNarrowing wide target) else .ok (Code.reduce wide target)
    | .int _, ty => .error (.reduceOperand ty)
    | ty, _ => .error (.reduceResult ty)
  | _ => .error .unsupported

end Body
end Lowering
end FeltLowering
