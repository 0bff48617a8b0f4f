import FeltLowering.Ir.Function
import FeltLowering.Power

/-
Evaluation of straight-line integer code.

Values are kept unsigned at the width of their type.  Everything outside the language
is reported and nothing is skipped.
-/
namespace FeltLowering
namespace Ir

def wrap (w : Nat) (v : Int) : Int := v % twoPow w

/-- An unsigned value of `w` bits read as two's complement.  Only the bit `w - 1` is
looked at, so a value outside `[0, 2 ^ w)` is moved by at most `2 ^ w`. -/
def toSigned (w : Nat) (v : Int) : Int :=
  if w = 0 || (v >>> (w - 1)) % 2 = 0 then v else v - twoPow w

/-- The signed reading of a result.  The position of the sign bit is a signed word of the
machine, so there is no reading beyond `2 ^ 63` bits. -/
def signed? (w : Nat) (v : Int) : Option Int :=
  if w ≤ twoPow 63 then some (toSigned w v) else none

inductive FaultKind where
  | unknownFunction
  | arity
  | unsupported
  | divisionByZero
  | noTerminator
  | depth
  deriving DecidableEq, Repr

namespace FaultKind

def text : FaultKind → Text
  | .unknownFunction => "unknown function"
  | .arity => "arity mismatch"
  | .unsupported => "unsupported"
  | .divisionByZero => "division by zero"
  | .noTerminator => "missing terminator"
  | .depth => "call depth exceeded"

def code : FaultKind → Nat
  | .unknownFunction => 1
  | .arity => 2
  | .unsupported => 3
  | .divisionByZero => 4
  | .noTerminator => 5
  | .depth => 6

def all : List FaultKind :=
  [.unknownFunction, .arity, .unsupported, .divisionByZero, .noTerminator, .depth]

def nameOfCode (n : Nat) : Text := ((all.find? (·.code = n)).map text).getD "error"

end FaultKind

inductive EvalFault where
  | unknownFunction
  | arity (want got : Nat)
  | noBody
  | blocks (count : Nat)
  | paramType (index : Nat) (ty : Ty)
  | notInteger (ty : Ty)
  | noValue (ident : Text)
  | indirectCall
  | foreign (op : ForeignOp)
  | remByZero (op : BinaryOp)
  | noRet (block : Text)
  | voidReturn
  | depth
  deriving DecidableEq, Repr

def maxDepth : Nat := 64

namespace EvalFault

def kind : EvalFault → FaultKind
  | .unknownFunction => .unknownFunction
  | .arity .. => .arity
  | .remByZero _ => .divisionByZero
  | .noRet _ => .noTerminator
  | .depth => .depth
  | _ => .unsupported

def notIntegerText (ty : Ty) : Text := "non-integer type " ++ ty.text

def text : EvalFault → Text
  | .unknownFunction => "not defined in module"
  | .arity want got =>
    "takes " ++ Text.ofNat want ++ " arguments, got " ++ Text.ofNat got
  | .noBody => "declaration without body"
  | .blocks count =>
    Text.ofNat count ++ " blocks, only straight-line functions are evaluated"
  | .paramType index ty =>
    "parameter " ++ Text.ofNat index ++ ": " ++ notIntegerText ty
  | .notInteger ty => notIntegerText ty
  | .noValue ident => "operand " ++ ident ++ " has no value"
  | .indirectCall => "indirect call"
  | .foreign op => "instruction " ++ op.tag
  | .remByZero op => op.text ++ " by zero"
  | .noRet block => "block " ++ block ++ " does not end in ret"
  | .voidReturn => "void return"
  | .depth => "more than " ++ Text.ofNat maxDepth ++ " nested calls"

end EvalFault

structure EvalError where
  func : Text
  fault : EvalFault
  deriving DecidableEq, Repr

def EvalError.message (e : EvalError) : Text :=
  e.func ++ ": " ++ e.fault.kind.text ++ ": " ++ e.fault.text

/-- The values of one activation: the parameters and the instructions evaluated so far. -/
structure Frame where
  params : List Int
  locals : List Int
  deriving DecidableEq, Repr

namespace Function

def fail {α : Type} (f : Function) (fault : EvalFault) : Except EvalError α :=
  .error ⟨f.displayName, fault⟩

def widthOf (f : Function) (ty : Ty) : Except EvalError Nat :=
  match ty with
  | .int w => .ok w
  | .other _ => f.fail (.notInteger ty)

def operandValue (f : Function) (fr : Frame) (x : Operand) : Except EvalError Int :=
  let found : Option Int :=
    match x with
    | .const w v => some (wrap w v)
    | .param i => fr.params[i]?
    | .inst i => fr.locals[i]?
    | .symbol .. => none
  match found with
  | some v => .ok v
  | none => f.fail (.noValue (f.operandIdent x))

/-- A binary operation at width `w`, before the result is wrapped. -/
def binaryValue (f : Function) (op : BinaryOp) (w : Nat) (a b : Int) : Except EvalError Int :=
  match op with
  | .add => .ok (a + b)
  | .sub => .ok (a - b)
  | .mul => .ok (a * b)
  | .urem => if b = 0 then f.fail (.remByZero .urem) else .ok (a.tmod b)
  | .srem =>
    if b = 0 then f.fail (.remByZero .srem)
    else .ok ((toSigned w a).tmod (toSigned w b))

/-- The value of an instruction.  `invoke` evaluates the function at a position and has
no answer where there is none. -/
def instValue (invoke : Nat → List Int → Option (Except EvalError Int)) (f : Function)
    (fr : Frame) : Inst → Except EvalError Int
  | .binary _ op ty x y => do
    let w ← f.widthOf ty
    let a ← f.operandValue fr x
    let b ← f.operandValue fr y
    return wrap w (← f.binaryValue op w a b)
  | .convert _ op source x target => do
    let sw ← f.widthOf source
    let tw ← f.widthOf target
    let v ← f.operandValue fr x
    return wrap tw (if op = .sext then toSigned sw v else v)
  | .call _ _ callee args _ =>
    match callee with
    | none => f.fail .indirectCall
    | some position => do
      let values ← args.mapM fun arg => f.operandValue fr arg.2
      match invoke position values with
      | some result => result
      | none => f.fail .indirectCall
  | .foreign _ op _ => f.fail (.foreign op)

def runInsts (invoke : Nat → List Int → Option (Except EvalError Int)) (f : Function) :
    Frame → List Inst → Except EvalError Frame
  | fr, [] => .ok fr
  | fr, i :: rest => do
    let v ← f.instValue invoke fr i
    f.runInsts invoke { fr with locals := fr.locals ++ [v] } rest

/-- Arguments wrapped to the widths of their parameters, counted from `index`. -/
def bindParams (f : Function) (index : Nat) : List Param → List Int → Except EvalError (List Int)
  | p :: ps, a :: as =>
    match p.ty with
    | .int w => do return wrap w a :: (← f.bindParams (index + 1) ps as)
    | ty => f.fail (.paramType index ty)
  | _, _ => .ok []

def returnValue (f : Function) (fr : Frame) (b : Block) : Except EvalError Int :=
  match b.term with
  | .ret (some v) => f.operandValue fr v.2
  | .ret none => f.fail .voidReturn
  | _ => f.fail (.noRet (Name.display b.name))

def activate (invoke : Nat → List Int → Option (Except EvalError Int)) (f : Function)
    (args : List Int) : Except EvalError Int :=
  if args.length ≠ f.params.length then f.fail (.arity f.params.length args.length)
  else
    match f.blocks with
    | [] => f.fail .noBody
    | [b] => do
      let params ← f.bindParams 0 f.params args
      let fr ← f.runInsts invoke ⟨params, []⟩ b.insts
      f.returnValue fr b
    | blocks => f.fail (.blocks blocks.length)

end Function

namespace Module

/-- Evaluates a function with `depth` nested activations left. -/
def eval (m : Module) : (depth : Nat) → Function → List Int → Except EvalError Int
  | 0, f, _ => f.fail .depth
  | depth + 1, f, args =>
    f.activate (fun position values => m.functions[position]?.map fun g => m.eval depth g values) args

def call (m : Module) (name : Text) (args : List Int) : Except EvalError Int :=
  match m.find? name with
  | some f => m.eval maxDepth f args
  | none => .error ⟨name, .unknownFunction⟩

end Module
end Ir
end FeltLowering
