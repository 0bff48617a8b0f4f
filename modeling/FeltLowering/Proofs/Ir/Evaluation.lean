import FeltLowering.Proofs.Ir.TwosComplement

/-
Evaluation, instruction by instruction.

Each lemma gives the value of one instruction from the values of its operands, so a
body is evaluated by naming its values one after another.  The second half shows that
attachments are never looked at: `eval_bare` evaluates a function and a module stripped
of them.
-/
namespace FeltLowering
namespace Ir

/-! ## Instructions -/

namespace Function

variable {invoke : Nat → List Int → Option (Except EvalError Int)} {f : Function} {fr : Frame}

theorem instValue_binary {name : Text} {op : BinaryOp} {w : Nat} {x y : Operand} {a b v : Int}
    (hx : f.operandValue fr x = .ok a) (hy : f.operandValue fr y = .ok b)
    (hv : f.binaryValue op w a b = .ok v) :
    f.instValue invoke fr (.binary name op (.int w) x y) = .ok (wrap w v) := by
  simp only [instValue, widthOf, hx, hy]
  show (f.binaryValue op w a b >>= fun r => pure (wrap w r)) = _
  rw [hv]
  rfl

/-- A remainder by the modulus, with the dividend given before it was wrapped. -/
theorem binaryValue_srem {w : Nat} (hw : 0 < w) {s p : Int} (hp : wrap w p ≠ 0) :
    f.binaryValue .srem w (wrap w s) (wrap w p) =
      .ok ((s.bmod (twoPow w)).tmod (p.bmod (twoPow w))) := by
  simp only [binaryValue, hp, if_false, toSigned_wrap hw]

theorem instValue_sext {name : Text} {source target : Nat} {x : Operand} {v : Int}
    (hx : f.operandValue fr x = .ok v) :
    f.instValue invoke fr (.convert name .sext (.int source) x (.int target)) =
      .ok (wrap target (toSigned source v)) := by
  simp only [instValue, widthOf, hx]
  rfl

theorem instValue_trunc {name : Text} {source target : Nat} {x : Operand} {v : Int}
    (hx : f.operandValue fr x = .ok v) :
    f.instValue invoke fr (.convert name .trunc (.int source) x (.int target)) =
      .ok (wrap target v) := by
  simp only [instValue, widthOf, hx]
  rfl

theorem instValue_call {name : Text} {result ty : Ty} {position : Nat} {x : Operand}
    {attachments : List Attachment} {v : Int} {r : Except EvalError Int}
    (hx : f.operandValue fr x = .ok v) (hr : invoke position [v] = some r) :
    f.instValue invoke fr (.call name result (some position) [(ty, x)] attachments) = r := by
  have hargs : [(ty, x)].mapM (fun arg => f.operandValue fr arg.2) = .ok [v] := by
    rw [List.mapM_cons, List.mapM_nil, hx]
    rfl
  simp only [instValue, hargs, bind, Except.bind, hr]

theorem runInsts_cons {i : Inst} {rest : List Inst} {v : Int}
    (h : f.instValue invoke fr i = .ok v) :
    f.runInsts invoke fr (i :: rest) =
      f.runInsts invoke { fr with locals := fr.locals ++ [v] } rest := by
  simp only [runInsts, h]
  rfl

theorem bindParams_of_int (f : Function) (index : Nat) {ps : List Param} (as : List Int)
    (h : ∀ p ∈ ps, ∃ w, p.ty = .int w) :
    f.bindParams index ps as = .ok (List.zipWith (fun p a => wrap p.ty.size a) ps as) := by
  induction ps generalizing index as with
  | nil => rfl
  | cons p ps ih =>
    cases as with
    | nil => rfl
    | cons a as =>
      obtain ⟨w, hw⟩ := h p List.mem_cons_self
      simp only [bindParams, hw, ih (index + 1) as (fun q hq => h q (List.mem_cons_of_mem p hq)),
        List.zipWith_cons_cons]
      rfl

theorem activate_block {args params : List Int} {b : Block} (hb : f.blocks = [b])
    (hlen : args.length = f.params.length) (hp : f.bindParams 0 f.params args = .ok params)
    (hr : f.runInsts invoke ⟨params, []⟩ b.insts = .ok fr) :
    f.activate invoke args = f.returnValue fr b := by
  simp only [activate, hlen, ne_eq, not_true, if_false, hb, hp]
  show (f.runInsts invoke ⟨params, []⟩ b.insts >>= fun fr => f.returnValue fr b) = _
  rw [hr]
  rfl

end Function

/-! ## Attachments -/

def Inst.bare : Inst → Inst
  | .call name result callee args _ => .call name result callee args []
  | i => i

def Block.bare (b : Block) : Block := { b with insts := b.insts.map Inst.bare }

def Function.bare (f : Function) : Function :=
  { f with blocks := f.blocks.map Block.bare, attachments := [] }

def Module.bare (m : Module) : Module := { m with functions := m.functions.map Function.bare }

theorem Inst.name_bare (i : Inst) : i.bare.name = i.name := by cases i <;> rfl

theorem Inst.resultType_bare (i : Inst) : i.bare.resultType = i.resultType := by cases i <;> rfl

namespace Function

theorem insts_bare (f : Function) : f.bare.insts = f.insts.map Inst.bare := by
  simp only [insts, bare, List.flatMap_map, List.map_flatMap]
  rfl

theorem operandIdent_bare (f : Function) (x : Operand) :
    f.bare.operandIdent x = f.operandIdent x := by
  cases x with
  | inst i =>
    simp only [operandIdent, insts_bare, List.getElem?_map, Option.map_map]
    congr 3
    funext i
    exact Inst.name_bare i
  | _ => rfl

theorem operandValue_bare (f : Function) (fr : Frame) (x : Operand) :
    f.bare.operandValue fr x = f.operandValue fr x := by
  simp only [operandValue, operandIdent_bare]
  rfl

theorem instValue_bare (invoke : Nat → List Int → Option (Except EvalError Int)) (f : Function)
    (fr : Frame) (i : Inst) : f.bare.instValue invoke fr i.bare = f.instValue invoke fr i := by
  cases i with
  | call name result callee args attachments =>
    simp only [Inst.bare, instValue, operandValue_bare]
    rfl
  | binary name op ty x y =>
    simp only [Inst.bare, instValue, operandValue_bare]
    rfl
  | convert name op source x target =>
    simp only [Inst.bare, instValue, operandValue_bare]
    rfl
  | foreign name op ty => rfl

theorem runInsts_bare (invoke : Nat → List Int → Option (Except EvalError Int)) (f : Function)
    (fr : Frame) (insts : List Inst) :
    f.bare.runInsts invoke fr (insts.map Inst.bare) = f.runInsts invoke fr insts := by
  induction insts generalizing fr with
  | nil => rfl
  | cons i rest ih =>
    simp only [List.map_cons, runInsts, instValue_bare, ih]

theorem bindParams_bare (f : Function) (index : Nat) (ps : List Param) (as : List Int) :
    f.bare.bindParams index ps as = f.bindParams index ps as := by
  induction ps generalizing index as with
  | nil => cases as <;> rfl
  | cons p ps ih =>
    cases as with
    | nil => rfl
    | cons a as =>
      simp only [bindParams, ih]
      rfl

theorem returnValue_bare (f : Function) (fr : Frame) (b : Block) :
    f.bare.returnValue fr b.bare = f.returnValue fr b := by
  simp only [returnValue, Block.bare, operandValue_bare]
  rfl

theorem activate_bare (invoke : Nat → List Int → Option (Except EvalError Int)) (f : Function)
    (args : List Int) : f.bare.activate invoke args = f.activate invoke args := by
  have hparams : f.bare.params = f.params := rfl
  have hblocks : f.bare.blocks = f.blocks.map Block.bare := rfl
  simp only [activate, hparams, hblocks]
  match f.blocks with
  | [] => rfl
  | [b] =>
    simp only [List.map_cons, List.map_nil, bindParams_bare, returnValue_bare]
    simp only [Block.bare, runInsts_bare]
    rfl
  | b :: b' :: rest =>
    simp only [List.map_cons, List.length_cons, List.length_map]
    rfl

end Function

/-- Evaluation does not look at attachments. -/
theorem Module.eval_bare (m : Module) (depth : Nat) (f : Function) (args : List Int) :
    m.bare.eval depth f.bare args = m.eval depth f args := by
  induction depth generalizing f args with
  | zero => rfl
  | succ depth ih =>
    simp only [eval, Function.activate_bare, bare, List.getElem?_map, Option.map_map]
    congr 1
    funext position values
    congr 1
    funext g
    exact ih g values

end Ir
end FeltLowering
