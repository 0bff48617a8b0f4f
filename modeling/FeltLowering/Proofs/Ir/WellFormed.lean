import FeltLowering.Proofs.Ir.Evaluation
import Mathlib.Data.List.Basic

/-
Well-formed modules.

The rules a module must keep to be read as code: one block that ends in a return, operands
in scope and of the type they are used at, conversions that change the width the way they
say, calls that fit the signature of an earlier function, and names that tell values and
functions apart.  Attachments play no part in this, so a module may be checked without
them: `Function.WellFormed.of_bare`.
-/
namespace FeltLowering
namespace Ir

/-- An operand of a type, in an instruction that follows the first `k` of its function.  A
constant must fit its width with and without a sign. -/
def Function.Scoped (f : Function) (k : Nat) (ty : Ty) : Operand → Prop
  | .param i => f.params[i]?.map Param.ty = some ty
  | .inst i => i < k ∧ f.insts[i]?.map Inst.resultType = some ty
  | .const w v => ty = .int w ∧ 0 ≤ v ∧ v < twoPow (w - 1)
  | .symbol .. => False

/-- Extensions widen and truncations narrow. -/
def ConvertOp.Converts (source target : Nat) : ConvertOp → Prop
  | .sext | .zext => source < target
  | .trunc => target < source

/-- An instruction in its place: number `k` of the function at position `n`. -/
def Inst.Typed (m : Module) (n : Nat) (f : Function) (k : Nat) : Inst → Prop
  | .binary _ _ ty x y => (∃ w, ty = .int w) ∧ f.Scoped k ty x ∧ f.Scoped k ty y
  | .convert _ op source x target =>
    f.Scoped k source x ∧ ∃ s t, source = .int s ∧ target = .int t ∧ op.Converts s t
  | .call _ result callee args _ =>
    ∃ position g, callee = some position ∧ position < n ∧ m.functions[position]? = some g ∧
      result = g.result ∧ args.map Prod.fst = g.params.map Param.ty ∧
      ∀ a ∈ args, f.Scoped k a.1 a.2
  | .foreign .. => False

def Function.TypedFrom (m : Module) (n : Nat) (f : Function) : (k : Nat) → List Inst → Prop
  | _, [] => True
  | k, i :: rest => i.Typed m n f k ∧ f.TypedFrom m n (k + 1) rest

/-- A function that may stand at position `n`. -/
structure Function.WellFormed (m : Module) (n : Nat) (f : Function) : Prop where
  block : ∃ insts value, f.blocks = [⟨"entry", insts, .ret (some (f.result, value))⟩] ∧
    f.Scoped insts.length f.result value
  insts : f.TypedFrom m n 0 f.insts
  locals : (f.params.map Param.name ++ f.blocks.map Block.name ++ f.insts.map Inst.name).Nodup

structure Module.WellFormed (m : Module) : Prop where
  functions : ∀ (n : Nat) (f : Function), m.functions[n]? = some f → f.WellFormed m n
  idents : (m.functions.map Function.ident).Nodup

/-! ## Attachments -/

namespace Function

variable {m : Module} {n : Nat} {f : Function}

theorem scoped_bare (k : Nat) (ty : Ty) (x : Operand) :
    f.bare.Scoped k ty x ↔ f.Scoped k ty x := by
  cases x with
  | inst i =>
    have hty : Inst.resultType ∘ Inst.bare = Inst.resultType := funext Inst.resultType_bare
    simp only [Scoped, insts_bare, List.getElem?_map, Option.map_map, hty]
  | _ => exact Iff.rfl

theorem typed_of_bare {k : Nat} {i : Inst} (h : i.bare.Typed m.bare n f.bare k) :
    i.Typed m n f k := by
  cases i with
  | binary name op ty x y =>
    obtain ⟨hty, hx, hy⟩ := h
    exact ⟨hty, (scoped_bare _ _ _).mp hx, (scoped_bare _ _ _).mp hy⟩
  | convert name op source x target =>
    obtain ⟨hx, hwidths⟩ := h
    exact ⟨(scoped_bare _ _ _).mp hx, hwidths⟩
  | call name result callee args attachments =>
    obtain ⟨position, g, hcallee, hlt, hg, hresult, hparams, hargs⟩ := h
    rw [show m.bare.functions = m.functions.map bare from rfl, List.getElem?_map] at hg
    obtain ⟨g', hg', rfl⟩ := Option.map_eq_some_iff.mp hg
    exact ⟨position, g', hcallee, hlt, hg', hresult, hparams,
      fun a ha => (scoped_bare _ _ _).mp (hargs a ha)⟩
  | foreign name op ty => exact h

theorem typedFrom_of_bare {k : Nat} {insts : List Inst}
    (h : f.bare.TypedFrom m.bare n k (insts.map Inst.bare)) : f.TypedFrom m n k insts := by
  induction insts generalizing k with
  | nil => trivial
  | cons i rest ih => exact ⟨typed_of_bare h.1, ih h.2⟩

/-- A function is well formed if it is so without its attachments. -/
theorem WellFormed.of_bare (h : f.bare.WellFormed m.bare n) : f.WellFormed m n where
  block := by
    obtain ⟨insts, value, hblocks, hvalue⟩ := h.block
    obtain ⟨b, hb, hbare⟩ := List.map_eq_singleton_iff.mp hblocks
    obtain ⟨name, insts', term⟩ := b
    simp only [Block.bare, Block.mk.injEq] at hbare
    obtain ⟨rfl, rfl, rfl⟩ := hbare
    rw [List.length_map] at hvalue
    exact ⟨insts', value, hb, (scoped_bare _ _ _).mp hvalue⟩
  insts := by
    have hinsts := h.insts
    rw [insts_bare] at hinsts
    exact typedFrom_of_bare hinsts
  locals := by
    have hnames : f.bare.insts.map Inst.name = f.insts.map Inst.name := by
      rw [insts_bare, List.map_map]
      exact List.map_congr_left fun i _ => i.name_bare
    have hblocks : f.bare.blocks.map Block.name = f.blocks.map Block.name := by
      show (f.blocks.map Block.bare).map Block.name = _
      rw [List.map_map]
      rfl
    have hlocals := h.locals
    rw [hnames, hblocks] at hlocals
    exact hlocals

end Function
end Ir
end FeltLowering
