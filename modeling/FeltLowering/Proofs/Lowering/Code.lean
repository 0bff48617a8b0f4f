import FeltLowering.Lowering.Compiler
import FeltLowering.Proofs.Ir.Evaluation

/-
What the lowered bodies compute.

The reduction helper is evaluated once, for every wide value: it returns the Euclidean
remainder of the signed reading of its argument.  A field operation is then one call of
the helper on a wide value, and `FieldOp.wideArg` is that value for arbitrary integer
arguments.  Canonical arguments are the case in which no signed reading changes
anything.
-/
namespace FeltLowering

namespace Felt

theorem prime_lt_twoPow : prime < twoPow 252 := by decide

/-- Twice the modulus stays inside the signed range of the wide width. -/
theorem two_prime_le : 2 * prime ≤ twoPow (wideWidth - 1) := by
  have h := prime_lt_twoPow
  have hs : twoPow 253 = 2 * twoPow 252 := twoPow_succ 252
  have hle : twoPow 253 ≤ twoPow (wideWidth - 1) := twoPow_le (by decide)
  omega

theorem prime_le_twoPow_width : prime ≤ twoPow width := by decide

theorem toInt_ofInt (v : Int) : (ofInt v).toInt = v % prime := by
  have h : (0 : Int) < prime := by exact_mod_cast prime_pos
  have := Int.emod_nonneg v (Int.ne_of_gt h)
  show (((v % (prime : Int)).toNat : Nat) : Int) = v % prime
  omega

theorem toInt_nonneg (x : Felt) : 0 ≤ x.toInt := Int.natCast_nonneg x.val

theorem toInt_lt (x : Felt) : x.toInt < prime := Int.ofNat_lt.mpr x.val_lt

/-- An element fits a word of felt width. -/
theorem wrap_toInt (x : Felt) : Ir.wrap width x.toInt = x.toInt := by
  have hlt := x.toInt_lt
  have hle := prime_le_twoPow_width
  exact Ir.wrap_of_range x.toInt_nonneg (by omega)

/-- A canonical representative is the representative of its own element. -/
theorem toInt_ofInt_of_canonical {a : Int} (h0 : 0 ≤ a) (h1 : a < prime) :
    (ofInt a).toInt = a := by
  rw [toInt_ofInt, Int.emod_eq_of_lt h0 h1]

theorem ofInt_toInt (x : Felt) : ofInt x.toInt = x := by
  have h := toInt_ofInt_of_canonical x.toInt_nonneg x.toInt_lt
  have hval : (ofInt x.toInt).val = x.val := Int.ofNat_inj.mp h
  cases hx : ofInt x.toInt with
  | mk val val_lt =>
    cases x with
    | mk val' val_lt' =>
      rw [hx] at hval
      simp only at hval
      subst hval
      rfl

end Felt

namespace Lowering

open Ir

def FieldOp.onFelt : FieldOp → Felt → Felt → Felt
  | .add => Felt.add
  | .sub => Felt.sub
  | .mul => Felt.mul

def FieldOp.onInt : FieldOp → Int → Int → Int
  | .add => (· + ·)
  | .sub => (· - ·)
  | .mul => (· * ·)

theorem FieldOp.toInt_onFelt (op : FieldOp) (x y : Felt) :
    (op.onFelt x y).toInt = op.onInt x.toInt y.toInt % Felt.prime := by
  cases op <;> exact Felt.toInt_ofInt _

/-- The signed number that a field operation hands to the reduction helper. -/
def FieldOp.wideArg (op : FieldOp) (a b : Int) : Int :=
  match op with
  | .add => a.bmod (twoPow Felt.width) + b.bmod (twoPow Felt.width)
  | .sub => (a - b).bmod (twoPow Felt.width)
  | .mul => a.bmod (twoPow Felt.width) * b.bmod (twoPow Felt.width)

/-! ## Functions of one piece of code -/

/-- A function that consists of a piece of code over parameters of the given types. -/
structure Runs (f : Function) (params : List Ty) (code : Code) : Prop where
  params_ty : f.params.map Param.ty = params
  block : ∃ name, f.blocks = [⟨name, code.insts, .ret (some (code.type, code.value))⟩]

/-- The function of one block that runs a piece of code and returns its value. -/
def Code.function (code : Code) (name : Text) (result : Ty) (params : List Ty) : Function where
  name := name
  result := result
  params := params.mapIdx fun i ty => ⟨"p" ++ Text.ofNat i, ty⟩
  blocks := [⟨"entry", code.insts, .ret (some (code.type, code.value))⟩]

theorem Compiler.buildFunction_eq (name : Text) (result : Slot) (params : List Slot) (code : Code) :
    buildFunction name result params code =
      code.function name result.type.ty (params.map fun p => p.type.ty) := by
  unfold buildFunction Code.function
  congr 1
  apply List.ext_getElem?
  intro i
  simp only [List.getElem?_mapIdx, List.getElem?_map, Option.map_map]
  rfl

theorem Code.function_params (code : Code) (name : Text) (result : Ty) (params : List Ty) :
    (code.function name result params).params.map Param.ty = params := by
  apply List.ext_getElem?
  intro i
  simp only [Code.function, List.getElem?_map, List.getElem?_mapIdx, Option.map_map]
  exact Option.map_id'

theorem Code.runs_function (code : Code) (name : Text) (result : Ty) (params : List Ty) :
    Runs (code.function name result params) params code where
  params_ty := code.function_params name result params
  block := ⟨"entry", rfl⟩

theorem Runs.eval_eq {f : Function} {ws : List Nat} {code : Code} {m : Module} {depth : Nat}
    {args : List Int} {v : Int} (h : Runs f (ws.map .int) code) (fr : Frame)
    (hlen : args.length = ws.length)
    (hrun : f.runInsts (fun position values => m.functions[position]?.map fun g =>
      m.eval depth g values) ⟨List.zipWith wrap ws args, []⟩ code.insts = .ok fr)
    (hv : f.operandValue fr code.value = .ok v) :
    m.eval (depth + 1) f args = .ok v := by
  obtain ⟨name, hb⟩ := h.block
  have hplen : f.params.length = ws.length := by
    have := congrArg List.length h.params_ty
    simpa using this
  have hint : ∀ p ∈ f.params, ∃ w, p.ty = .int w := by
    intro p hp
    have hm : p.ty ∈ f.params.map Param.ty := List.mem_map_of_mem hp
    rw [h.params_ty] at hm
    obtain ⟨w, _, hw⟩ := List.mem_map.mp hm
    exact ⟨w, hw.symm⟩
  have hbind : f.bindParams 0 f.params args = .ok (List.zipWith wrap ws args) := by
    rw [Function.bindParams_of_int f 0 args hint]
    congr 1
    have hz : List.zipWith (fun p a => wrap p.ty.size a) f.params args =
        List.zipWith (fun t a => wrap t.size a) (f.params.map Param.ty) args := by
      rw [List.zipWith_map_left]
    rw [hz, h.params_ty, List.zipWith_map_left]
    rfl
  rw [Module.eval, Function.activate_block hb (by omega) hbind hrun]
  exact hv

/-! ## The reduction helper -/

/-- The values of the helper, one after the other, at any width whose signed range holds
twice the modulus: the remainder, the remainder moved up by the modulus, and the canonical
element before and after it is cut. -/
theorem runInsts_reduce {f : Function} {invoke : Nat → List Int → Option (Except EvalError Int)}
    {wide target : Nat} (hwide : 2 * Felt.prime ≤ twoPow (wide - 1))
    (htarget : Felt.prime ≤ twoPow target) (x : Int) :
    f.runInsts invoke ⟨[wrap wide x], []⟩ (Code.reduce wide target).insts =
      .ok ⟨[wrap wide x],
        [wrap wide ((x.bmod (twoPow wide)).tmod Felt.prime),
          wrap wide ((x.bmod (twoPow wide)).tmod Felt.prime + Felt.prime),
          wrap wide (x.bmod (twoPow wide) % Felt.prime), x.bmod (twoPow wide) % Felt.prime]⟩ := by
  have hp : (0 : Int) < Felt.prime := by exact_mod_cast Felt.prime_pos
  have hw : 0 < wide := by
    rcases Nat.eq_zero_or_pos wide with h0 | h0
    · subst h0
      have := Felt.prime_pos
      have h1 : twoPow (0 - 1) = 1 := rfl
      omega
    · exact h0
  obtain ⟨k, rfl⟩ : ∃ k, wide = k + 1 := ⟨wide - 1, by omega⟩
  have hk : 2 * Felt.prime ≤ twoPow k := hwide
  have hs := twoPow_succ k
  -- The modulus is read back unchanged, both as a word and as a signed number.
  have hpw : wrap (k + 1) Felt.prime = Felt.prime := wrap_of_range (by omega) (by omega)
  have hpne : wrap (k + 1) Felt.prime ≠ 0 := by rw [hpw]; omega
  have hpb : (Felt.prime : Int).bmod (twoPow (k + 1)) = Felt.prime :=
    bmod_twoPow_of_range (by omega) (by omega)
  let s := x.bmod (twoPow (k + 1))
  let r := s.tmod Felt.prime
  have hr0 : -(Felt.prime : Int) < r := Int.lt_tmod_of_pos s hp
  have hr1 : r < Felt.prime := Int.tmod_lt_of_pos s hp
  have hsum : (r + Felt.prime).bmod (twoPow (k + 1)) = r + Felt.prime :=
    bmod_twoPow_of_range (by omega) (by omega)
  have hcanon : (r + Felt.prime).tmod Felt.prime = s % Felt.prime := tmod_add_tmod hp s
  have hc0 : 0 ≤ s % (Felt.prime : Int) := Int.emod_nonneg s (by omega)
  have hc1 : s % (Felt.prime : Int) < Felt.prime := Int.emod_lt_of_pos s hp
  have hlast : wrap target (wrap (k + 1) (s % (Felt.prime : Int))) = s % (Felt.prime : Int) := by
    rw [wrap_of_range hc0 (by omega : s % (Felt.prime : Int) < twoPow (k + 1)),
      wrap_of_range hc0 (by omega)]
  show f.runInsts _ ⟨[wrap (k + 1) x], []⟩ _ = .ok ⟨_, [wrap (k + 1) r, wrap (k + 1) (r + Felt.prime),
    wrap (k + 1) (s % Felt.prime), s % Felt.prime]⟩
  simp only [Code.reduce]
  rw [Function.runInsts_cons (v := wrap (k + 1) r), Function.runInsts_cons
    (v := wrap (k + 1) (r + Felt.prime)), Function.runInsts_cons (v := wrap (k + 1) (s % Felt.prime)),
    Function.runInsts_cons (v := s % Felt.prime)]
  · rfl
  · exact (Function.instValue_trunc rfl).trans (congrArg Except.ok hlast)
  · refine Function.instValue_binary rfl rfl ?_
    rw [Function.binaryValue_srem hw hpne, hsum, hpb, hcanon]
  · exact (Function.instValue_binary rfl rfl rfl).trans (congrArg Except.ok (wrap_add_wrap _ _ _))
  · refine Function.instValue_binary rfl rfl ?_
    rw [Function.binaryValue_srem hw hpne, hpb]

theorem eval_reduce {m : Module} {f : Function} {wide target : Nat}
    (h : Runs f [.int wide] (Code.reduce wide target))
    (hwide : 2 * Felt.prime ≤ twoPow (wide - 1)) (htarget : Felt.prime ≤ twoPow target)
    (depth : Nat) (x : Int) :
    m.eval (depth + 1) f [x] = .ok (x.bmod (twoPow wide) % Felt.prime) := by
  have h' : Runs f ([wide].map .int) (Code.reduce wide target) := h
  exact h'.eval_eq _ rfl (runInsts_reduce hwide htarget x) rfl

/-! ## Field operations -/

theorem bmod_width_range (a : Int) :
    -(twoPow 252 : Int) ≤ a.bmod (twoPow Felt.width) ∧ a.bmod (twoPow Felt.width) < twoPow 252 := by
  have hs : twoPow Felt.width = 2 * twoPow 252 := twoPow_succ 252
  have hpos : 0 < twoPow Felt.width := twoPow_pos _
  have hlo := Int.le_bmod (x := a) hpos
  have hhi := Int.bmod_lt (x := a) hpos
  omega

/-- Widening a wrapped operand keeps its signed reading. -/
theorem wrap_toSigned_width (v : Int) :
    wrap Felt.wideWidth (toSigned Felt.width (wrap Felt.width v)) =
      wrap Felt.wideWidth (v.bmod (twoPow Felt.width)) := by
  rw [toSigned_wrap (by decide)]

/-- The wide width holds what a field operation hands to the helper, so its signed
reading is that number. -/
theorem FieldOp.wideArg_bmod (op : FieldOp) (a b : Int) :
    (op.wideArg a b).bmod (twoPow Felt.wideWidth) = op.wideArg a b := by
  have ha := bmod_width_range a
  have hb := bmod_width_range b
  have hs : twoPow 505 = twoPow 252 * twoPow 253 := twoPow_add 252 253
  have hle : twoPow 253 ≤ twoPow 505 := twoPow_le (by omega)
  have h253 : twoPow 253 = 2 * twoPow 252 := twoPow_succ 252
  have hrange : -(twoPow 505 : Int) ≤ op.wideArg a b ∧ op.wideArg a b < twoPow 505 := by
    cases op with
    | add =>
      simp only [wideArg]
      omega
    | sub =>
      have hab := bmod_width_range (a - b)
      simp only [wideArg]
      omega
    | mul =>
      -- Both factors are at most `2 ^ 252` in size, and the range is twice the product.
      have habs : (a.bmod (twoPow Felt.width) * b.bmod (twoPow Felt.width)).natAbs ≤
          twoPow 252 * twoPow 252 := by
        rw [Int.natAbs_mul]
        exact Nat.mul_le_mul (by omega) (by omega)
      have hpos : 0 < twoPow 252 * twoPow 252 := Nat.mul_pos (twoPow_pos _) (twoPow_pos _)
      have htwice : twoPow 252 * twoPow 253 = 2 * (twoPow 252 * twoPow 252) := by
        rw [h253, Nat.mul_left_comm]
      simp only [wideArg]
      omega
  exact bmod_twoPow_of_range hrange.1 hrange.2

/-- On canonical arguments the helper is handed the exact result. -/
theorem FieldOp.wideArg_of_canonical (op : FieldOp) {a b : Int} (ha0 : 0 ≤ a)
    (ha1 : a < Felt.prime) (hb0 : 0 ≤ b) (hb1 : b < Felt.prime) :
    op.wideArg a b = op.onInt a b := by
  have hp := Felt.prime_lt_twoPow
  have hfix : ∀ v : Int, -(twoPow 252 : Int) ≤ v → v < twoPow 252 →
      v.bmod (twoPow Felt.width) = v := fun v h0 h1 => bmod_twoPow_of_range h0 h1
  cases op with
  | add =>
    simp only [wideArg, onInt]
    rw [hfix a (by omega) (by omega), hfix b (by omega) (by omega)]
  | sub => exact hfix (a - b) (by omega) (by omega)
  | mul =>
    simp only [wideArg, onInt]
    rw [hfix a (by omega) (by omega), hfix b (by omega) (by omega)]

/-- Operands that are widened, combined and handed to the helper. -/
theorem runInsts_widened {f : Function} {invoke : Nat → List Int → Option (Except EvalError Int)}
    {op : BinaryOp} {h : Helper} {a b v r : Int}
    (hop : f.binaryValue op Felt.wideWidth (wrap Felt.wideWidth (a.bmod (twoPow Felt.width)))
      (wrap Felt.wideWidth (b.bmod (twoPow Felt.width))) = .ok v)
    (hcall : invoke h.position [wrap Felt.wideWidth v] = some (.ok r)) :
    f.runInsts invoke ⟨[wrap Felt.width a, wrap Felt.width b], []⟩
        [Code.widen "lhs" (.param 0), Code.widen "rhs" (.param 1),
          .binary "arg" op (.int Felt.wideWidth) (.inst 0) (.inst 1), Code.callHelper h 2] =
      .ok ⟨[wrap Felt.width a, wrap Felt.width b],
        [wrap Felt.wideWidth (a.bmod (twoPow Felt.width)),
          wrap Felt.wideWidth (b.bmod (twoPow Felt.width)), wrap Felt.wideWidth v, r]⟩ := by
  simp only [Code.widen, Code.callHelper]
  rw [Function.runInsts_cons (v := wrap Felt.wideWidth (a.bmod (twoPow Felt.width))),
    Function.runInsts_cons (v := wrap Felt.wideWidth (b.bmod (twoPow Felt.width))),
    Function.runInsts_cons (v := wrap Felt.wideWidth v), Function.runInsts_cons (v := r)]
  · rfl
  · exact Function.instValue_call rfl hcall
  · exact Function.instValue_binary rfl rfl hop
  · exact (Function.instValue_sext rfl).trans (congrArg Except.ok (wrap_toSigned_width b))
  · exact (Function.instValue_sext rfl).trans (congrArg Except.ok (wrap_toSigned_width a))

/-- A field operation on arbitrary integers, in a module that holds its helper. -/
theorem eval_field {m : Module} {f g : Function} {op : FieldOp} {h : Helper}
    (hf : Runs f [.int Felt.width, .int Felt.width] (Code.field op h))
    (hg : m.functions[h.position]? = some g)
    (hr : Runs g [.int Felt.wideWidth] (Code.reduce Felt.wideWidth Felt.width))
    (depth : Nat) (a b : Int) :
    m.eval (depth + 2) f [a, b] = .ok (op.wideArg a b % Felt.prime) := by
  have hf' : Runs f ([Felt.width, Felt.width].map .int) (Code.field op h) := hf
  -- What the helper answers on the wrapped wide argument.
  have harg : (m.functions[h.position]?.map fun g =>
      m.eval (depth + 1) g [wrap Felt.wideWidth (op.wideArg a b)]) =
        some (.ok (op.wideArg a b % Felt.prime)) := by
    rw [hg, Option.map_some, eval_reduce hr Felt.two_prime_le Felt.prime_le_twoPow_width]
    rw [show (wrap Felt.wideWidth (op.wideArg a b)).bmod (twoPow Felt.wideWidth) = op.wideArg a b from
      (Int.emod_bmod _ _).trans (op.wideArg_bmod a b)]
  cases op with
  | add =>
    rw [FieldOp.wideArg, ← wrap_add_wrap] at harg
    exact hf'.eval_eq _ rfl (runInsts_widened rfl harg) rfl
  | mul =>
    rw [FieldOp.wideArg, ← wrap_mul_wrap] at harg
    exact hf'.eval_eq _ rfl (runInsts_widened rfl harg) rfl
  | sub =>
    refine hf'.eval_eq ⟨[wrap Felt.width a, wrap Felt.width b],
      [wrap Felt.width (a - b), wrap Felt.wideWidth (FieldOp.wideArg .sub a b),
        FieldOp.wideArg .sub a b % Felt.prime]⟩ rfl ?_ rfl
    show f.runInsts _ ⟨[wrap Felt.width a, wrap Felt.width b], []⟩ _ = _
    simp only [Code.field, Code.widen, Code.callHelper]
    rw [Function.runInsts_cons (v := wrap Felt.width (a - b)),
      Function.runInsts_cons (v := wrap Felt.wideWidth (FieldOp.wideArg .sub a b)),
      Function.runInsts_cons (v := FieldOp.wideArg .sub a b % Felt.prime)]
    · rfl
    · exact Function.instValue_call rfl harg
    · exact (Function.instValue_sext rfl).trans (congrArg Except.ok (wrap_toSigned_width (a - b)))
    · exact (Function.instValue_binary rfl rfl rfl).trans
        (congrArg Except.ok (wrap_sub_wrap _ _ _))

/-! ## Constants and integer sums -/

theorem eval_const {m : Module} {f : Function} {w : Nat} {v : Int} {ty : Ty}
    (hf : Runs f [] ⟨[], ty, .const w v⟩) (depth : Nat) :
    m.eval (depth + 1) f [] = .ok (wrap w v) := by
  have hf' : Runs f (([] : List Nat).map .int) ⟨[], ty, .const w v⟩ := hf
  exact hf'.eval_eq ⟨[], []⟩ rfl rfl rfl

theorem eval_intAdd {m : Module} {f : Function} {w : Nat} {name : Text}
    (hf : Runs f [.int w, .int w]
      ⟨[.binary name .add (.int w) (.param 0) (.param 1)], .int w, .inst 0⟩)
    (depth : Nat) (a b : Int) :
    m.eval (depth + 1) f [a, b] = .ok (wrap w (a + b)) := by
  have hf' : Runs f ([w, w].map .int)
      ⟨[.binary name .add (.int w) (.param 0) (.param 1)], .int w, .inst 0⟩ := hf
  refine hf'.eval_eq ⟨[wrap w a, wrap w b], [wrap w (a + b)]⟩ rfl ?_ rfl
  show f.runInsts _ ⟨[wrap w a, wrap w b], []⟩ _ = _
  rw [Function.runInsts_cons (v := wrap w (a + b))]
  · rfl
  · exact (Function.instValue_binary rfl rfl rfl).trans (congrArg Except.ok (wrap_add_wrap _ _ _))

end Lowering
end FeltLowering
