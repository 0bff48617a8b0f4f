import FeltLowering.Proofs.Lowering.Failure
import FeltLowering.Proofs.Lowering.InUse
import FeltLowering.Proofs.Lowering.Resolution
import Mathlib.Algebra.Ring.Nat
import Mathlib.Data.Int.ModEq

/-
The reduction helper on every integer.

An argument is first read as a signed number of the wide width.  From there on the helper
computes as if words had no end: the remainder is smaller than the modulus in size, moving
it up by the modulus stays far inside the signed range, and the result has fewer bits than
it is cut to (`exactRun_of_bare`).  So the result is the canonical element that the signed
reading is congruent to.
-/
namespace FeltLowering
namespace Lowering

open Ir

/-- Running the helper on `x` gives `r`, and no step is cut: the signed reading of each wide
value is what the instruction gives on integers, and the last word is only made shorter. -/
def ExactRun (f : Function) (x r : Int) : Prop :=
  ∀ invoke, ∃ rem shifted canon,
    f.runInsts invoke ⟨[wrap Felt.wideWidth x], []⟩ f.insts =
        .ok ⟨[wrap Felt.wideWidth x], [rem, shifted, canon, r]⟩ ∧
      toSigned Felt.wideWidth rem =
        (toSigned Felt.wideWidth (wrap Felt.wideWidth x)).tmod Felt.prime ∧
      toSigned Felt.wideWidth shifted = toSigned Felt.wideWidth rem + Felt.prime ∧
      toSigned Felt.wideWidth canon = (toSigned Felt.wideWidth shifted).tmod Felt.prime ∧
      canon = r

theorem twoPow_eq (n : Nat) : twoPow n = 2 ^ n := rfl

theorem toSigned_wrap_wide {v : Int} (h0 : -(2 * Felt.prime : Int) ≤ v) (h1 : v < 2 * Felt.prime) :
    toSigned Felt.wideWidth (wrap Felt.wideWidth v) = v := by
  have hle : 2 * Felt.prime ≤ twoPow 505 := Felt.two_prime_le
  rw [toSigned_wrap (by decide)]
  exact bmod_twoPow_of_range (w := 505) (by omega) (by omega)

section Reduction

variable {f : Function}

theorem exactRun_of_bare (hf : f.bare = reduction) (x : Int) :
    ExactRun f x (x.bmod (twoPow Felt.wideWidth) % Felt.prime) := by
  have hp : (0 : Int) < Felt.prime := by exact_mod_cast Felt.prime_pos
  have hle : 2 * Felt.prime ≤ twoPow 505 := Felt.two_prime_le
  have hpow : twoPow Felt.wideWidth = 2 * twoPow 505 := twoPow_succ 505
  intro invoke
  have hrun : reduction.runInsts invoke ⟨[wrap Felt.wideWidth x], []⟩
      (Code.reduce Felt.wideWidth Felt.width).insts = _ :=
    runInsts_reduce Felt.two_prime_le Felt.prime_le_twoPow_width x
  have hinsts : (Code.reduce Felt.wideWidth Felt.width).insts = f.insts.map Inst.bare := by
    rw [← Function.insts_bare, hf]
    rfl
  rw [hinsts, ← hf, Function.runInsts_bare] at hrun
  have hread : toSigned Felt.wideWidth (wrap Felt.wideWidth x) = x.bmod (twoPow Felt.wideWidth) :=
    toSigned_wrap (by decide) x
  generalize x.bmod (twoPow Felt.wideWidth) = s at hrun hread ⊢
  have hr0 : -(Felt.prime : Int) < s.tmod Felt.prime := Int.lt_tmod_of_pos s hp
  have hr1 : s.tmod Felt.prime < Felt.prime := Int.tmod_lt_of_pos s hp
  have hc0 : 0 ≤ s % (Felt.prime : Int) := Int.emod_nonneg s (by omega)
  have hc1 : s % (Felt.prime : Int) < Felt.prime := Int.emod_lt_of_pos s hp
  refine ⟨_, _, _, hrun, ?_, ?_, ?_, ?_⟩
  · rw [hread, toSigned_wrap_wide (by omega) (by omega)]
  · rw [toSigned_wrap_wide (by omega) (by omega), toSigned_wrap_wide (by omega) (by omega)]
  · rw [toSigned_wrap_wide (by omega) (by omega), toSigned_wrap_wide (by omega) (by omega),
      tmod_add_tmod hp]
  · exact wrap_of_range hc0 (by omega)

theorem eval_of_bare (hf : f.bare = reduction) (m : Module) (x : Int) :
    m.eval maxDepth f [x] = .ok (x.bmod (twoPow Felt.wideWidth) % Felt.prime) := by
  rw [← Module.eval_bare, hf]
  exact eval_reduce (Code.runs_function _ _ _ _) Felt.two_prime_le Felt.prime_le_twoPow_width _ x

/-- Inside the signed range the argument itself is reduced. -/
theorem eval_of_bare_range (hf : f.bare = reduction) (m : Module) {x : Int}
    (h0 : -(twoPow 505 : Int) ≤ x) (h1 : x < twoPow 505) :
    m.eval maxDepth f [x] = .ok (x % Felt.prime) := by
  have hread : x.bmod (twoPow Felt.wideWidth) = x := bmod_twoPow_of_range (w := 505) h0 h1
  rw [eval_of_bare hf, hread]

/-- What field operations on canonical elements hand to the helper lies in that range. -/
theorem eval_of_bare_onInt (hf : f.bare = reduction) (m : Module) (op : FieldOp) (a b : Felt) :
    m.eval maxDepth f [op.onInt a.toInt b.toInt] = .ok (op.onFelt a b).toInt := by
  have harg := op.wideArg_of_canonical a.toInt_nonneg a.toInt_lt b.toInt_nonneg b.toInt_lt
  rw [FieldOp.toInt_onFelt, ← harg, eval_of_bare hf, op.wideArg_bmod]

end Reduction

/-- A residue of an integer is found once among the canonical elements. -/
theorem eq_emod_of_modEq {r s : Int} (h0 : 0 ≤ r) (h1 : r < Felt.prime)
    (h : r ≡ s [ZMOD Felt.prime]) : r = s % Felt.prime :=
  (Int.emod_eq_of_lt h0 h1).symm.trans h

namespace Compiler

variable {c : Compiler}

/-- The helper is found by its name, by the compiler and by the evaluator. -/
theorem Coherent.func?_helperName (hc : c.Coherent) {f : Function} {i : Nat}
    (hf : c.module.functions[i]? = some f) (hbare : f.bare = reduction) :
    c.func? helperName = some f ∧
      ∀ args, c.module.call helperName args = c.module.eval maxDepth f args := by
  have hname : f.name = helperName := congrArg Function.name hbare
  have hfunc : c.func? helperName = some f := by
    rw [hc.tabled.func?_eq, ← hname]
    exact find?_key_of_mem hc.tabled.names (List.mem_of_getElem? hf)
  have hquoted : ∀ v, helperName ≠ Name.quotedNumber v := by
    intro v h
    have hhead : helperName.head? = some 0x22 := congrArg List.head? h
    exact absurd hhead (by decide)
  exact ⟨hfunc, (hc.tabled.resolves.plain helperName (by decide) hquoted).1 f hfunc⟩

theorem helper_of_declareHelper {r : Helper × Option Summary} (h : c.declareHelper.2 = .ok r) :
    c.declareHelper.1.helper = some r.1 := by
  rw [declareHelper_eq] at h ⊢
  split at h
  · next hlp hsome =>
    cases h
    exact hsome
  · cases h
  · simp only at h ⊢
    split at h
    · cases h
    · cases h
      rfl

end Compiler

theorem Session.helper_of_answer {s : Session} (h : s.answer (.operation .declareHelper) = .ok ()) :
    ∃ hlp, (s.serve (.operation .declareHelper)).compiler.helper = some hlp := by
  have hresult := s.progress.result_declareHelper s.span
  rw [Progress.result_eq_ok h] at hresult
  cases houtcome : s.compiler.declareHelper.2 with
  | error e =>
    rw [show s.progress.compiler.declareHelper.2 = .error e from houtcome] at hresult
    cases hresult
  | ok r =>
    refine ⟨r.1, ?_⟩
    show (s.progress.declareHelper s.span).1.compiler.helper = _
    rw [Progress.declareHelper_compiler]
    exact Compiler.helper_of_declareHelper houtcome

/-- Once the helper has been declared, and whatever is called after that, it gives on every
integer the only canonical element congruent to the signed reading of the integer, with no
step cut on the way.  An integer inside the signed range is reduced itself, as are
differences, sums and products of canonical elements. -/
theorem helper_reduces_every_integer {s : Session} (hs : s.InUse)
    (hd : s.answer (.operation .declareHelper) = .ok ()) (later : List Request) :
    let c := ((s.serve (.operation .declareHelper)).serveAll later).compiler
    ∃ hlp f, c.helper = some hlp ∧ c.module.functions[hlp.position]? = some f ∧
      c.func? helperName = some f ∧
      (∀ x : Int, ∃ r : Int, c.module.eval maxDepth f [x] = .ok r ∧
        c.module.call helperName [x] = .ok r ∧ ExactRun f x r ∧
        (0 ≤ r ∧ r < Felt.prime ∧ r ≡ x.bmod (2 ^ 506) [ZMOD Felt.prime]) ∧
        ∀ r' : Int, 0 ≤ r' → r' < Felt.prime → r' ≡ x.bmod (2 ^ 506) [ZMOD Felt.prime] → r' = r) ∧
      (∀ x : Int, -(2 ^ 505) ≤ x → x < 2 ^ 505 →
        c.module.eval maxDepth f [x] = .ok (x % Felt.prime)) ∧
      ∀ (op : FieldOp) (a b : Felt),
        c.module.eval maxDepth f [op.onInt a.toInt b.toInt] = .ok (op.onFelt a b).toInt := by
  intro c
  obtain ⟨hlp, hhelper⟩ := Session.helper_of_answer hd
  have hcoherent : c.Coherent := ((hs.serve _).serveAll later).coherent
  have hkept : c.helper = some hlp := Session.serveAll_helper later hhelper
  obtain ⟨f, hf, hbare⟩ := hcoherent.helper hlp hkept
  obtain ⟨hfunc, hcall⟩ := hcoherent.func?_helperName hf hbare
  have hp : (0 : Int) < Felt.prime := by exact_mod_cast Felt.prime_pos
  refine ⟨hlp, f, hkept, hf, hfunc, fun x => ?_, fun x h0 h1 => ?_, eval_of_bare_onInt hbare _⟩
  · have heval := eval_of_bare hbare c.module x
    have hexact := exactRun_of_bare hbare x
    rw [show twoPow Felt.wideWidth = 2 ^ 506 from twoPow_eq 506] at heval hexact
    refine ⟨_, heval, (hcall [x]).trans heval, hexact, ⟨?_, ?_, Int.mod_modEq _ _⟩, ?_⟩
    · exact Int.emod_nonneg _ (by omega)
    · exact Int.emod_lt_of_pos _ hp
    · exact fun r' h0 h1 h => eq_emod_of_modEq h0 h1 h
  · have hpow : (twoPow 505 : Int) = 2 ^ 505 := twoPow_cast 505
    exact eval_of_bare_range hbare _ (by rw [hpow]; exact h0) (by rw [hpow]; exact h1)

/-- A field element type, with debug info. -/
def feltSession : Session :=
  (Session.start { debugInfo := true }).serve
    (.operation (.declareType ⟨⟨0, "felt"⟩, "felt252", none⟩))

/-- The least integer outside the signed range is read as the least one inside, after a
failed call too. -/
theorem feltSession_helper_reduces :
    feltSession.answer (.operation .declareHelper) = .ok () ∧
      let c := ((feltSession.serve (.operation .declareHelper)).serveAll [unevenSum]).compiler
      ∃ f, c.func? helperName = some f ∧
        c.module.eval maxDepth f [2 ^ 505] = .ok (-(2 ^ 505) % Felt.prime) ∧
        c.module.eval maxDepth f [-(2 ^ 505)] = .ok (-(2 ^ 505) % Felt.prime) := by
  have hd : feltSession.answer (.operation .declareHelper) = .ok () := by decide +kernel
  have hs : feltSession.InUse := (Session.InUse.start _).serve _
  obtain ⟨hlp, f, -, -, hfunc, hall, hrange, -⟩ := helper_reduces_every_integer hs hd [unevenSum]
  refine ⟨hd, f, hfunc, ?_, hrange _ le_rfl (by decide +kernel)⟩
  obtain ⟨r, heval, -, -, -, honly⟩ := hall (2 ^ 505)
  rw [heval, ← honly (-(2 ^ 505) % Felt.prime) (by decide +kernel) (by decide +kernel) ?_]
  have hread : ((2 : Int) ^ 505).bmod (2 ^ 506) = -(2 ^ 505) := by decide +kernel
  rw [hread]
  exact Int.mod_modEq _ _

end Lowering
end FeltLowering
