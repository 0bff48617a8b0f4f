import FeltLowering.Proofs.Ir.Activation
import FeltLowering.Proofs.Ir.Evaluation

/-
Remainders by zero.

A remainder is guarded by a test of its divisor as it stands, and a signed remainder is
taken by the signed reading of the divisor at the width of the instruction.  That width
need not be the one of the divisor: code may be ill-typed, and a call may give a wider value
than it declares.  The reading moves a value by `2 ^ w` only if its bit `w - 1` is set, and
`2 ^ w` itself does not have that bit, so no divisor but zero is read as zero
(`toSigned_eq_zero_iff`).

`Module.Executes` are the instructions that an evaluation arrives at, with those of the
functions it calls.
-/
namespace FeltLowering
namespace Ir

/-- Only zero is read as zero, at every width and for values of any size. -/
theorem toSigned_eq_zero_iff {w : Nat} {v : Int} : toSigned w v = 0 ↔ v = 0 := by
  cases w with
  | zero => rfl
  | succ k =>
    unfold toSigned
    by_cases hbit : (v >>> k) % 2 = 0
    · simp [hbit]
    · have hne : v ≠ 0 := by
        rintro rfl
        exact hbit (by rw [Int.zero_shiftRight]; rfl)
      have hmoved : v - twoPow (k + 1) ≠ 0 := by
        intro hzero
        have hpos : (twoPow k : Int) ≠ 0 := by have := twoPow_pos k; omega
        have hv : v = 2 * twoPow k := by have := twoPow_succ k; omega
        have hshift : v >>> k = 2 := by
          rw [Int.shiftRight_eq_div_pow, hv]
          exact Int.mul_ediv_cancel 2 hpos
        exact hbit (by rw [hshift]; rfl)
      simp [hbit, hne, hmoved]

/-- How a remainder reads its operands at its width. -/
def BinaryOp.reading (op : BinaryOp) (w : Nat) (v : Int) : Int :=
  if op = .srem then toSigned w v else v

theorem BinaryOp.reading_ne_zero (op : BinaryOp) (w : Nat) {v : Int} (hv : v ≠ 0) :
    op.reading w v ≠ 0 := by
  unfold reading
  split
  · exact mt toSigned_eq_zero_iff.mp hv
  · exact hv

namespace Function

/-- The instruction is a remainder at width `w` whose operands have the values `a` and `b`. -/
def TakesRemainder (f : Function) (fr : Frame) (op : BinaryOp) (w : Nat) (a b : Int) : Inst → Prop
  | .binary _ op' ty x y =>
    op' = op ∧ (op = .urem ∨ op = .srem) ∧ ty = .int w ∧ f.operandValue fr x = .ok a ∧
      f.operandValue fr y = .ok b
  | _ => False

variable {f : Function} {fr : Frame} {op : BinaryOp} {w : Nat} {a b : Int}

theorem dividesByZero_iff {i : Inst} :
    f.DividesByZero fr op i ↔ ∃ w a, f.TakesRemainder fr op w a 0 i := by
  constructor
  · intro h
    match i, h with
    | .binary name op' (.int w) x y, ⟨hop, hrem, ⟨a, ha⟩, hb⟩ =>
      exact ⟨w, a, hop, hrem, rfl, ha, hb⟩
  · rintro ⟨w, a, h⟩
    match i, h with
    | .binary name op' (.int w') x y, ⟨hop, hrem, _, ha, hb⟩ => exact ⟨hop, hrem, ⟨a, ha⟩, hb⟩

/-- Past the guard the remainder is that of the two readings. -/
theorem binaryValue_of_ne_zero (hrem : op = .urem ∨ op = .srem) (hb : b ≠ 0) :
    f.binaryValue op w a b = .ok ((op.reading w a).tmod (op.reading w b)) := by
  rcases hrem with rfl | rfl
  · exact if_neg hb
  · exact if_neg hb

theorem TakesRemainder.instValue_eq {i : Inst} (h : f.TakesRemainder fr op w a b i) (hb : b ≠ 0)
    (invoke : Nat → List Int → Option (Except EvalError Int)) :
    f.instValue invoke fr i = .ok (wrap w ((op.reading w a).tmod (op.reading w b))) := by
  match i, h with
  | .binary name op' ty x y, ⟨hop, hrem, hty, hx, hy⟩ =>
    subst hop hty
    exact instValue_binary hx hy (binaryValue_of_ne_zero hrem hb)

end Function

namespace Module

/-- The evaluation arrives at an instruction, of the function itself or of one it calls. -/
inductive Executes (m : Module) : Nat → Function → List Int → Function → Frame → Inst → Prop
  | own {depth : Nat} {f : Function} {args : List Int} {fr : Frame} {i : Inst}
      (h : f.Arrives (m.answer depth) args fr i) : Executes m (depth + 1) f args f fr i
  | inside {depth : Nat} {f g h : Function} {args values : List Int} {fr : Frame} {i : Inst}
      (henters : m.Enters depth f args g values) (hin : Executes m depth g values h fr i) :
      Executes m (depth + 1) f args h fr i

variable {m : Module} {depth : Nat} {f g : Function} {args : List Int} {fr : Frame} {i : Inst}
  {op : BinaryOp}

/-- A zero divisor ends the evaluation, however deep inside its calls it is met. -/
theorem Executes.eval_eq_error (h : m.Executes depth f args g fr i)
    (hdiv : g.DividesByZero fr op i) :
    m.eval depth f args = .error ⟨g.displayName, .remByZero op⟩ := by
  induction h with
  | own harrives => exact (eval_succ_eq_error_iff rfl).mpr (Or.inl ⟨_, _, op, harrives, hdiv, rfl⟩)
  | inside henters _ ih => exact (eval_succ_eq_error_iff rfl).mpr (Or.inr ⟨_, _, henters, ih hdiv⟩)

/-- A division by zero that is reported is one that the evaluation arrived at. -/
theorem exists_executes_of_eval {name : Text}
    (h : m.eval depth f args = .error ⟨name, .remByZero op⟩) :
    ∃ g fr i, m.Executes depth f args g fr i ∧ g.DividesByZero fr op i ∧ name = g.displayName := by
  induction depth generalizing f args with
  | zero => cases h
  | succ depth ih =>
    rcases (eval_succ_eq_error_iff rfl).mp h with ⟨fr, i, op', harrives, hdiv, hfault⟩ |
      ⟨g, values, henters, hg⟩
    · cases hfault
      exact ⟨f, fr, i, .own harrives, hdiv, rfl⟩
    · obtain ⟨h, fr, i, hexec, hdiv, hname⟩ := ih hg
      exact ⟨h, fr, i, .inside henters hexec, hdiv, hname⟩

end Module

/-- No evaluation takes a remainder by zero.  Of a remainder it arrives at, a divisor that is
not zero is not read as zero either, and a zero divisor ends the evaluation with a report of
the division; no division by zero is reported otherwise. -/
theorem remainders_have_nonzero_divisors (m : Module) (depth : Nat) (f : Function)
    (args : List Int) :
    (∀ g fr i op w a b, m.Executes depth f args g fr i → g.TakesRemainder fr op w a b i →
      (b = 0 → m.eval depth f args = .error ⟨g.displayName, .remByZero op⟩) ∧
      (b ≠ 0 → op.reading w b ≠ 0 ∧ ∀ invoke, g.instValue invoke fr i =
        .ok (wrap w ((op.reading w a).tmod (op.reading w b))))) ∧
    ∀ name op, m.eval depth f args = .error ⟨name, .remByZero op⟩ →
      ∃ g fr i w a, m.Executes depth f args g fr i ∧ g.TakesRemainder fr op w a 0 i ∧
        name = g.displayName := by
  refine ⟨fun g fr i op w a b hexec hrem => ⟨?_, fun hb => ?_⟩, fun name op h => ?_⟩
  · rintro rfl
    exact hexec.eval_eq_error (Function.dividesByZero_iff.mpr ⟨w, a, hrem⟩)
  · exact ⟨op.reading_ne_zero w hb, hrem.instValue_eq hb⟩
  · obtain ⟨g, fr, i, hexec, hdiv, hname⟩ := Module.exists_executes_of_eval h
    obtain ⟨w, a, hrem⟩ := Function.dividesByZero_iff.mp hdiv
    exact ⟨g, fr, i, w, a, hexec, hrem, hname⟩

def passedOn : Function where
  name := "pass"
  result := .int 16
  params := [⟨"b", .int 16⟩]
  blocks := [⟨"entry", [], .ret (some (.int 16, .param 0))⟩]

def narrowRemainder : Inst := .binary "r" .srem (.int 8) (.param 0) (.inst 0)

/-- Takes a remainder at eight bits by what a call gives, which has sixteen. -/
def mixedRemainder : Function where
  name := "mix"
  result := .int 8
  params := [⟨"a", .int 8⟩, ⟨"b", .int 16⟩]
  blocks := [⟨"entry",
    [.call "v" (.int 8) (some 0) [(.int 16, .param 1)] [], narrowRemainder],
    .ret (some (.int 8, .inst 1))⟩]

def mixedWidths : Module where
  functions := [passedOn, mixedRemainder]

/-- At eight bits 384 is read as 128 and 256 as itself, and 65536 is zero at sixteen bits. -/
theorem mixedWidths_remainders :
    BinaryOp.srem.reading 8 384 ≠ 0 ∧
    mixedRemainder.instValue (mixedWidths.answer 63) ⟨[156, 384], [384]⟩ narrowRemainder = .ok 156 ∧
    mixedRemainder.instValue (mixedWidths.answer 63) ⟨[7, 256], [256]⟩ narrowRemainder = .ok 7 ∧
    mixedWidths.eval maxDepth mixedRemainder [7, 65536] = .error ⟨"mix", .remByZero .srem⟩ := by
  have hexec (args : List Int) (a b : Int) (hlen : args.length = 2)
      (hparams : mixedRemainder.bindParams 0 mixedRemainder.params args = .ok [a, b])
      (hrun : mixedRemainder.runInsts (mixedWidths.answer 63) ⟨[a, b], []⟩
        [.call "v" (.int 8) (some 0) [(.int 16, .param 1)] []] = .ok ⟨[a, b], [b]⟩) :
      mixedWidths.Executes maxDepth mixedRemainder args mixedRemainder ⟨[a, b], [b]⟩
        narrowRemainder :=
    .own ⟨hlen, _, _, [], _, rfl, rfl, hparams, hrun⟩
  have hwide := (remainders_have_nonzero_divisors mixedWidths maxDepth mixedRemainder [-100, 384]).1
    _ _ _ .srem 8 156 384 (hexec _ 156 384 rfl (by decide) (by decide))
    ⟨rfl, Or.inr rfl, rfl, rfl, rfl⟩
  have hpower := (remainders_have_nonzero_divisors mixedWidths maxDepth mixedRemainder [7, 256]).1
    _ _ _ .srem 8 7 256 (hexec _ 7 256 rfl (by decide) (by decide)) ⟨rfl, Or.inr rfl, rfl, rfl, rfl⟩
  have hzero := (remainders_have_nonzero_divisors mixedWidths maxDepth mixedRemainder [7, 65536]).1
    _ _ _ .srem 8 7 0 (hexec _ 7 0 rfl (by decide) (by decide)) ⟨rfl, Or.inr rfl, rfl, rfl, rfl⟩
  exact ⟨(hwide.2 (by decide)).1, (hwide.2 (by decide)).2 _, (hpower.2 (by decide)).2 _,
    hzero.1 rfl⟩

end Ir
end FeltLowering
