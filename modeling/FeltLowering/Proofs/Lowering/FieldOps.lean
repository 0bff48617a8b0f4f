import FeltLowering.Proofs.Lowering.Arithmetic
import FeltLowering.Proofs.Lowering.Reduction

/-
Field operations on arbitrary integers.

Arguments are read as signed numbers of felt width.  Sums and products are taken of the
widened readings and never overflow.  A difference is taken at felt width first, so it wraps
once the readings are too far apart, and since the modulus does not divide the number of
words, it is wrong exactly then (`wideArg_sub_emod_iff`).

A field function comes from a libfunc declaration, a direct call, a lowering of its body or
a lowered program.  `Compiler.HoldsFieldOp` is what all of them leave and later calls keep.
-/
namespace FeltLowering
namespace Lowering

open Ir

/-! ## Wrapped differences -/

/-- The signed reading of a difference is the difference of the readings, up to one turn. -/
theorem bmod_sub_cases (a b : Int) :
    let d := a.bmod (twoPow Felt.width) - b.bmod (twoPow Felt.width)
    (-(twoPow 252 : Int) ≤ d ∧ d < twoPow 252 ∧ (a - b).bmod (twoPow Felt.width) = d) ∨
      (d < -(twoPow 252 : Int) ∧ (a - b).bmod (twoPow Felt.width) = d + twoPow Felt.width) ∨
      ((twoPow 252 : Int) ≤ d ∧ (a - b).bmod (twoPow Felt.width) = d - twoPow Felt.width) := by
  intro d
  have ha := bmod_width_range a
  have hb := bmod_width_range b
  have hwidth : twoPow Felt.width = 2 * twoPow 252 := twoPow_succ 252
  have hread : (a - b).bmod (twoPow Felt.width) = d.bmod (twoPow Felt.width) := by
    rw [Int.sub_bmod_bmod, Int.bmod_sub_bmod]
  have hfix : ∀ v : Int, -(twoPow 252 : Int) ≤ v → v < twoPow 252 →
      v.bmod (twoPow Felt.width) = v := fun v h0 h1 => bmod_twoPow_of_range h0 h1
  rcases lt_or_ge d (-(twoPow 252 : Int)) with hlow | hlow
  · refine .inr (.inl ⟨hlow, ?_⟩)
    rw [hread, ← Int.add_bmod_right, hfix _ (by omega) (by omega)]
  · rcases lt_or_ge d (twoPow 252) with hhigh | hhigh
    · exact .inl ⟨hlow, hhigh, hread.trans (hfix d hlow hhigh)⟩
    · refine .inr (.inr ⟨hhigh, ?_⟩)
      rw [hread, ← Int.sub_bmod_right, hfix _ (by omega) (by omega)]

/-- One turn of the words of felt width is no multiple of the modulus. -/
theorem prime_not_dvd_twoPow : ¬ (Felt.prime : Int) ∣ twoPow Felt.width := by decide

/-- A difference is reduced exactly as long as it does not wrap. -/
theorem wideArg_sub_emod_iff (a b : Int) :
    FieldOp.wideArg .sub a b % Felt.prime =
        (a.bmod (twoPow Felt.width) - b.bmod (twoPow Felt.width)) % Felt.prime ↔
      -(twoPow 252 : Int) ≤ a.bmod (twoPow Felt.width) - b.bmod (twoPow Felt.width) ∧
        a.bmod (twoPow Felt.width) - b.bmod (twoPow Felt.width) < twoPow 252 := by
  rw [FieldOp.wideArg]
  rcases bmod_sub_cases a b with ⟨hlow, hhigh, hread⟩ | ⟨hlow, hread⟩ | ⟨hhigh, hread⟩
  · exact ⟨fun _ => ⟨hlow, hhigh⟩, fun _ => by rw [hread]⟩
  · rw [hread]
    refine ⟨fun h => absurd ?_ prime_not_dvd_twoPow, fun h => by omega⟩
    have hdvd := Int.ModEq.dvd (Int.ModEq.symm h)
    rwa [add_sub_cancel_left] at hdvd
  · rw [hread]
    refine ⟨fun h => absurd ?_ prime_not_dvd_twoPow, fun h => by omega⟩
    have hdvd := Int.ModEq.dvd h
    rwa [sub_sub_cancel] at hdvd

/-! ## Functions of field operations -/

namespace Compiler

variable {c c' : Compiler} {op : FieldOp} {name : Text}

/-- The function under a name is a field operation that calls the helper of the compiler. -/
def HoldsFieldOp (c : Compiler) (op : FieldOp) (name : Text) : Prop :=
  ∃ f hlp, c.func? name = some f ∧ c.helper = some hlp ∧
    Runs f.bare [.int Felt.width, .int Felt.width] (Code.field op hlp)

theorem params_of_code_field {result : Ty} {params : List Ty} {hlp : Helper} {code : Code}
    (hlen : params.length = 2) (h : (Body.field op (some hlp)).code result params = .ok code) :
    params = [.int Felt.width, .int Felt.width] ∧ code = Code.field op hlp := by
  match params, hlen with
  | [first, last], _ =>
    simp only [Body.code, List.head?_cons, Option.getD_some, List.getLast?_cons_cons,
      List.getLast?_singleton] at h
    split at h
    · cases h
    · next hfirst =>
      split at h
      · cases h
      · next hlast =>
        cases h
        rw [not_not.mp hfirst, not_not.mp hlast]
        exact ⟨rfl, rfl⟩

theorem holdsFieldOp_of_lower (hc : c.Tabled) {result : Slot} {params : List Slot} {hlp : Helper}
    {done : Lowered} (hhelper : c.helper = some hlp)
    (h : c.lower name result params (.field op (some hlp)) = .ok done) :
    done.compiler.HoldsFieldOp op name := by
  obtain ⟨signature, code, hcheck, -, hcode, -⟩ := lower_eq_ok_iff.mp h
  obtain ⟨hlen, -⟩ := checkBody_eq_ok_iff.mp hcheck
  obtain ⟨f, hfunc, -, hbare⟩ := func?_of_lower hcode h hc
  obtain ⟨hparams, rfl⟩ := params_of_code_field (by rw [List.length_map, hlen]; rfl) hcode
  refine ⟨f, hlp, hfunc, (lower_frame h).2.trans hhelper, ?_⟩
  rw [hbare, hparams, Code.function_bare (by cases op <;> rfl)]
  exact Code.runs_function _ _ _ _

theorem holdsFieldOp_of_callLibfunc (hc : c.Tabled) {d : Declaration} {done : Lowered}
    (h : c.callLibfunc d (.feltBinary op) = .ok done) :
    done.compiler.HoldsFieldOp op d.id.name := by
  obtain ⟨-, result, params, body, hreq, hlower⟩ := callLibfunc_eq_ok_iff.mp h
  cases hreq with
  | binary _ hhelper => exact holdsFieldOp_of_lower hc hhelper hlower

theorem holdsFieldOp_of_addFunction (hc : c.Tabled) {d : Declaration} (hd : d.IsFieldOp op)
    (h : c.addFunction d = .ok c') : c'.HoldsFieldOp op d.id.name := by
  cases hdone : c.declareLibfunc d with
  | error e =>
    rw [addFunction, hdone] at h
    cases h
  | ok done =>
    rw [addFunction, hdone] at h
    cases h
    obtain ⟨libfunc, hnamed, hcall⟩ := declareLibfunc_eq_ok_iff.mp hdone
    obtain rfl := Libfunc.named_unique hnamed hd.named
    exact holdsFieldOp_of_callLibfunc hc hcall

theorem holdsFieldOp_of_lowerDecls {o : Options} {p : Program} (h : (new o).lowerDecls p = .ok c)
    {d : Declaration} (hd : d ∈ p.libfuncList) (hop : d.IsFieldOp op) :
    c.HoldsFieldOp op d.id.name := by
  have hfilled := filled_of_lowerDecls h
  obtain ⟨f, hfunc, hf⟩ := hfilled.func?_eq_some hd
  have hhelper := hfilled.helper
  rw [if_pos (hasFelt_of_isFieldOp h hd hop)] at hhelper
  exact ⟨f, ⟨0⟩, hfunc, hhelper, runs_field hf hop⟩

theorem HoldsFieldOp.eval_eq (h : c.HoldsFieldOp op name) (hc : c.Coherent) :
    ∃ f, c.func? name = some f ∧
      ∀ a b : Int, c.module.eval maxDepth f [a, b] = .ok (op.wideArg a b % Felt.prime) := by
  obtain ⟨f, hlp, hfunc, hhelper, hruns⟩ := h
  have hstands := (hc.helper hlp hhelper).getElem?_bare
  refine ⟨f, hfunc, fun a b => ?_⟩
  rw [← Module.eval_bare]
  exact eval_field hruns hstands (Code.runs_function _ _ _ _) _ a b

end Compiler

namespace Session

/-- A field operation has been lowered under a name in this session, in any of the ways
there are. -/
inductive LoweredFieldOp (op : FieldOp) : Text → Session → Prop
  | program {env : Environment} {journal : Trace.Journal} {p : Program} {o : Options} {c : Compiler}
      {d : Declaration} (h : (lowerProgram env journal p o).2 = .ok c) (hd : d ∈ p.libfuncList)
      (hop : d.IsFieldOp op) (kept : Trace.Journal) (span : Nat) :
      LoweredFieldOp op d.id.name ⟨⟨c, kept⟩, span⟩
  | declareLibfunc {s : Session} {d : Declaration} (hs : s.InUse) (hop : d.IsFieldOp op)
      (h : s.answer (.operation (.declareLibfunc d)) = .ok ()) :
      LoweredFieldOp op d.id.name (s.serve (.operation (.declareLibfunc d)))
  | callLibfunc {s : Session} {d : Declaration} (hs : s.InUse)
      (h : s.answer (.operation (.callLibfunc (.feltBinary op) d)) = .ok ()) :
      LoweredFieldOp op d.id.name (s.serve (.operation (.callLibfunc (.feltBinary op) d)))
  | lower {s : Session} {name : Text} {result : Slot} {params : List Slot} {hlp : Helper}
      (hs : s.InUse) (hhelper : s.compiler.helper = some hlp)
      (h : s.answer (.lower name result params (.field op (some hlp))) = .ok ()) :
      LoweredFieldOp op name (s.serve (.lower name result params (.field op (some hlp))))
  | later {s : Session} {name : Text} (h : LoweredFieldOp op name s) (request : Request) :
      LoweredFieldOp op name (s.serve request)

variable {s : Session} {op : FieldOp} {name : Text}

theorem LoweredFieldOp.inUse (h : s.LoweredFieldOp op name) : s.InUse := by
  induction h with
  | program h _ _ kept span => exact .program h kept span
  | declareLibfunc hs _ _ => exact hs.serve _
  | callLibfunc hs _ => exact hs.serve _
  | lower hs _ _ => exact hs.serve _
  | later _ request ih => exact ih.serve request

theorem LoweredFieldOp.holds (h : s.LoweredFieldOp op name) : s.compiler.HoldsFieldOp op name := by
  induction h with
  | program h hd hop kept span =>
    exact Compiler.holdsFieldOp_of_lowerDecls (lowerDecls_of_lowerProgram h) hd hop
  | @declareLibfunc s d hs hop h =>
    have hresult : s.compiler.addFunction d = .ok (s.progress.declareLibfunc s.span d).1.compiler :=
      (s.progress.result_declareLibfunc s.span d).symm.trans (Progress.result_eq_ok h)
    exact Compiler.holdsFieldOp_of_addFunction hs.coherent.tabled hop hresult
  | @callLibfunc s d hs h =>
    obtain ⟨done, hdone, hserve⟩ := Progress.lowered_of_perform (Call.atomic_libfunc _ _) h
    show (s.progress.perform s.span _).1.compiler.HoldsFieldOp op _
    rw [hserve]
    exact Compiler.holdsFieldOp_of_callLibfunc hs.coherent.tabled hdone
  | @lower s name result params hlp hs hhelper h =>
    obtain ⟨done, hdone, hserve⟩ := Progress.lowered_of_perform (Call.atomic_lower _ _ _ _) h
    show (s.progress.perform s.span _).1.compiler.HoldsFieldOp op _
    rw [hserve]
    exact Compiler.holdsFieldOp_of_lower hs.coherent.tabled hhelper hdone
  | later h request ih =>
    obtain ⟨f, hlp, hfunc, hhelper, hruns⟩ := ih
    exact ⟨f, hlp, h.inUse.serveAll_func? [request] hfunc, serveAll_helper [request] hhelper, hruns⟩

end Session

/-- A field operation that has been lowered gives a canonical element on all integers.  Sums
and products are those of the signed readings of the arguments, and a difference is that of
the readings exactly as long as it is in the signed range itself. -/
theorem fieldOps_on_every_integer {s : Session} {op : FieldOp} {name : Text}
    (h : s.LoweredFieldOp op name) :
    ∃ f, s.compiler.func? name = some f ∧ ∀ a b : Int, ∃ r : Int,
      s.compiler.module.eval maxDepth f [a, b] = .ok r ∧ 0 ≤ r ∧ r < Felt.prime ∧
      (op = .add → r = (a.bmod (2 ^ 253) + b.bmod (2 ^ 253)) % Felt.prime) ∧
      (op = .mul → r = (a.bmod (2 ^ 253) * b.bmod (2 ^ 253)) % Felt.prime) ∧
      (op = .sub → (r = (a.bmod (2 ^ 253) - b.bmod (2 ^ 253)) % Felt.prime ↔
        -(2 ^ 252) ≤ a.bmod (2 ^ 253) - b.bmod (2 ^ 253) ∧
          a.bmod (2 ^ 253) - b.bmod (2 ^ 253) < 2 ^ 252)) := by
  have hp : (0 : Int) < Felt.prime := by exact_mod_cast Felt.prime_pos
  have hwords : twoPow Felt.width = 2 ^ 253 := twoPow_eq 253
  have hhalf : (twoPow 252 : Int) = 2 ^ 252 := twoPow_cast 252
  obtain ⟨f, hfunc, heval⟩ := h.holds.eval_eq h.inUse.coherent
  refine ⟨f, hfunc, fun a b => ⟨_, heval a b, Int.emod_nonneg _ (by omega),
    Int.emod_lt_of_pos _ hp, ?_, ?_, ?_⟩⟩
  · rintro rfl
    rw [FieldOp.wideArg, hwords]
  · rintro rfl
    rw [FieldOp.wideArg, hwords]
  · rintro rfl
    have hiff := wideArg_sub_emod_iff a b
    rwa [hwords, hhalf] at hiff

def difference : Declaration := ⟨⟨7, "minus"⟩, "felt252_sub", none⟩

/-- A field element type, the helper and a difference. -/
def differenceSession : Session :=
  (feltSession.serve (.operation .declareHelper)).serve (.operation (.declareLibfunc difference))

/-- The number `2 ^ 252` is read as the least signed one, so that one less wraps. -/
theorem differenceSession_wraps :
    ∃ f, differenceSession.compiler.func? difference.id.name = some f ∧
      differenceSession.compiler.module.eval maxDepth f [-3, 2] = .ok (-5 % Felt.prime) ∧
      ∃ r, differenceSession.compiler.module.eval maxDepth f [2 ^ 252, 1] = .ok r ∧
        r ≠ (-(2 ^ 252) - 1) % Felt.prime := by
  have hs : (feltSession.serve (.operation .declareHelper)).InUse :=
    ((Session.InUse.start _).serve _).serve _
  have hanswer : (feltSession.serve (.operation .declareHelper)).answer
      (.operation (.declareLibfunc difference)) = .ok () := by decide +kernel
  have hlowered : differenceSession.LoweredFieldOp .sub difference.id.name :=
    .declareLibfunc hs (.inr rfl) hanswer
  obtain ⟨f, hfunc, hall⟩ := fieldOps_on_every_integer hlowered
  refine ⟨f, hfunc, ?_, ?_⟩
  · obtain ⟨r, heval, -, -, -, -, hsub⟩ := hall (-3) 2
    rw [heval, (hsub rfl).mpr (by decide)]
    rfl
  · obtain ⟨r, heval, -, -, -, -, hsub⟩ := hall (2 ^ 252) 1
    refine ⟨r, heval, fun h => ?_⟩
    have hrange := (hsub rfl).mp h
    exact absurd hrange (by decide)

end Lowering
end FeltLowering
