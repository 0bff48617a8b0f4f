import FeltLowering.Proofs.Lowering.Shadow
import FeltLowering.Proofs.Lowering.Typing

/-
Every function of a compiler can be evaluated.

A compiler that is handed only slots of its own registry, and no helper but its own, holds
functions of four kinds (`Compiler.Made`).  Each is one block of supported instructions over
integers.  Only a reduction divides, always by the modulus cut to the width of its argument.
The modulus is odd, so it is not cut to zero at any width there is (`wrap_prime_ne_zero`).
Only field operations make calls, and what they call makes none, so two activations are
enough.
-/
namespace FeltLowering
namespace Lowering

open Ir

/-! ## Reductions between any widths -/

/-- The modulus is odd. -/
theorem wrap_prime_ne_zero {w : Nat} (hw : 0 < w) : wrap w Felt.prime ≠ 0 := by
  obtain ⟨k, rfl⟩ : ∃ k, w = k + 1 := ⟨w - 1, by omega⟩
  intro hzero
  have hdvd : ((twoPow (k + 1) : Nat) : Int) ∣ Felt.prime := Int.dvd_of_emod_eq_zero hzero
  have heven : 2 ∣ Felt.prime :=
    Nat.dvd_trans ⟨twoPow k, twoPow_succ k⟩ (Int.natCast_dvd_natCast.mp hdvd)
  exact absurd heven (by decide)

/-- What a reduction gives on an integer, at a width that need not hold the modulus. -/
def reduceValue (wide target : Nat) (x : Int) : Int :=
  let p := (Felt.prime : Int).bmod (twoPow wide)
  let r := (x.bmod (twoPow wide)).tmod p
  wrap target (wrap wide (((r + Felt.prime).bmod (twoPow wide)).tmod p))

theorem eval_reduce_of_lt {m : Module} {f : Function} {wide target : Nat}
    (h : Runs f [.int wide] (Code.reduce wide target)) (hlt : target < wide) (depth : Nat) (x : Int) :
    m.eval (depth + 1) f [x] = .ok (reduceValue wide target x) := by
  have hw : 0 < wide := by omega
  have hp := wrap_prime_ne_zero hw
  have h' : Runs f ([wide].map .int) (Code.reduce wide target) := h
  let p := (Felt.prime : Int).bmod (twoPow wide)
  let r := (x.bmod (twoPow wide)).tmod p
  let v := ((r + Felt.prime).bmod (twoPow wide)).tmod p
  refine h'.eval_eq ⟨[wrap wide x], [wrap wide r, wrap wide (r + Felt.prime), wrap wide v,
    reduceValue wide target x]⟩ rfl ?_ rfl
  show f.runInsts _ ⟨[wrap wide x], []⟩ _ = _
  simp only [Code.reduce]
  rw [Function.runInsts_cons (v := wrap wide r), Function.runInsts_cons
    (v := wrap wide (r + Felt.prime)), Function.runInsts_cons (v := wrap wide v),
    Function.runInsts_cons (v := reduceValue wide target x)]
  · rfl
  · exact Function.instValue_trunc rfl
  · exact Function.instValue_binary rfl rfl (Function.binaryValue_srem hw hp)
  · exact (Function.instValue_binary rfl rfl rfl).trans (congrArg Except.ok (wrap_add_wrap _ _ _))
  · exact Function.instValue_binary rfl rfl (Function.binaryValue_srem hw hp)

/-! ## What functions are made from -/

/-- A body that may name a helper may still name it once it is the helper of a compiler. -/
theorem Body.Uses.mono {body : Body} {helper helper' : Option Helper} (h : body.Uses helper)
    (hkeep : ∀ hlp, helper = some hlp → helper' = some hlp) : body.Uses helper' := by
  cases body with
  | field op named =>
    cases named with
    | none => exact trivial
    | some hlp => exact hkeep hlp h
  | _ => exact trivial

namespace Compiler

/-- A function of integers, built from a body that calls no helper but the given one. -/
def Made (helper : Option Helper) (f : Function) : Prop :=
  ∃ body result params code, Body.Uses helper body ∧ (∀ ty ∈ params, ∃ w, ty = .int w) ∧
    body.Builds result params code ∧ Runs f.bare params code

variable {c c' : Compiler} {f : Function}

theorem Made.mono {helper helper' : Option Helper} (h : Made helper f)
    (hkeep : ∀ hlp, helper = some hlp → helper' = some hlp) : Made helper' f := by
  obtain ⟨body, result, params, code, huses, hrest⟩ := h
  exact ⟨body, result, params, code, huses.mono hkeep, hrest⟩

theorem declareType_functions {d : Declaration} (h : c.declareType d = .ok c') :
    c'.module.functions = c.module.functions := by
  rcases (declareType_eq_ok_iff.mp h).2 with ⟨-, rfl⟩ | ⟨w, -, rfl⟩ | ⟨inner, slot, -, -, rfl⟩
  · exact describeType_functions _ _ _ _
  · exact describeType_functions _ _ _ _
  · exact describeType_functions _ _ _ _

theorem made_of_lower {name : Text} {result : Slot} {params : List Slot} {body : Body}
    {done : Lowered} (hc : c.Tabled) (hexact : c.Exact)
    (hslots : ∀ s ∈ result :: params, c.registry.Holds s) (huses : body.Uses c.helper)
    (h : c.lower name result params body = .ok done) :
    ∃ f, done.compiler.module.functions = c.module.functions ++ [f] ∧ Made c.helper f := by
  obtain ⟨f, code, happend, -, hbuilds, hbare⟩ := builds_of_lower hc h
  refine ⟨f, happend, body, _, _, code, huses, ?_, hbuilds, ?_⟩
  · intro ty hty
    obtain ⟨s, hs, rfl⟩ := List.mem_map.mp hty
    have hheld := hslots s (List.mem_cons_of_mem _ hs)
    exact hexact.types s (Registry.mem_of_lookup? hheld).1
  · rw [hbare]
    exact Code.runs_function _ _ _ _

/-- Every function of a compiler is made of a body that calls no helper but its own. -/
def AllMade (c : Compiler) : Prop := ∀ f ∈ c.module.functions, Made c.helper f

theorem AllMade.append (h : c.AllMade) (hkeep : ∀ hlp, c.helper = some hlp → c'.helper = some hlp)
    (happend : c'.module.functions = c.module.functions ++ [f]) (hf : Made c.helper f) :
    c'.AllMade := by
  intro g hg
  rw [happend] at hg
  rcases List.mem_append.mp hg with hold | hnew
  · exact (h g hold).mono hkeep
  · rw [List.mem_singleton.mp hnew]
    exact hf.mono hkeep

theorem AllMade.congr (h : c.AllMade) (hhelper : c'.helper = c.helper)
    (hfunctions : c'.module.functions = c.module.functions) : c'.AllMade := by
  intro g hg
  rw [hfunctions] at hg
  rw [hhelper]
  exact h g hg

theorem Move.allMade {o : Options} (h : Move c c') (hc : c.Kept o) (hall : c.AllMade) :
    c'.AllMade := by
  have hkeep : ∀ hlp, c.helper = some hlp → c'.helper = some hlp := fun _ => h.helper_eq
  cases h with
  | line line => exact hall.congr rfl rfl
  | type h => exact hall.congr (declareType_helper h) (declareType_functions h)
  | wide h => exact hall.congr (describeType_helper _ _ _ _) (describeType_functions _ _ _ _)
  | function hslots huses h =>
    obtain ⟨f, happend, hf⟩ := made_of_lower hc.tabled hc.exact hslots huses h
    exact hall.append hkeep happend hf
  | helper _ hfelt hwide h =>
    have hslots := Registry.holds_felt_wide hfelt hwide
    have huses : Body.reduce.Uses c.helper := trivial
    obtain ⟨f, happend, hf⟩ := made_of_lower hc.tabled hc.exact hslots huses h
    exact hall.append hkeep happend hf

theorem new_allMade (o : Options) : (new o).AllMade := by
  unfold new
  cases o.debugInfo with
  | true => exact nofun
  | false => exact nofun

theorem Reaches.allMade {o : Options} (h : Reaches (new o) c) : c.AllMade := by
  have hboth : c.Kept o ∧ c.AllMade :=
    h.induction (P := fun c => c.Kept o ∧ c.AllMade) (fun hmove hc => ⟨hmove.kept hc.1, hmove.allMade hc.1 hc.2⟩)
      ⟨new_kept o, new_allMade o⟩
  exact hboth.2

/-- What is made of a body gives a value on as many integers as it has parameters, with no
more than one call inside another. -/
theorem Made.eval_ok (h : Made c.helper f) (hc : c.Coherent) {args : List Int}
    (hlen : args.length = f.params.length) :
    ∃ v, ∀ depth, c.module.eval (depth + 2) f args = .ok v := by
  obtain ⟨body, result, params, code, huses, hint, hbuilds, hruns⟩ := h
  have hargs : args.length = params.length := by
    rw [hlen, ← hruns.params_ty, List.length_map]
    rfl
  simp only [← Module.eval_bare c.module]
  cases hbuilds with
  | const w v =>
    obtain rfl := List.eq_nil_of_length_eq_zero hargs
    exact ⟨_, fun depth => eval_const hruns (depth + 1)⟩
  | intAdd result ty =>
    obtain ⟨a, b, rfl⟩ := List.length_eq_two.mp hargs
    obtain ⟨w, rfl⟩ := hint ty List.mem_cons_self
    exact ⟨_, fun depth => eval_intAdd hruns (depth + 1) a b⟩
  | field result op hlp =>
    obtain ⟨a, b, rfl⟩ := List.length_eq_two.mp hargs
    have hstands := (hc.helper hlp huses).getElem?_bare
    exact ⟨_, fun depth => eval_field hruns hstands (Code.runs_function _ _ _ _) depth a b⟩
  | reduce hlt =>
    obtain ⟨x, rfl⟩ := List.length_eq_one_iff.mp hargs
    exact ⟨_, fun depth => eval_reduce_of_lt hruns hlt (depth + 1) x⟩

end Compiler

/-! ## Sessions -/

/-- A lowering is handed slots of the registry, and no helper but that of the compiler. -/
def Request.Own (c : Compiler) : Request → Prop
  | .operation _ => True
  | .lower _ result params body =>
    (∀ s ∈ result :: params, c.registry.Holds s) ∧ body.Uses c.helper

namespace Session

/-- The sessions in which a compiler is handed nothing of another one. -/
inductive OwnUse : Session → Prop
  | start (o : Options) : OwnUse (Session.start o)
  | program {env : Environment} {journal : Trace.Journal} {p : Program} {o : Options} {c : Compiler}
      (h : (lowerProgram env journal p o).2 = .ok c) (kept : Trace.Journal) (span : Nat) :
      OwnUse ⟨⟨c, kept⟩, span⟩
  | serve {s : Session} (h : OwnUse s) {request : Request} (hown : request.Own s.compiler) :
      OwnUse (s.serve request)

variable {s : Session}

theorem OwnUse.operation (h : s.OwnUse) (op : Operation) : (s.serve (.operation op)).OwnUse :=
  h.serve (show Request.Own _ (.operation op) from trivial)

theorem OwnUse.inUse (h : s.OwnUse) : s.InUse := by
  induction h with
  | start o => exact .start o
  | program h kept span => exact .program h kept span
  | serve _ _ ih => exact ih.serve _

theorem serve_reaches {request : Request} (hown : request.Own s.compiler) :
    Compiler.Reaches s.compiler (s.serve request).compiler := by
  cases request with
  | operation op => exact s.step_reaches op
  | lower name result params body =>
    obtain ⟨hslots, huses⟩ := hown
    exact s.progress.perform_reaches s.span (Call.atomic_lower _ _ _ _) fun done hdone =>
      .function hslots huses hdone

theorem OwnUse.reaches (h : s.OwnUse) : ∃ o, Compiler.Reaches (.new o) s.compiler := by
  induction h with
  | start o => exact ⟨o, .refl⟩
  | @program env journal p o c h kept span =>
    exact ⟨o, Compiler.lowerDecls_reaches (lowerDecls_of_lowerProgram h)⟩
  | serve _ hown ih =>
    obtain ⟨o, hreach⟩ := ih
    exact ⟨o, hreach.trans (serve_reaches hown)⟩

end Session

/-- Whatever a compiler has lowered from slots and a helper of its own, each of its functions
gives a value on every choice of as many integers as it has parameters.  Two activations are
enough, and more do not change the value. -/
theorem lowered_functions_evaluate {s : Session} (hs : s.OwnUse) {f : Function}
    (hf : f ∈ s.compiler.module.functions) (args : List Int)
    (hlen : args.length = f.params.length) :
    ∃ v, s.compiler.module.eval maxDepth f args = .ok v ∧
      ∀ depth, 2 ≤ depth → s.compiler.module.eval depth f args = .ok v := by
  obtain ⟨o, hreach⟩ := hs.reaches
  obtain ⟨v, heval⟩ := (hreach.allMade f hf).eval_ok hs.inUse.coherent hlen
  refine ⟨v, heval 62, fun depth hdepth => ?_⟩
  obtain ⟨k, rfl⟩ : ∃ k, depth = k + 2 := ⟨depth - 2, by omega⟩
  exact heval k

/-- A reduction of a word of 16 bits to a byte, neither of which holds the modulus. -/
def narrowCut : Request :=
  .lower "cut" ⟨"1", ⟨.int 8, 0⟩⟩ [⟨"2", ⟨.int 16, 0⟩⟩] .reduce

def shortSession : Session :=
  byteSession.serve (.operation (.declareType ⟨⟨2, "short"⟩, "u16", none⟩))

/-- The modulus is cut to 1 at 16 bits, and division by it has a result on every integer.  The
sum of field elements that is declared as a byte has one too. -/
theorem narrowCut_evaluates :
    narrowCut.Own shortSession.compiler ∧ shortSession.answer narrowCut = .ok () ∧
      narrowSum.Own (shortSession.serve narrowCut).compiler ∧
      let c := ((shortSession.serve narrowCut).serve narrowSum).compiler
      ∃ cut sum, c.func? "cut" = some cut ∧ c.func? "narrow" = some sum ∧
        (∀ x : Int, ∃ v, c.module.eval maxDepth cut [x] = .ok v) ∧
        ∀ a b : Int, ∃ v, c.module.eval maxDepth sum [a, b] = .ok v := by
  have hcut : narrowCut.Own shortSession.compiler := by
    refine ⟨?_, trivial⟩
    show ∀ s ∈ _, Registry.lookup? _ s.key = some s
    decide +kernel
  have hsum : narrowSum.Own (shortSession.serve narrowCut).compiler := by
    refine ⟨?_, ?_⟩
    · show ∀ s ∈ _, Registry.lookup? _ s.key = some s
      decide +kernel
    · show (shortSession.serve narrowCut).compiler.helper = some ⟨0⟩
      decide +kernel
  have hbytes : byteSession.OwnUse := by
    simp only [byteSession, Session.serveAll, List.foldl_cons, List.foldl_nil]
    exact (((Session.OwnUse.start _).operation _).operation _).operation _
  have hs : ((shortSession.serve narrowCut).serve narrowSum).OwnUse :=
    ((hbytes.operation _).serve hcut).serve hsum
  refine ⟨hcut, by decide +kernel, hsum, ?_⟩
  intro c
  have htabled : c.Tabled := hs.inUse.coherent.tabled
  have hfound : ∀ name arity,
      (c.func? name).map (fun f => f.params.length) = some arity →
        ∃ f, c.func? name = some f ∧ f ∈ c.module.functions ∧ f.params.length = arity := by
    intro name arity h
    obtain ⟨f, hf, harity⟩ := Option.map_eq_some_iff.mp h
    refine ⟨f, hf, ?_, harity⟩
    rw [htabled.func?_eq] at hf
    exact List.mem_of_find?_eq_some hf
  obtain ⟨cut, hcutFunc, hcutMem, hcutLen⟩ := hfound "cut" 1 (by decide +kernel)
  obtain ⟨sum, hsumFunc, hsumMem, hsumLen⟩ := hfound "narrow" 2 (by decide +kernel)
  refine ⟨cut, sum, hcutFunc, hsumFunc, fun x => ?_, fun a b => ?_⟩
  · obtain ⟨v, heval, -⟩ := lowered_functions_evaluate hs hcutMem [x] hcutLen.symm
    exact ⟨v, heval⟩
  · obtain ⟨v, heval, -⟩ := lowered_functions_evaluate hs hsumMem [a, b] hsumLen.symm
    exact ⟨v, heval⟩

end Lowering
end FeltLowering
