import FeltLowering.Proofs.Lowering.FieldOps
import FeltLowering.Proofs.Lowering.WellFormed

/-
The type of the value that a lowered function returns.

A body is built into code whose value has a type of its own: that of the constant, of the
operands, of what the helper gives, or of what a reduction is cut to.  `Body.Builds` lists
the four kinds.  Constants and reductions are built against the declared result.  Sums of
integers and field operations are not, so they are lowered whatever the result is declared
as, and the function returns a value of the declared type only if the caller has asked for
that type (`Body.Fits`).  Libfuncs always do.
-/
namespace FeltLowering

namespace Ir

def Terminator.value? : Terminator → Option (Ty × Operand)
  | .ret value => value
  | _ => none

namespace Function

def returned (f : Function) : List (Ty × Operand) := f.blocks.filterMap fun b => b.term.value?

theorem returned_bare (f : Function) : f.bare.returned = f.returned := by
  show (f.blocks.map Block.bare).filterMap _ = _
  rw [List.filterMap_map]
  rfl

theorem operandType_bare (f : Function) (x : Operand) : f.bare.operandType x = f.operandType x := by
  cases x with
  | inst i =>
    have hty : Inst.resultType ∘ Inst.bare = Inst.resultType := funext Inst.resultType_bare
    simp only [operandType, insts_bare, List.getElem?_map, Option.map_map, hty]
  | _ => rfl

end Function
end Ir

namespace Lowering

open Ir

namespace Body

/-- What a body is built into, in a function of the given result and parameters. -/
inductive Builds : Body → Ty → List Ty → Code → Prop
  | const (w : Nat) (v : Int) : Builds (.const (some (w, v))) (.int w) [] ⟨[], .int w, .const w v⟩
  | intAdd (result ty : Ty) :
      Builds .intAdd result [ty, ty]
        ⟨[.binary "res" .add ty (.param 0) (.param 1)], ty, .inst 0⟩
  | field (result : Ty) (op : FieldOp) (hlp : Helper) :
      Builds (.field op (some hlp)) result [.int Felt.width, .int Felt.width] (Code.field op hlp)
  | reduce {wide target : Nat} (h : target < wide) :
      Builds .reduce (.int target) [.int wide] (Code.reduce wide target)

/-- The result is declared as the type that the body computes at. -/
def Fits (result : Ty) (params : List Ty) : Body → Prop
  | .intAdd => params = [result, result]
  | .field _ _ => result = .int Felt.width
  | _ => True

variable {body : Body} {result : Ty} {params : List Ty} {code : Code}

theorem builds_of_code (hlen : params.length = body.arity) (h : body.code result params = .ok code) :
    body.Builds result params code := by
  cases body with
  | invalid => cases h
  | unknown => cases h
  | const value =>
    obtain rfl := List.eq_nil_of_length_eq_zero hlen
    cases value with
    | none => cases h
    | some constant =>
      obtain ⟨w, v⟩ := constant
      simp only [Body.code] at h
      split at h
      · next hresult =>
        cases h
        subst hresult
        exact .const w v
      · cases h
  | intAdd =>
    obtain ⟨first, last, rfl⟩ := List.length_eq_two.mp hlen
    simp only [Body.code, List.head?_cons, Option.getD_some, List.getLast?_cons_cons,
      List.getLast?_singleton] at h
    split at h
    · next hsame =>
      cases h
      subst hsame
      exact .intAdd result first
    · cases h
  | field op helper =>
    cases helper with
    | none => cases h
    | some hlp =>
      obtain ⟨rfl, rfl⟩ := Compiler.params_of_code_field hlen h
      exact .field result op hlp
  | reduce =>
    obtain ⟨first, rfl⟩ := List.length_eq_one_iff.mp hlen
    simp only [Body.code, List.head?_cons, Option.getD_some] at h
    split at h
    · next target wide =>
      split at h
      · cases h
      · next hlt =>
        cases h
        exact .reduce (Nat.lt_of_not_le hlt)
    · cases h
    · cases h

namespace Builds

theorem type_eq_iff (h : body.Builds result params code) :
    code.type = result ↔ body.Fits result params := by
  cases h with
  | const w v => exact iff_of_true rfl trivial
  | intAdd result ty =>
    show ty = result ↔ [ty, ty] = [result, result]
    simp
  | field result op hlp =>
    have hty : (Code.field op hlp).type = .int Felt.width := by cases op <;> rfl
    rw [hty]
    exact eq_comm
  | reduce hlt => exact iff_of_true rfl trivial

theorem operandType_eq (h : body.Builds result params code) (name : Text) :
    (code.function name result params).operandType code.value = code.type := by
  cases h with
  | const w v => rfl
  | intAdd result ty => rfl
  | field result op hlp => cases op <;> rfl
  | reduce hlt => rfl

theorem insts_bare (h : body.Builds result params code) : code.insts.map Inst.bare = code.insts := by
  cases h with
  | const w v => rfl
  | intAdd result ty => rfl
  | field result op hlp => cases op <;> rfl
  | reduce hlt => rfl

/-- Only field operations make calls: one, of their helper, for an element. -/
theorem callee_of_mem (h : body.Builds result params code) {name : Text} {i : Inst}
    (hi : i ∈ (code.function name result params).calls) :
    ∃ op hlp, body = .field op (some hlp) ∧ Compiler.calleeOf i = some hlp.position ∧
      i.resultType = .int Felt.width := by
  cases h with
  | const w v => exact absurd hi List.not_mem_nil
  | intAdd result ty => exact absurd hi List.not_mem_nil
  | field result op hlp =>
    refine ⟨op, hlp, rfl, ?_⟩
    cases op with
    | _ =>
      rw [List.mem_singleton.mp hi]
      exact ⟨rfl, rfl⟩
  | reduce hlt => exact absurd hi List.not_mem_nil

end Builds
end Body

namespace Compiler

variable {c : Compiler} {name : Text} {result : Slot} {params : List Slot} {body : Body}
  {done : Lowered}

theorem builds_of_lower (hc : c.Tabled) (h : c.lower name result params body = .ok done) :
    ∃ f code, done.compiler.module.functions = c.module.functions ++ [f] ∧
      done.compiler.func? name = some f ∧
      body.Builds result.type.ty (params.map fun p => p.type.ty) code ∧
      f.bare = code.function name result.type.ty (params.map fun p => p.type.ty) := by
  obtain ⟨signature, code, hcheck, -, hcode, hdone⟩ := lower_eq_ok_iff.mp h
  obtain ⟨hlen, -⟩ := checkBody_eq_ok_iff.mp hcheck
  have hbuilds := Body.builds_of_code (by rw [List.length_map, hlen]) hcode
  obtain ⟨f, hfunc, hlast, hbare⟩ := func?_of_lower hcode h hc
  have happend : done.compiler.module.functions =
      c.module.functions ++ [c.described (buildFunction name result params code)] := by
    rw [hdone]
    exact install_functions _ _ _
  rw [happend, List.getElem?_concat_length] at hlast
  cases hlast
  rw [Code.function_bare hbuilds.insts_bare] at hbare
  exact ⟨_, code, happend, hfunc, hbuilds, hbare⟩

end Compiler

/-- A function built from a body, attachments aside, returns the value of its code at the
type of that value. -/
theorem Body.Builds.returned {body : Body} {result : Ty} {params : List Ty} {code : Code}
    (h : body.Builds result params code) {name : Text} {f : Function}
    (hf : f.bare = code.function name result params) :
    f.result = result ∧ f.params.map Param.ty = params ∧
      f.returned = [(f.operandType code.value, code.value)] ∧
      (f.operandType code.value = f.result ↔ body.Fits result params) := by
  have hresult : f.result = result := congrArg Function.result hf
  have hparams : f.params.map Param.ty = params := by
    rw [show f.params = f.bare.params from rfl, hf, Code.function_params]
  have htype : f.operandType code.value = code.type := by
    rw [← f.operandType_bare, hf, h.operandType_eq]
  refine ⟨hresult, hparams, ?_, ?_⟩
  · rw [← f.returned_bare, hf, htype]
    rfl
  · rw [htype, hresult, h.type_eq_iff]

/-- What a libfunc asks for has the type its body computes at. -/
theorem Compiler.Requests.fits {c : Compiler} (hc : c.registry.Sound) {d : Declaration}
    {libfunc : Libfunc} {result : Slot} {params : List Slot} {body : Body}
    (h : Requests c d libfunc result params body) :
    body.Fits result.type.ty (params.map fun p => p.type.ty) := by
  cases h with
  | const _ _ _ => exact trivial
  | binary hfelt _ => exact (hc.builtinTy hfelt).felt
  | wrappingAdd _ => exact rfl

/-- A call of the compiler's own helper has the type that the helper declares. -/
theorem Compiler.Coherent.callee_result {c : Compiler} (hc : c.Coherent) {body : Body} {result : Ty}
    {params : List Ty} {code : Code} (hb : body.Builds result params code)
    (huses : body.Uses c.helper) {name : Text} {f : Function}
    (hf : f.bare = code.function name result params) {i : Inst} (hi : i ∈ f.calls) :
    ∃ position g, calleeOf i = some position ∧ c.module.functions[position]? = some g ∧
      i.resultType = g.result := by
  have hbare := mem_calls_bare hi
  rw [hf] at hbare
  obtain ⟨op, hlp, rfl, hcallee, htype⟩ := hb.callee_of_mem hbare
  obtain ⟨g, hg, hreduction⟩ := hc.helper hlp huses
  have hresult : g.result = .int Felt.width := congrArg Function.result hreduction
  refine ⟨hlp.position, g, ?_, hg, ?_⟩
  · rw [← calleeOf_bare, hcallee]
  · rw [← i.resultType_bare, htype, hresult]

/-- A lowering that succeeds appends a function of the signature it is asked for, with one
return, of a value at the type of that value.  This is the declared type exactly if the body
fits it, and it is so for every libfunc.  The type of a call is that of its callee. -/
theorem returned_type_of_lowering {s : Session} (hs : s.InUse) :
    (∀ name result params body, s.answer (.lower name result params body) = .ok () →
      ∃ f value,
        (s.serve (.lower name result params body)).compiler.module.functions =
          s.compiler.module.functions ++ [f] ∧
        (s.serve (.lower name result params body)).compiler.func? name = some f ∧
        f.result = result.type.ty ∧ f.params.map Param.ty = params.map (fun p => p.type.ty) ∧
        f.returned = [(f.operandType value, value)] ∧
        (body.Uses s.compiler.helper → ∀ i ∈ f.calls, ∃ position g,
          Compiler.calleeOf i = some position ∧ s.compiler.module.functions[position]? = some g ∧
            i.resultType = g.result) ∧
        (f.operandType value = f.result ↔
          body.Fits result.type.ty (params.map fun p => p.type.ty))) ∧
    ∀ libfunc d, s.answer (.operation (.callLibfunc libfunc d)) = .ok () →
      ∃ f value, (s.serve (.operation (.callLibfunc libfunc d))).compiler.func? d.id.name = some f ∧
        f.returned = [(f.result, value)] ∧ f.operandType value = f.result := by
  have hc := hs.coherent
  constructor
  · intro name result params body h
    obtain ⟨done, hdone, hserve⟩ := Progress.lowered_of_perform (Call.atomic_lower _ _ _ _) h
    obtain ⟨f, code, happend, hfunc, hb, hbare⟩ := Compiler.builds_of_lower hc.tabled hdone
    obtain ⟨hresult, hparams, hreturned, hiff⟩ := hb.returned hbare
    have hcompiler : (s.serve (.lower name result params body)).compiler = done.compiler := hserve
    rw [hcompiler]
    exact ⟨f, code.value, happend, hfunc, hresult, hparams, hreturned,
      fun huses i hi => hc.callee_result hb huses hbare hi, hiff⟩
  · intro libfunc d h
    obtain ⟨done, hdone, hserve⟩ := Progress.lowered_of_perform (Call.atomic_libfunc _ _) h
    obtain ⟨-, result, params, body, hreq, hlower⟩ := Compiler.callLibfunc_eq_ok_iff.mp hdone
    obtain ⟨f, code, -, hfunc, hb, hbare⟩ := Compiler.builds_of_lower hc.tabled hlower
    obtain ⟨-, -, hreturned, hiff⟩ := hb.returned hbare
    have htype := hiff.mpr (hreq.fits hc.registry)
    have hcompiler : (s.serve (.operation (.callLibfunc libfunc d))).compiler = done.compiler :=
      hserve
    rw [hcompiler]
    exact ⟨f, code.value, hfunc, htype ▸ hreturned, htype⟩

/-- A sum of field elements, declared to be a byte. -/
def narrowSum : Request :=
  .lower "narrow" ⟨"1", ⟨.int 8, 0⟩⟩ [⟨"0", ⟨.int Felt.width, 1⟩⟩, ⟨"0", ⟨.int Felt.width, 1⟩⟩]
    (.field .add (some ⟨0⟩))

/-- A sum of bytes, declared to be a field element. -/
def wideSum : Request :=
  .lower "wide" ⟨"0", ⟨.int Felt.width, 1⟩⟩ [⟨"1", ⟨.int 8, 0⟩⟩, ⟨"1", ⟨.int 8, 0⟩⟩] .intAdd

def sameSum : Request :=
  .lower "bytes" ⟨"1", ⟨.int 8, 0⟩⟩ [⟨"1", ⟨.int 8, 0⟩⟩, ⟨"1", ⟨.int 8, 0⟩⟩] .intAdd

theorem byteSession_inUse : byteSession.InUse := (Session.InUse.start _).serveAll _

theorem sameSum_returns_byte :
    byteSession.InUse ∧ byteSession.answer sameSum = .ok () ∧
      ∃ f value, (byteSession.serve sameSum).compiler.func? "bytes" = some f ∧
        f.result = .int 8 ∧ f.returned = [(.int 8, value)] ∧ f.operandType value = .int 8 := by
  have hanswer : byteSession.answer sameSum = .ok () := by decide +kernel
  obtain ⟨f, value, -, hfunc, hresult, -, hreturned, -, hiff⟩ :=
    (returned_type_of_lowering byteSession_inUse).1 _ _ _ _ hanswer
  have htype : f.operandType value = .int 8 := (hiff.mpr rfl).trans hresult
  exact ⟨byteSession_inUse, hanswer, f, value, hfunc, hresult, htype ▸ hreturned, htype⟩

/-- With registered slots and the compiler's own helper, a function can declare a byte and
return a field element, or declare a field element and return a byte. -/
theorem sums_return_undeclared_types :
    byteSession.InUse ∧ byteSession.compiler.helper = some ⟨0⟩ ∧
      narrowSum.Registered byteSession.compiler.registry ∧
      wideSum.Registered byteSession.compiler.registry ∧
      byteSession.answer narrowSum = .ok () ∧ byteSession.answer wideSum = .ok () ∧
      ((byteSession.serve narrowSum).compiler.func? "narrow").map
        (fun f => (f.result, f.returned)) = some (.int 8, [(.int Felt.width, .inst 3)]) ∧
      ((byteSession.serve wideSum).compiler.func? "wide").map
        (fun f => (f.result, f.returned)) = some (.int Felt.width, [(.int 8, .inst 0)]) := by
  refine ⟨byteSession_inUse, by decide +kernel, ?_, ?_, by decide +kernel, by decide +kernel,
    by decide +kernel, by decide +kernel⟩
  · show ∀ s ∈ _, Registry.lookup? _ s.key = some s
    decide +kernel
  · show ∀ s ∈ _, Registry.lookup? _ s.key = some s
    decide +kernel

end Lowering
end FeltLowering
