import FeltLowering.Proofs.Lowering.Growth

/-
Compilers in use.

A caller has a compiler from the start or as the result of a lowered program, and makes any
calls on it.  Whatever a new compiler has and every call preserves, each of them has
(`Session.InUse.preserves`).  `Coherent` is what evaluating functions asks for: names and
types resolve as they should, and the helper of the compiler is the reduction.  A function
that is there once stays there, as does the helper (`Session.InUse.serveAll_func?`,
`Session.serveAll_helper`).
-/
namespace FeltLowering
namespace Lowering

open Ir

/-- The sessions there can be: over a new compiler or that of a lowered program, after any
calls. -/
inductive Session.InUse : Session → Prop
  | start (o : Options) : InUse (Session.start o)
  | program {env : Environment} {journal : Trace.Journal} {p : Program} {o : Options} {c : Compiler}
      (h : (lowerProgram env journal p o).2 = .ok c) (kept : Trace.Journal) (span : Nat) :
      InUse ⟨⟨c, kept⟩, span⟩
  | serve {s : Session} (h : InUse s) (request : Request) : InUse (s.serve request)

theorem Session.InUse.serveAll {s : Session} (h : s.InUse) (requests : List Request) :
    (s.serveAll requests).InUse := by
  induction requests generalizing s with
  | nil => exact h
  | cons request rest ih => exact ih (h.serve request)

/-- What a new compiler has and every move and every lowering preserve. -/
theorem Session.InUse.preserves {P : Compiler → Prop} (hnew : ∀ o, P (.new o))
    (hmove : ∀ {a b}, Compiler.Move a b → P a → P b)
    (hlower : ∀ {c : Compiler} {name result params body done},
      c.lower name result params body = .ok done → P c → P done.compiler)
    {s : Session} (h : s.InUse) : P s.compiler := by
  induction h with
  | start o => exact hnew o
  | @program env journal p o c h kept span =>
    exact (Compiler.lowerDecls_reaches (lowerDecls_of_lowerProgram h)).induction hmove (hnew o)
  | serve _ request ih =>
    refine serve_preserves hmove ?_ ih
    rintro name result params body done - hdone
    exact hlower hdone ih

namespace Compiler

/-! ## What stays -/

variable {c c' : Compiler}

theorem Grows.getElem? (h : c.Grows c') {i : Nat} {f : Function}
    (hf : c.module.functions[i]? = some f) : c'.module.functions[i]? = some f := by
  obtain ⟨more, hmore⟩ := h.functions
  obtain ⟨hlt, -⟩ := List.getElem?_eq_some_iff.mp hf
  rw [← hmore, List.getElem?_append_left hlt, hf]

theorem Grows.func? (h : c.Grows c') (hc : c.Tabled) (hc' : c'.Tabled) {name : Text} {f : Function}
    (hf : c.func? name = some f) : c'.func? name = some f := by
  rw [hc.func?_eq] at hf
  rw [hc'.func?_eq]
  exact h.functions.find?_eq_some hf

/-- A helper is never replaced. -/
theorem Move.helper_eq (h : Move c c') {hlp : Helper} (hc : c.helper = some hlp) :
    c'.helper = some hlp := by
  cases h with
  | line line => exact hc
  | type h => exact (declareType_helper h).trans hc
  | wide h => exact (describeType_helper _ _ _ _).trans hc
  | function _ _ h => exact (lower_frame h).2.trans hc
  | helper hnone _ _ _ =>
    rw [hnone] at hc
    cases hc

/-! ## What the functions need -/

/-- The reduction stands at the position of a helper. -/
def Reduces (c : Compiler) (hlp : Helper) : Prop :=
  ∃ f, c.module.functions[hlp.position]? = some f ∧ f.bare = reduction

theorem Reduces.mono {hlp : Helper} (h : c.Reduces hlp) (hg : c.Grows c') : c'.Reduces hlp := by
  obtain ⟨f, hf, hbare⟩ := h
  exact ⟨f, hg.getElem? hf, hbare⟩

theorem Reduces.getElem?_bare {hlp : Helper} (h : c.Reduces hlp) :
    c.module.bare.functions[hlp.position]? = some reduction := by
  obtain ⟨f, hf, hbare⟩ := h
  show (c.module.functions.map Function.bare)[hlp.position]? = _
  rw [List.getElem?_map, hf, Option.map_some, hbare]

structure Coherent (c : Compiler) : Prop where
  registry : c.registry.Sound
  tabled : c.Tabled
  paired : c.Paired
  helper : ∀ hlp, c.helper = some hlp → c.Reduces hlp

theorem lower_coherent {name : Text} {result : Slot} {params : List Slot} {body : Body}
    {done : Lowered} (h : c.lower name result params body = .ok done) (hc : c.Coherent) :
    done.compiler.Coherent where
  registry := by
    rw [(lower_frame h).1]
    exact hc.registry
  tabled := lower_tabled h hc.tabled
  paired := by
    obtain ⟨signature, code, -, -, -, rfl⟩ := lower_eq_ok_iff.mp h
    exact hc.paired.install _ _
  helper := by
    intro hlp hhelper
    rw [(lower_frame h).2] at hhelper
    exact (hc.helper hlp hhelper).mono (lower_grows h)

theorem func?_of_lower {name : Text} {result : Slot} {params : List Slot} {body : Body}
    {code : Code} {done : Lowered}
    (hcode : body.code result.type.ty (params.map fun p => p.type.ty) = .ok code)
    (h : c.lower name result params body = .ok done) (hc : c.Tabled) :
    ∃ f, done.compiler.func? name = some f ∧
      done.compiler.module.functions[c.module.functions.length]? = some f ∧
      f.bare = (code.function name result.type.ty (params.map fun p => p.type.ty)).bare := by
  have htabled := lower_tabled h hc
  obtain ⟨signature, code', -, -, hcode', rfl⟩ := lower_eq_ok_iff.mp h
  obtain rfl : code = code' := Except.ok.inj (hcode.symm.trans hcode')
  let f := c.described (buildFunction name result params code)
  have hname : f.name = name := described_name c _
  have hfunctions : (c.install (buildFunction name result params code) signature).module.functions =
      c.module.functions ++ [f] := install_functions _ _ _
  refine ⟨f, ?_, ?_, ?_⟩
  · rw [htabled.func?_eq]
    have hfound := find?_key_of_mem htabled.names (a := f) (by rw [hfunctions]; simp)
    rwa [hname] at hfound
  · rw [hfunctions, List.getElem?_concat_length]
  · rw [← buildFunction_eq]
    exact described_bare c _

/-- The helper is lowered from a felt and a wide type, so it is the reduction. -/
theorem reduces_of_lower {felt wide : Slot} {done : Lowered} (hc : c.Coherent)
    (hfelt : c.registry.lookupName? "felt" = some felt)
    (hwide : c.registry.lookup? wideKey = some wide)
    (h : c.lower helperName felt [wide] .reduce = .ok done) :
    done.compiler.Reduces ⟨c.module.functions.length⟩ := by
  have hfeltTy := (hc.registry.builtinTy hfelt).felt
  have hwideTy := hc.registry.wide wide hwide
  have hcode : Body.reduce.code felt.type.ty ([wide].map fun s => s.type.ty) =
      .ok (Code.reduce Felt.wideWidth Felt.width) := by
    rw [List.map_singleton, hfeltTy, hwideTy]
    rfl
  obtain ⟨f, -, hf, hbare⟩ := func?_of_lower hcode h hc.tabled
  refine ⟨f, hf, ?_⟩
  rw [hbare, List.map_singleton, hfeltTy, hwideTy]
  exact reduction_bare

theorem Move.coherent (h : Move c c') (hc : c.Coherent) : c'.Coherent where
  registry := h.registry_sound hc.registry
  tabled := h.tabled hc.tabled
  paired := h.paired hc.paired
  helper := by
    intro hlp hhelper
    have hgrows := h.grows
    cases h with
    | line line => exact (hc.helper hlp hhelper).mono hgrows
    | type h =>
      rw [declareType_helper h] at hhelper
      exact (hc.helper hlp hhelper).mono hgrows
    | wide h =>
      rw [insertType, describeType_helper] at hhelper
      exact (hc.helper hlp hhelper).mono hgrows
    | function _ _ h => exact (lower_coherent h hc).helper hlp hhelper
    | helper _ hfelt hwide h =>
      cases hhelper
      exact reduces_of_lower hc hfelt hwide h

theorem new_helper (o : Options) : (new o).helper = none := by
  unfold new
  split <;> rfl

theorem new_coherent (o : Options) : (new o).Coherent where
  registry := new_registry_sound o
  tabled := new_tabled o
  paired := new_paired o
  helper := by
    intro hlp hhelper
    rw [new_helper] at hhelper
    cases hhelper

end Compiler

namespace Session

variable {s : Session}

theorem InUse.coherent (h : s.InUse) : s.compiler.Coherent :=
  h.preserves Compiler.new_coherent (fun hmove => hmove.coherent)
    fun hdone => Compiler.lower_coherent hdone

theorem InUse.serveAll_func? (h : s.InUse) (requests : List Request) {name : Text} {f : Function}
    (hf : s.compiler.func? name = some f) : (s.serveAll requests).compiler.func? name = some f :=
  (s.serveAll_grows requests).func? h.coherent.tabled (h.serveAll requests).coherent.tabled hf

theorem serveAll_helper {hlp : Helper} (requests : List Request)
    (h : s.compiler.helper = some hlp) : (s.serveAll requests).compiler.helper = some hlp :=
  serveAll_preserves (fun hmove hc => hmove.helper_eq hc)
    (fun hdone hc => (Compiler.lower_frame hdone).2.trans hc) requests h

end Session
end Lowering
end FeltLowering
