import FeltLowering.Proofs.Ir.Printer
import FeltLowering.Proofs.Lowering.Order

/-
The written form of a lowered module, without debug info.

A lowered module is well-formed integer code and nothing else, and its heading is that of
the options.  What is written can therefore be read back: two modules that were lowered
under the same options have the same text only if they have the same functions.
-/
namespace FeltLowering
namespace Lowering

open Ir

section Lowered

variable {env : Environment} {journal : Trace.Journal} {p : Program} {o : Options} {c : Compiler}

theorem integers_of_lowersTo {d : Declaration} {f : Function} (h : d.LowersTo f) :
    ∀ ty ∈ f.result :: f.params.map Param.ty, ∃ w, ty = .int w := by
  intro ty hty
  cases h with
  | const h =>
    rw [List.mem_singleton.mp hty]
    exact ⟨_, rfl⟩
  | field h =>
    have hcases : ty ∈ List.replicate 3 (Ty.int Felt.width) := hty
    exact ⟨_, List.eq_of_mem_replicate hcases⟩
  | @wrappingAdd w h =>
    have hcases : ty ∈ List.replicate 3 (Ty.int w) := hty
    exact ⟨_, List.eq_of_mem_replicate hcases⟩

theorem integers_of_reduction :
    ∀ ty ∈ reduction.result :: reduction.params.map Param.ty, ∃ w, ty = .int w := by
  intro ty hty
  have hcases : ty ∈ [Ty.int Felt.width, Ty.int Felt.wideWidth] := hty
  rcases List.mem_pair.mp hcases with rfl | rfl
  · exact ⟨_, rfl⟩
  · exact ⟨_, rfl⟩

/-- A lowered module is code and nothing else. -/
theorem module_isCode (hoff : o.debugInfo = false) (h : (lowerProgram env journal p o).2 = .ok c) :
    c.module.IsCode := by
  have hlower := lowerDecls_of_lowerProgram h
  have hreach := Compiler.lowerDecls_reaches hlower
  have hlisted := hreach.tabled.listed_eq
  have hnone : c.debug = none := Compiler.debug_eq_none_iff.mpr (hreach.debugInfo_eq.trans hoff)
  have hbare : ∀ f ∈ c.module.functions, f.bare = f := by
    intro f hf
    exact ((hreach.mirror.off hnone).2 f hf).bare_eq
  refine ⟨module_wellFormed hlower, fun f hf => ?_, hbare, hlisted, (hreach.mirror.off hnone).1, ?_⟩
  · obtain ⟨n, hn⟩ := List.mem_iff_getElem?.mp hf
    rw [← hbare f hf]
    rcases function_cases hlower hn with hred | ⟨d, -, hlow, -⟩
    · rw [hred]
      exact integers_of_reduction
    · exact integers_of_lowersTo hlow
  · have hheading := hreach.heading_eq hoff
    exact congrArg (fun heading => heading.2.2) hheading

theorem module_header (hoff : o.debugInfo = false) (h : (lowerProgram env journal p o).2 = .ok c) :
    c.module.header = Module.headerLine "source_filename" o.sourceFile ++
      Module.headerLine "target triple" o.targetTriple := by
  have hheading := (Compiler.lowerDecls_reaches (lowerDecls_of_lowerProgram h)).heading_eq hoff
  obtain ⟨hsource, hrest⟩ := Prod.mk.inj hheading
  obtain ⟨htarget, -⟩ := Prod.mk.inj hrest
  unfold Module.header
  rw [hsource, htarget]

/-- Everything else in the module is given by the options. -/
theorem module_eq_of_functions {env' : Environment} {journal' : Trace.Journal} {p' : Program}
    {c' : Compiler} (hoff : o.debugInfo = false) (h : (lowerProgram env journal p o).2 = .ok c)
    (h' : (lowerProgram env' journal' p' o).2 = .ok c')
    (hfuncs : c.module.functions = c'.module.functions) : c.module = c'.module := by
  obtain ⟨fn, hfn⟩ := Declaration.exists_functionOf
  have hm := module_eq_outline hfn hoff h
  have hm' := module_eq_outline hfn hoff h'
  rw [hm, hm'] at hfuncs ⊢
  unfold Program.outline at hfuncs ⊢
  dsimp only at hfuncs
  rw [hfuncs]

theorem emit_eq_text (hoff : o.debugInfo = false) (h : (lowerProgram env journal p o).2 = .ok c) :
    c.emit = .ok c.module.text := by
  have hreach := Compiler.lowerDecls_reaches (lowerDecls_of_lowerProgram h)
  obtain ⟨text, htext⟩ :=
    hreach.emit_ok_iff.mpr fun hon => absurd (hoff.symm.trans hon) Bool.false_ne_true
  rw [htext, (Compiler.emit_eq_ok_iff.mp htext).2]

end Lowered

/-- Every lowered module can be written, and two of them have the same text exactly if they
list the same functions: names, signatures, instructions and constants. -/
theorem emitted_text_determines_functions {env env' : Environment} {journal journal' : Trace.Journal}
    {p p' : Program} {o : Options} {c c' : Compiler} (hoff : o.debugInfo = false)
    (h : (lowerProgram env journal p o).2 = .ok c)
    (h' : (lowerProgram env' journal' p' o).2 = .ok c') :
    ∃ text text', c.emit = .ok text ∧ c'.emit = .ok text' ∧
      (text = text' ↔ c.module.listed = c'.module.listed) := by
  have hcode := module_isCode hoff h
  have hcode' := module_isCode hoff h'
  have hheader : c.module.header = c'.module.header :=
    (module_header hoff h).trans (module_header hoff h').symm
  refine ⟨_, _, emit_eq_text hoff h, emit_eq_text hoff h', ?_⟩
  rw [hcode.listed, hcode'.listed]
  constructor
  · exact Module.functions_eq_of_text hcode hcode' hheader
  · intro hfuncs
    rw [module_eq_of_functions hoff h h' hfuncs]

/-- A single sum of bytes under a given name. -/
def byteSum (name : Text) : Program where
  types := some [⟨⟨0, []⟩, "u8", none⟩]
  libfuncs := some [⟨⟨0, name⟩, "u8_wrapping_add", none⟩]

/-- A quote is written like the escape that another name spells out, up to its backslash. -/
theorem quote_and_escape_written_apart :
    ∃ c c' text text', (lowerProgram {} {} (byteSum "a\"b") {}).2 = .ok c ∧
      (lowerProgram {} {} (byteSum "a\\22b") {}).2 = .ok c' ∧
      c.emit = .ok text ∧ c'.emit = .ok text' ∧ text ≠ text' := by
  have hnames : ∀ name ∈ [Text.ofString "a\"b", Text.ofString "a\\22b"],
      (lowerProgram {} {} (byteSum name) {}).2.toOption.map
        (fun c => c.module.listed.map Function.name) = some [name] := by decide +kernel
  have hname := hnames "a\"b" (by decide)
  have hname' := hnames "a\\22b" (by decide)
  cases hc : (lowerProgram {} {} (byteSum "a\"b") {}).2 with
  | error e =>
    rw [hc] at hname
    cases hname
  | ok c =>
    cases hc' : (lowerProgram {} {} (byteSum "a\\22b") {}).2 with
    | error e =>
      rw [hc'] at hname'
      cases hname'
    | ok c' =>
      obtain ⟨text, text', htext, htext', hiff⟩ := emitted_text_determines_functions rfl hc hc'
      refine ⟨c, c', text, text', rfl, rfl, htext, htext', fun heq => ?_⟩
      rw [hc] at hname
      rw [hc'] at hname'
      have hlisted : c.module.listed.map Function.name = [Text.ofString "a\"b"] := Option.some.inj hname
      have hlisted' : c'.module.listed.map Function.name = [Text.ofString "a\\22b"] :=
        Option.some.inj hname'
      rw [hiff.mp heq, hlisted'] at hlisted
      exact absurd hlisted (by decide)

end Lowering
end FeltLowering
