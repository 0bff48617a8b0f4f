import FeltLowering.Lowering.Verify
import FeltLowering.Proofs.Ir.Name
import FeltLowering.Proofs.Ir.WellFormed
import FeltLowering.Proofs.Lowering.Arithmetic
import Mathlib.Data.List.Nodup

/-
Lowered modules are well formed.

Each kind of function is checked once, without attachments and with the helper at the
front of the module.  Only field operations make calls, all of them to the helper, which
makes none.
-/
namespace FeltLowering
namespace Lowering

open Ir

/-! ## The functions there are -/

section Functions

variable {m : Module} {n : Nat}

/-- The modulus fits both widths it is used at, signed as well. -/
theorem prime_fits : (0 : Int) ≤ Felt.prime ∧ (Felt.prime : Int) < twoPow (Felt.wideWidth - 1) := by
  have hpos := Felt.prime_pos
  have hle := Felt.two_prime_le
  omega

theorem reduction_wellFormed (m : Module) (n : Nat) : reduction.WellFormed m n where
  block := ⟨_, _, rfl, by decide, rfl⟩
  insts :=
    ⟨⟨⟨_, rfl⟩, rfl, rfl, prime_fits⟩, ⟨⟨_, rfl⟩, ⟨by decide, rfl⟩, rfl, prime_fits⟩,
      ⟨⟨_, rfl⟩, ⟨by decide, rfl⟩, rfl, prime_fits⟩,
      ⟨⟨by decide, rfl⟩, _, _, rfl, rfl, (by decide : Felt.width < Felt.wideWidth)⟩, trivial⟩
  locals := by decide

theorem const_wellFormed (m : Module) (n : Nat) (name : Text) (v : Int) :
    (Code.function ⟨[], .int Felt.width, .const Felt.width (v % Felt.prime)⟩ name (.int Felt.width)
      []).WellFormed m n where
  block := by
    have hp : (0 : Int) < Felt.prime := by exact_mod_cast Felt.prime_pos
    have hlt : (Felt.prime : Int) < twoPow (Felt.width - 1) := by
      exact_mod_cast Felt.prime_lt_twoPow
    exact ⟨_, _, rfl, rfl, Int.emod_nonneg v (Int.ne_of_gt hp),
      Int.lt_trans (Int.emod_lt_of_pos v hp) hlt⟩
  insts := trivial
  locals := by
    show ([Text.ofString "entry"] : List Text).Nodup
    decide

theorem wrappingAdd_wellFormed (m : Module) (n : Nat) (name : Text) (w : Nat) :
    (Code.function ⟨[.binary "res" .add (.int w) (.param 0) (.param 1)], .int w, .inst 0⟩ name
      (.int w) [.int w, .int w]).WellFormed m n where
  block := ⟨_, _, rfl, Nat.one_pos, rfl⟩
  insts := ⟨⟨⟨w, rfl⟩, rfl, rfl⟩, trivial⟩
  locals := by
    show (["p" ++ Text.ofNat 0, "p" ++ Text.ofNat 1, Text.ofString "entry", Text.ofString "res"] :
      List Text).Nodup
    decide

theorem field_wellFormed (hn : 0 < n) (hfirst : m.functions[0]? = some reduction) (name : Text)
    (op : FieldOp) :
    ((Code.field op ⟨0⟩).function name (.int Felt.width) [.int Felt.width, .int Felt.width]).WellFormed
      m n := by
  have hcall : ∀ (f : Function) (k arg : Nat),
      f.Scoped k (.int Felt.wideWidth) (.inst arg) → (Code.callHelper ⟨0⟩ arg).Typed m n f k := by
    intro f k arg harg
    refine ⟨0, reduction, rfl, hn, hfirst, rfl, rfl, fun a ha => ?_⟩
    rw [List.mem_singleton] at ha
    rw [ha]
    exact harg
  have hwiden : Felt.width < Felt.wideWidth := by decide
  cases op with
  | sub =>
    exact {
      block := ⟨_, _, rfl, by decide, rfl⟩
      insts :=
        ⟨⟨⟨_, rfl⟩, rfl, rfl⟩, ⟨⟨by decide, rfl⟩, _, _, rfl, rfl, hwiden⟩,
          hcall _ _ _ ⟨by decide, rfl⟩, trivial⟩
      locals := by
        show (["p" ++ Text.ofNat 0, "p" ++ Text.ofNat 1, Text.ofString "entry",
          Text.ofString "diff", Text.ofString "arg", Text.ofString "res"] : List Text).Nodup
        decide }
  | _ =>
    exact {
      block := ⟨_, _, rfl, by decide, rfl⟩
      insts :=
        ⟨⟨rfl, _, _, rfl, rfl, hwiden⟩, ⟨rfl, _, _, rfl, rfl, hwiden⟩,
          ⟨⟨_, rfl⟩, ⟨by decide, rfl⟩, ⟨by decide, rfl⟩⟩, hcall _ _ _ ⟨by decide, rfl⟩, trivial⟩
      locals := by
        show (["p" ++ Text.ofNat 0, "p" ++ Text.ofNat 1, Text.ofString "entry", Text.ofString "lhs",
          Text.ofString "rhs", Text.ofString "arg", Text.ofString "res"] : List Text).Nodup
        decide }

theorem lowersTo_wellFormed {d : Declaration} {f : Function} (hf : d.LowersTo f)
    (hfield : ∀ op, d.IsFieldOp op → 0 < n ∧ m.functions[0]? = some reduction) :
    f.WellFormed m n := by
  cases hf with
  | const h => exact const_wellFormed m n _ _
  | field h => exact field_wellFormed (hfield _ h).1 (hfield _ h).2 _ _
  | wrappingAdd h => exact wrappingAdd_wellFormed m n _ _

/-- Only field operations make calls, and they call the helper. -/
theorem callee_of_lowersTo {d : Declaration} {f : Function} (hf : d.LowersTo f) {i : Inst}
    (hi : i ∈ f.calls) : Compiler.calleeOf i = some 0 ∧ ∃ op, d.IsFieldOp op := by
  cases hf with
  | const h => exact absurd hi List.not_mem_nil
  | @field op h =>
    refine ⟨?_, op, h⟩
    cases op with
    | _ =>
      rw [List.mem_singleton.mp hi]
      rfl
  | wrappingAdd h => exact absurd hi List.not_mem_nil

end Functions
/-! ## The module of a program -/

theorem mem_calls_bare {f : Function} {i : Inst} (hi : i ∈ f.calls) : i.bare ∈ f.bare.calls := by
  obtain ⟨hmem, hcall⟩ := List.mem_filter.mp hi
  refine List.mem_filter.mpr ⟨?_, ?_⟩
  · rw [Function.insts_bare]
    exact List.mem_map_of_mem hmem
  · cases i with
    | call => rfl
    | _ => exact hcall

theorem calleeOf_bare (i : Inst) : Compiler.calleeOf i.bare = Compiler.calleeOf i := by
  cases i <;> rfl

section Lowered

variable {o : Options} {p : Program} {c : Compiler}

/-- A function of a lowered program is the helper, at the front, or that of a libfunc; a
field operation stands behind the helper. -/
theorem function_cases (h : (Compiler.new o).lowerDecls p = .ok c) {n : Nat} {f : Function}
    (hf : c.module.functions[n]? = some f) :
    f.bare = reduction ∨ ∃ d ∈ p.libfuncList, d.LowersTo f.bare ∧
      ∀ op, d.IsFieldOp op → 0 < n ∧ c.module.bare.functions[0]? = some reduction := by
  have hfilled := Compiler.filled_of_lowerDecls h
  obtain ⟨fs, hfs, hfuncs⟩ := hfilled.functions
  have hflip : List.Forall₂ (flip Declaration.LowersTo) fs p.libfuncList := hfs.flip
  have hget : ((if p.HasFelt then [reduction] else []) ++ fs)[n]? = some f.bare := by
    rw [← hfuncs, List.getElem?_map, hf]
    rfl
  by_cases hp : p.HasFelt
  · rw [if_pos hp] at hget
    cases n with
    | zero => exact Or.inl (Option.some.inj hget).symm
    | succ n =>
      obtain ⟨d, hd, hlow⟩ := exists_of_forall₂ hflip (List.mem_iff_getElem?.mpr ⟨n, hget⟩)
      exact Or.inr ⟨d, hd, hlow, fun op _ => ⟨Nat.succ_pos n, hfilled.helper_first hp⟩⟩
  · rw [if_neg hp, List.nil_append] at hget
    obtain ⟨d, hd, hlow⟩ := exists_of_forall₂ hflip (List.mem_iff_getElem?.mpr ⟨n, hget⟩)
    exact Or.inr ⟨d, hd, hlow, fun op hop => absurd (hasFelt_of_isFieldOp h hd hop) hp⟩

theorem module_wellFormed (h : (Compiler.new o).lowerDecls p = .ok c) : c.module.WellFormed where
  functions := by
    intro n f hf
    refine Function.WellFormed.of_bare ?_
    rcases function_cases h hf with hbare | ⟨d, -, hlow, hfield⟩
    · rw [hbare]
      exact reduction_wellFormed _ _
    · exact lowersTo_wellFormed hlow hfield
  idents := by
    have ht := (Compiler.filled_of_lowerDecls h).reaches.tabled
    have hmap : c.module.functions.map Function.ident =
        (c.module.functions.map Function.name).map Name.ofFunction := by
      rw [List.map_map]
      rfl
    rw [hmap]
    exact List.Nodup.map_on (fun s _ t _ he => Name.ofFunction_injective he) ht.names

/-- Every call goes to the helper, which makes none. -/
theorem callee_is_helper (h : (Compiler.new o).lowerDecls p = .ok c) {f : Function}
    (hf : f ∈ c.module.functions) {i : Inst} (hi : i ∈ f.calls) :
    ∃ g, Compiler.calleeOf i = some 0 ∧ c.module.functions[0]? = some g ∧
      c.func? helperName = some g ∧ g.calls = [] := by
  have ht := (Compiler.filled_of_lowerDecls h).reaches.tabled
  have hbare := mem_calls_bare hi
  obtain ⟨n, hn⟩ := List.mem_iff_getElem?.mp hf
  rcases function_cases h hn with hred | ⟨d, hd, hlow, -⟩
  · rw [hred] at hbare
    exact absurd hbare List.not_mem_nil
  · obtain ⟨hcallee, op, hop⟩ := callee_of_lowersTo hlow hbare
    have hfirst := (Compiler.filled_of_lowerDecls h).helper_first (hasFelt_of_isFieldOp h hd hop)
    rw [show c.module.bare.functions = c.module.functions.map Function.bare from rfl,
      List.getElem?_map] at hfirst
    obtain ⟨g, hg, hgbare⟩ := Option.map_eq_some_iff.mp hfirst
    refine ⟨g, (calleeOf_bare i).symm.trans hcallee, hg, ?_, ?_⟩
    · have hname : g.name = helperName := congrArg Function.name hgbare
      rw [ht.func?_eq, ← hname]
      exact find?_key_of_mem ht.names (List.mem_iff_getElem?.mpr ⟨0, hg⟩)
    · refine List.eq_nil_iff_forall_not_mem.mpr fun j hj => ?_
      have hj := mem_calls_bare hj
      rw [hgbare] at hj
      exact absurd hj List.not_mem_nil

end Lowered

/-- The module of an accepted program keeps the rules of well-formed code.  It lists all its
functions, and all its calls go to the helper, which makes none itself. -/
theorem lowered_wellFormed {env : Environment} {journal : Trace.Journal} {p : Program} {o : Options}
    {c : Compiler} (h : (lowerProgram env journal p o).2 = .ok c) :
    c.module.listed = c.module.functions ∧ c.module.WellFormed ∧
      ∀ f ∈ c.module.functions, ∀ i ∈ f.calls, ∃ position g,
        Compiler.calleeOf i = some position ∧ c.module.functions[position]? = some g ∧
          c.func? helperName = some g ∧ g.calls = [] := by
  have hlower := lowerDecls_of_lowerProgram h
  refine ⟨?_, module_wellFormed hlower, fun f hf i hi => ⟨0, callee_is_helper hlower hf hi⟩⟩
  exact (Compiler.filled_of_lowerDecls hlower).reaches.tabled.listed_eq

theorem mixedProgram_wellFormed :
    ∃ c, (lowerProgram {} {} mixedProgram { debugInfo := true }).2 = .ok c ∧ c.module.WellFormed ∧
      c.module.listed = c.module.functions := by
  obtain ⟨c, hc⟩ := mixedProgram_lowers
  obtain ⟨hlisted, hwell, -⟩ := lowered_wellFormed hc
  exact ⟨c, hc, hwell, hlisted⟩

end Lowering
end FeltLowering
