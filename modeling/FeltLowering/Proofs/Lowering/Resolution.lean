import FeltLowering.Proofs.Ir.Name
import FeltLowering.Proofs.Lowering.Acceptance
import FeltLowering.Proofs.Lowering.Requests
import Mathlib.Data.List.Find

/-
Which function is run under a name.

The compiler keeps its functions by name.  The evaluator looks for the first function that
goes by a name, and a name that reads as a number goes by that number in quotes.  So a
function whose name is a number is known to the compiler and never found by the evaluator,
and the number in quotes may lead to it instead of the function of that name.  Under all
other names the two agree, and they agree under every name exactly if no function is named
by a number: `Resolves.everywhere`.
-/
namespace FeltLowering
namespace Lowering

open Ir

namespace Compiler

/-- The evaluator runs the function the compiler knows under this name, or finds none where
the compiler knows none. -/
def AgreesOn (c : Compiler) (name : Text) : Prop :=
  (∀ f, c.func? name = some f →
      ∀ args, c.module.call name args = c.module.eval maxDepth f args) ∧
    (c.func? name = none → ∀ args, c.module.call name args = .error ⟨name, .unknownFunction⟩)

/-- What is run under each name. -/
structure Resolves (c : Compiler) : Prop where
  plain : ∀ name, Decimal.parseInt64? name = none → (∀ v, name ≠ Name.quotedNumber v) →
    c.AgreesOn name
  number : ∀ name v, Decimal.parseInt64? name = some v →
    ∀ args, c.module.call name args = .error ⟨name, .unknownFunction⟩
  quoted : ∀ v args, c.module.call (Name.quotedNumber v) args =
    ((c.module.listed.find? fun f => decide
        (f.name = Name.quotedNumber v ∨ Decimal.parseInt64? f.name = some v)).map
      fun f => c.module.eval maxDepth f args).getD
        (.error ⟨Name.quotedNumber v, .unknownFunction⟩)
  everywhere : (∀ name, c.AgreesOn name) ↔
    ∀ f ∈ c.module.listed, Decimal.parseInt64? f.name = none

theorem call_eq (m : Module) (name : Text) (args : List Int) :
    m.call name args = ((m.find? name).map fun f => m.eval maxDepth f args).getD
      (.error ⟨name, .unknownFunction⟩) := by
  unfold Module.call
  cases m.find? name <;> rfl

theorem agreesOn_of_find?_eq {c : Compiler} {name : Text} (h : c.module.find? name = c.func? name) :
    c.AgreesOn name := by
  constructor
  · intro f hf args
    rw [call_eq, h, hf]
    rfl
  · intro hnone args
    rw [call_eq, h, hnone]
    rfl

/-- A call with one argument too many is refused by the function itself. -/
theorem eval_arity (m : Module) (f : Function) :
    m.eval maxDepth f (List.replicate (f.params.length + 1) 0) =
      .error ⟨f.displayName, .arity f.params.length (f.params.length + 1)⟩ := by
  have hne : (List.replicate (f.params.length + 1) (0 : Int)).length ≠ f.params.length := by
    rw [List.length_replicate]
    omega
  show f.activate _ _ = _
  unfold Function.activate
  rw [if_pos hne, List.length_replicate]
  rfl

namespace Tabled

variable {c : Compiler}

theorem find?_eq (h : c.Tabled) (name : Text) :
    c.module.find? name = c.module.functions.find? fun f => decide (f.displayName = name) := by
  unfold Module.find?
  rw [h.listed_eq]

/-- The two look-ups agree under a name that functions have exactly if they go by it. -/
theorem find?_eq_func? (h : c.Tabled) {name : Text}
    (hsame : ∀ f ∈ c.module.functions, f.displayName = name ↔ f.name = name) :
    c.module.find? name = c.func? name := by
  rw [h.find?_eq, h.func?_eq]
  refine List.find?_congr fun f hf => ?_
  rw [decide_eq_decide]
  exact hsame f hf

/-- Nothing is found under a number. -/
theorem find?_number (h : c.Tabled) {name : Text} {v : Int}
    (hv : Decimal.parseInt64? name = some v) : c.module.find? name = none := by
  rw [h.find?_eq, find?_key_eq_none_iff]
  intro hmem
  obtain ⟨f, hf, hname⟩ := List.mem_map.mp hmem
  have hnone := Name.parseInt64?_display (h.named f hf)
  rw [show Name.display f.name = name from hname, hv] at hnone
  cases hnone

/-- A function whose name is a number is lost to the evaluator. -/
theorem not_agreesOn_number (h : c.Tabled) {f : Function} (hf : f ∈ c.module.functions) {v : Int}
    (hv : Decimal.parseInt64? f.name = some v) : ¬ c.AgreesOn f.name := by
  rintro ⟨hfound, -⟩
  have hfunc : c.func? f.name = some f := by
    rw [h.func?_eq]
    exact find?_key_of_mem h.names hf
  have hcall := hfound f hfunc (List.replicate (f.params.length + 1) 0)
  rw [call_eq, h.find?_number hv, eval_arity] at hcall
  exact absurd (congrArg EvalError.fault (Except.error.inj hcall)) (by simp)

theorem resolves (h : c.Tabled) : c.Resolves where
  plain := by
    intro name hnumber hquoted
    refine agreesOn_of_find?_eq (h.find?_eq_func? fun f hf => ?_)
    cases hv : Decimal.parseInt64? f.name with
    | none => rw [Function.displayName, Name.display_of_not_number (h.named f hf) hv]
    | some v =>
      rw [Function.displayName, Name.display_of_number hv]
      constructor
      · exact fun heq => absurd heq.symm (hquoted v)
      · rintro rfl
        rw [hnumber] at hv
        cases hv
  number := by
    intro name v hv args
    rw [call_eq, h.find?_number hv]
    rfl
  quoted := by
    intro v args
    rw [call_eq, h.find?_eq, h.listed_eq]
    congr 2
    refine List.find?_congr fun f hf => ?_
    rw [decide_eq_decide]
    exact Name.display_eq_quotedNumber_iff (h.named f hf) v
  everywhere := by
    rw [h.listed_eq]
    constructor
    · intro hall f hf
      cases hv : Decimal.parseInt64? f.name with
      | none => rfl
      | some v => exact absurd (hall f.name) (h.not_agreesOn_number hf hv)
    · intro hnumber name
      refine agreesOn_of_find?_eq (h.find?_eq_func? fun f hf => ?_)
      rw [Function.displayName, Name.display_of_not_number (h.named f hf) (hnumber f hf)]

end Tabled
end Compiler

/-- After every sequence of calls, and for every program that is lowered, evaluation by name
follows the function table except for numbers. -/
theorem evaluation_by_name (o : Options) :
    (∀ requests, ((Session.start o).serveAll requests).compiler.Resolves) ∧
      ∀ env journal p c, (lowerProgram env journal p o).2 = .ok c → c.Resolves := by
  constructor
  · intro requests
    have hstart : (Session.start o).compiler.Tabled := Compiler.new_tabled o
    exact (Session.serveAll_tabled requests hstart).resolves
  · intro env journal p c h
    have hfilled := Compiler.filled_of_lowerDecls (lowerDecls_of_lowerProgram h)
    exact hfilled.reaches.tabled.resolves

theorem mixedProgram_by_name :
    ∃ c, (lowerProgram {} {} mixedProgram { debugInfo := true }).2 = .ok c ∧
      ∀ name, c.AgreesOn name := by
  obtain ⟨c, hc⟩ := mixedProgram_lowers
  have hresolves := (evaluation_by_name { debugInfo := true }).2 {} {} mixedProgram c hc
  have hplain : (lowerProgram {} {} mixedProgram { debugInfo := true }).2.toOption.map
      (fun c => c.module.listed.all fun f => decide (Decimal.parseInt64? f.name = none)) =
        some true := by decide +kernel
  rw [hc] at hplain
  have hall := List.all_eq_true.mp (Option.some.inj hplain)
  exact ⟨c, hc, hresolves.everywhere.mpr fun f hf => of_decide_eq_true (hall f hf)⟩

/-- A sum of bytes named by a number, and a sum of 16-bit integers named by the same number
in quotes. -/
def quotedSeven : Program where
  types := some [⟨⟨0, "u8"⟩, "u8", none⟩, ⟨⟨1, "u16"⟩, "u16", none⟩]
  libfuncs := some
    [⟨⟨0, "7"⟩, "u8_wrapping_add", none⟩, ⟨⟨1, "\"7\""⟩, "u16_wrapping_add", none⟩]

/-- The function under the number is not found by name, and the number in quotes leads to it
instead of the function of that name. -/
theorem quotedSeven_misresolves :
    ∃ c, (lowerProgram {} {} quotedSeven {}).2 = .ok c ∧
      (∃ f, c.func? "7" = some f ∧ c.module.eval maxDepth f [1, 2] = .ok 3) ∧
      c.module.call "7" [1, 2] = .error ⟨"7", .unknownFunction⟩ ∧
      (∃ f, c.func? "\"7\"" = some f ∧ c.module.eval maxDepth f [200, 100] = .ok 300) ∧
      c.module.call "\"7\"" [200, 100] = .ok 44 := by
  have hrun : (lowerProgram {} {} quotedSeven {}).2.toOption.map (fun c =>
      ((c.func? "7").map fun f => c.module.eval maxDepth f [1, 2],
        c.module.call "7" [1, 2],
        (c.func? "\"7\"").map fun f => c.module.eval maxDepth f [200, 100],
        c.module.call "\"7\"" [200, 100])) =
      some (some (.ok 3), .error ⟨"7", .unknownFunction⟩, some (.ok 300), .ok 44) := by
    decide +kernel
  cases hr : (lowerProgram {} {} quotedSeven {}).2 with
  | error e =>
    rw [hr] at hrun
    cases hrun
  | ok c =>
    rw [hr] at hrun
    simp only [Except.toOption, Option.map_some, Option.some.injEq, Prod.mk.injEq] at hrun
    obtain ⟨hseven, hcall, hquoted, hcall'⟩ := hrun
    exact ⟨c, rfl, Option.map_eq_some_iff.mp hseven, hcall, Option.map_eq_some_iff.mp hquoted, hcall'⟩

end Lowering
end FeltLowering
