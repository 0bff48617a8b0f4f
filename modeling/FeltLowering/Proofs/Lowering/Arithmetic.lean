import FeltLowering.Proofs.Lowering.Acceptance

/-
What the functions of a lowered program compute.

A function is found by the name of its declaration and is, attachments aside, the one
that `Declaration.LowersTo` gives; the lemmas about bodies then evaluate it.  A field
term is a composition of the field functions of a program, and running it in the module
gives the value that the same term has in the field.
-/
namespace FeltLowering
namespace Lowering

open Ir

/-! ## The function of a declaration -/

section LowersTo

variable {d : Declaration} {f : Function}

theorem runs_const {v : Int} (hf : d.LowersTo f) (h : d.IsConst v) :
    Runs f [] ⟨[], .int Felt.width, .const Felt.width (v % Felt.prime)⟩ := by
  cases hf with
  | const h' =>
    rw [h.unique h']
    exact Code.runs_function _ _ _ _
  | field h' => exact nomatch Compiler.Libfunc.named_unique h.named h'.named
  | wrappingAdd h' => exact nomatch Compiler.Libfunc.named_unique h.named h'.named

theorem runs_field {op : FieldOp} (hf : d.LowersTo f) (h : d.IsFieldOp op) :
    Runs f [.int Felt.width, .int Felt.width] (Code.field op ⟨0⟩) := by
  cases hf with
  | const h' => exact nomatch Compiler.Libfunc.named_unique h.named h'.named
  | field h' =>
    rw [h.unique h']
    exact Code.runs_function _ _ _ _
  | wrappingAdd h' => exact nomatch Compiler.Libfunc.named_unique h.named h'.named

theorem runs_wrappingAdd {w : Nat} (hf : d.LowersTo f) (h : d.IsWrappingAdd w) :
    Runs f [.int w, .int w]
      ⟨[.binary "res" .add (.int w) (.param 0) (.param 1)], .int w, .inst 0⟩ := by
  cases hf with
  | const h' => exact nomatch Compiler.Libfunc.named_unique h.named h'.named
  | field h' => exact nomatch Compiler.Libfunc.named_unique h.named h'.named
  | wrappingAdd h' =>
    rw [h.unique h']
    exact Code.runs_function _ _ _ _

end LowersTo

theorem exists_of_forall₂ {α β : Type} {R : α → β → Prop} {l : List α} {l' : List β}
    (h : List.Forall₂ R l l') {a : α} (ha : a ∈ l) : ∃ b ∈ l', R a b := by
  induction h with
  | nil => exact absurd ha List.not_mem_nil
  | @cons e b l l' hb _ ih =>
    rcases List.mem_cons.mp ha with rfl | ha
    · exact ⟨b, List.mem_cons_self, hb⟩
    · obtain ⟨b', hb', hrel⟩ := ih ha
      exact ⟨b', List.mem_cons_of_mem b hb', hrel⟩

namespace Compiler.Filled

variable {o : Options} {p : Program} {ds : List Declaration} {c : Compiler}

theorem func?_eq_some (h : Filled o p ds c) {d : Declaration} (hd : d ∈ ds) :
    ∃ f, c.func? d.id.name = some f ∧ d.LowersTo f.bare := by
  obtain ⟨fs, hfs, hfuncs⟩ := h.functions
  obtain ⟨g, hg, hlow⟩ := exists_of_forall₂ hfs hd
  have hmem : g ∈ c.module.functions.map Function.bare := by
    rw [hfuncs]
    exact List.mem_append_right _ hg
  obtain ⟨f, hf, rfl⟩ := List.mem_map.mp hmem
  refine ⟨f, ?_, hlow⟩
  rw [h.reaches.tabled.func?_eq, ← hlow.name]
  exact find?_key_of_mem h.reaches.tabled.names hf

theorem helper_first (h : Filled o p ds c) (hp : p.HasFelt) :
    c.module.bare.functions[0]? = some reduction := by
  obtain ⟨fs, -, hfuncs⟩ := h.functions
  show (c.module.functions.map Function.bare)[0]? = _
  rw [hfuncs, if_pos hp]
  rfl

end Compiler.Filled

/-! ## Evaluation -/

section Lowered

variable {o : Options} {p : Program} {c : Compiler}

theorem hasFelt_of_isFieldOp (h : (Compiler.new o).lowerDecls p = .ok c) {d : Declaration}
    (hd : d ∈ p.libfuncList) {op : FieldOp} (hop : d.IsFieldOp op) : p.HasFelt := by
  have hacc : p.Accepted o.debugInfo :=
    (accepted_iff o p).mpr ((Compiler.lowerDecls_ok_iff o p).mp ⟨c, h⟩)
  rcases (hacc.libfuncs d hd).2 with ⟨hfelt, -⟩ | ⟨w, hw, -⟩
  · exact hfelt
  · exact nomatch Compiler.Libfunc.named_unique hop.named hw.named

theorem eval_isConst {d : Declaration} {f : Function} (hf : d.LowersTo f.bare) {v : Int}
    (hv : d.IsConst v) : c.module.eval maxDepth f [] = .ok (v % Felt.prime) := by
  have hfits : wrap Felt.width (v % Felt.prime) = v % Felt.prime := by
    rw [← Felt.toInt_ofInt, Felt.wrap_toInt]
  rw [← Module.eval_bare]
  exact (eval_const (runs_const hf hv) _).trans (congrArg Except.ok hfits)

theorem eval_isFieldOp (h : (Compiler.new o).lowerDecls p = .ok c) {d : Declaration}
    (hd : d ∈ p.libfuncList) {f : Function} (hf : d.LowersTo f.bare) {op : FieldOp}
    (hop : d.IsFieldOp op) (a b : Int) :
    c.module.eval maxDepth f [a, b] = .ok (op.wideArg a b % Felt.prime) := by
  have hfirst := (Compiler.filled_of_lowerDecls h).helper_first (hasFelt_of_isFieldOp h hd hop)
  rw [← Module.eval_bare]
  exact eval_field (runs_field hf hop) hfirst (Code.runs_function _ _ _ _) _ a b

theorem eval_isWrappingAdd {d : Declaration} {f : Function} (hf : d.LowersTo f.bare) {w : Nat}
    (hw : d.IsWrappingAdd w) (a b : Int) :
    c.module.eval maxDepth f [a, b] = .ok ((a + b) % 2 ^ w) := by
  rw [← Module.eval_bare, ← twoPow_cast]
  exact eval_intAdd (runs_wrappingAdd hf hw) _ a b

end Lowered

/-! ## Compositions of field functions -/

/-- A composition of field functions.  Inputs are numbered, and a function goes with what
its declaration is said to stand for. -/
inductive FieldTerm where
  | input (i : Nat)
  | const (d : Declaration) (v : Int)
  | apply (op : FieldOp) (d : Declaration) (x y : FieldTerm)

/-- The value of the function under a name, if there is one and it returns. -/
def Compiler.valueAt (c : Compiler) (name : Text) (args : List Int) : Option Int :=
  (c.func? name).bind fun f => (c.module.eval maxDepth f args).toOption

namespace FieldTerm

def Over (p : Program) : FieldTerm → Prop
  | .input _ => True
  | .const d v => d ∈ p.libfuncList ∧ d.IsConst v
  | .apply op d x y => (d ∈ p.libfuncList ∧ d.IsFieldOp op) ∧ x.Over p ∧ y.Over p

def value (inputs : Nat → Felt) : FieldTerm → Felt
  | .input i => inputs i
  | .const _ v => Felt.ofInt v
  | .apply op _ x y => op.onFelt (x.value inputs) (y.value inputs)

def run (c : Compiler) (inputs : Nat → Int) : FieldTerm → Option Int
  | .input i => some (inputs i)
  | .const d _ => c.valueAt d.id.name []
  | .apply _ d x y => do c.valueAt d.id.name [← x.run c inputs, ← y.run c inputs]

end FieldTerm

section Lowered

variable {o : Options} {p : Program} {c : Compiler}

theorem eval_canonical (h : (Compiler.new o).lowerDecls p = .ok c) {d : Declaration}
    (hd : d ∈ p.libfuncList) {f : Function} (hf : d.LowersTo f.bare) {op : FieldOp}
    (hop : d.IsFieldOp op) {a b : Int} (ha0 : 0 ≤ a) (ha1 : a < Felt.prime) (hb0 : 0 ≤ b)
    (hb1 : b < Felt.prime) :
    c.module.eval maxDepth f [a, b] = .ok (op.onInt a b % Felt.prime) := by
  rw [eval_isFieldOp h hd hf hop, op.wideArg_of_canonical ha0 ha1 hb0 hb1]

/-- A composition of field functions computes the value it has in the field. -/
theorem FieldTerm.run_eq (h : (Compiler.new o).lowerDecls p = .ok c) (x : Nat → Felt)
    (t : FieldTerm) (ht : t.Over p) : t.run c (fun i => (x i).toInt) = some (t.value x).toInt := by
  have hfilled := Compiler.filled_of_lowerDecls h
  induction t with
  | input i => rfl
  | const d v =>
    obtain ⟨f, hfunc, hf⟩ := hfilled.func?_eq_some ht.1
    rw [FieldTerm.run, Compiler.valueAt, hfunc, Option.bind_some, eval_isConst hf ht.2,
      FieldTerm.value, Felt.toInt_ofInt]
    rfl
  | apply op d l r ihl ihr =>
    obtain ⟨⟨hd, hop⟩, hl, hr⟩ := ht
    obtain ⟨f, hfunc, hf⟩ := hfilled.func?_eq_some hd
    have heval := eval_canonical h hd hf hop (l.value x).toInt_nonneg (l.value x).toInt_lt
      (r.value x).toInt_nonneg (r.value x).toInt_lt
    rw [FieldTerm.run, ihl hl, ihr hr]
    show c.valueAt d.id.name [(l.value x).toInt, (r.value x).toInt] = _
    rw [Compiler.valueAt, hfunc, Option.bind_some, heval, FieldTerm.value, FieldOp.toInt_onFelt]
    rfl

end Lowered

/-- The functions of a lowered program compute what their declarations say, and so does
every composition of its field functions. -/
theorem lowered_arithmetic {env : Environment} {journal : Trace.Journal} {p : Program} {o : Options}
    {c : Compiler} (h : (lowerProgram env journal p o).2 = .ok c) :
    (∀ d ∈ p.libfuncList, ∃ f, c.func? d.id.name = some f ∧
      (∀ v, d.IsConst v → c.module.eval maxDepth f [] = .ok (v % Felt.prime)) ∧
      (∀ op, d.IsFieldOp op → ∀ a b : Int, 0 ≤ a → a < Felt.prime → 0 ≤ b → b < Felt.prime →
        c.module.eval maxDepth f [a, b] = .ok (op.onInt a b % Felt.prime) ∧
          op.onInt a b % Felt.prime = (op.onFelt (Felt.ofInt a) (Felt.ofInt b)).toInt) ∧
      ∀ w, d.IsWrappingAdd w → ∀ a b : Int,
        c.module.eval maxDepth f [a, b] = .ok ((a + b) % 2 ^ w)) ∧
    ∀ t : FieldTerm, t.Over p → ∀ x : Nat → Felt,
      t.run c (fun i => (x i).toInt) = some (t.value x).toInt := by
  have hlower := lowerDecls_of_lowerProgram h
  refine ⟨fun d hd => ?_, fun t ht x => t.run_eq hlower x ht⟩
  obtain ⟨f, hfunc, hf⟩ := (Compiler.filled_of_lowerDecls hlower).func?_eq_some hd
  refine ⟨f, hfunc, fun v hv => eval_isConst hf hv, fun op hop a b ha0 ha1 hb0 hb1 => ⟨?_, ?_⟩,
    fun w hw a b => eval_isWrappingAdd hf hw a b⟩
  · exact eval_canonical hlower hd hf hop ha0 ha1 hb0 hb1
  · rw [FieldOp.toInt_onFelt, Felt.toInt_ofInt_of_canonical ha0 ha1,
      Felt.toInt_ofInt_of_canonical hb0 hb1]

theorem mixedProgram_arithmetic :
    ∃ c, (lowerProgram {} {} mixedProgram { debugInfo := true }).2 = .ok c ∧
      (∃ f, c.func? minusFive.id.name = some f ∧
        c.module.eval maxDepth f [] = .ok (-5 % Felt.prime)) ∧
      (∃ f, c.func? times.id.name = some f ∧ c.module.eval maxDepth f [3, 7] = .ok 21) ∧
      (∃ f, c.func? plus.id.name = some f ∧ c.module.eval maxDepth f [200, -412] = .ok 44) ∧
      (FieldTerm.apply .mul times (.const minusFive (-5)) (.input 0)).run c
        (fun _ => (Felt.ofInt 3).toInt) = some (Felt.prime - 15) := by
  obtain ⟨c, hc⟩ := mixedProgram_lowers
  obtain ⟨hall, hterm⟩ := lowered_arithmetic hc
  have hfive : minusFive.IsConst (-5) :=
    ⟨Or.inl rfl, _, _, rfl, rfl, rfl, Decimal.parse?_eq_some_iff.mp (by decide +kernel)⟩
  have htimes : times.IsFieldOp .mul := Or.inr rfl
  have hplus : plus.IsWrappingAdd 8 := ⟨by decide, by decide⟩
  obtain ⟨f, hf, hconst, -⟩ := hall minusFive (by decide)
  obtain ⟨g, hg, -, hfield, -⟩ := hall times (by decide)
  obtain ⟨k, hk, -, -, hsum⟩ := hall plus (by decide)
  refine ⟨c, hc, ⟨f, hf, hconst _ hfive⟩, ⟨g, hg, ?_⟩, ⟨k, hk, hsum 8 hplus _ _⟩, ?_⟩
  · exact (hfield .mul htimes 3 7 (by decide) (by decide) (by decide) (by decide)).1
  · have hover : (FieldTerm.apply .mul times (.const minusFive (-5)) (.input 0)).Over mixedProgram :=
      ⟨⟨by decide, htimes⟩, ⟨by decide, hfive⟩, trivial⟩
    exact hterm _ hover fun _ => Felt.ofInt 3

end Lowering
end FeltLowering
