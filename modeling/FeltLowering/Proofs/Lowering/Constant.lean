import FeltLowering.Cli.Failure
import FeltLowering.Proofs.Lowering.Reduction
import FeltLowering.Proofs.Text.Blank
import Mathlib.Data.List.Induction
import Mathlib.Data.Nat.Digits.Defs

/-
Decimal literals, wherever they are read.

`Decimal.Literal` is the grammar of literals, with the number of the digits given by
position.  The element of a literal, the argument of an evaluation and the constant of a
libfunc are read by one grammar.  A constant may stand between white space and is confined
to less than the modulus in size, and what its function returns is the element of the
literal.
-/
namespace FeltLowering

namespace Decimal

/-- The number that digits stand for, each by its position from the right. -/
def positional (ds : Text) : Nat := Nat.ofDigits 10 (ds.reverse.map fun b => b.toNat - 0x30)

/-- At most one sign, and then one or more digits. -/
def Literal (t : Text) (v : Int) : Prop :=
  ∃ sign ds : Text, t = sign ++ ds ∧ ds ≠ [] ∧ (∀ b ∈ ds, 0x30 ≤ b ∧ b ≤ 0x39) ∧
    ((sign = [] ∨ sign = [0x2B]) ∧ v = positional ds ∨ sign = [0x2D] ∧ v = -(positional ds : Int))

theorem ofDigits_eq_positional (ds : Text) : ofDigits 0 ds = positional ds := by
  -- The reader goes from the left, so that the last digit is added last.
  induction ds using List.reverseRecOn with
  | nil => rfl
  | append_singleton ds b ih =>
    have hread : ofDigits 0 (ds ++ [b]) = ofDigits 0 ds * 10 + (b.toNat - 0x30) := by
      rw [ofDigits, List.foldl_append]
      rfl
    have hlast : positional (ds ++ [b]) = (b.toNat - 0x30) + 10 * positional ds := by
      rw [positional, List.reverse_append, List.reverse_singleton, List.singleton_append,
        List.map_cons, Nat.ofDigits_cons]
      rfl
    rw [hread, hlast, ih]
    omega

theorem digits_iff {ds : Text} : Digits ds ↔ ds ≠ [] ∧ ∀ b ∈ ds, 0x30 ≤ b ∧ b ≤ 0x39 := by
  simp only [Digits, Text.isDigit, Bool.and_eq_true, decide_eq_true_eq]

theorem denotes_iff_literal {t : Text} {v : Int} : Denotes t v ↔ Literal t v := by
  constructor
  · intro h
    cases h with
    | @plain ds h =>
      obtain ⟨hne, hall⟩ := digits_iff.mp h
      exact ⟨[], t, rfl, hne, hall, .inl ⟨.inl rfl, by rw [ofDigits_eq_positional]⟩⟩
    | @plus ds h =>
      obtain ⟨hne, hall⟩ := digits_iff.mp h
      exact ⟨[0x2B], ds, rfl, hne, hall, .inl ⟨.inr rfl, by rw [ofDigits_eq_positional]⟩⟩
    | @minus ds h =>
      obtain ⟨hne, hall⟩ := digits_iff.mp h
      exact ⟨[0x2D], ds, rfl, hne, hall, .inr ⟨rfl, by rw [ofDigits_eq_positional]⟩⟩
  · rintro ⟨sign, ds, rfl, hne, hall, hsign⟩
    have hdigits : Digits ds := digits_iff.mpr ⟨hne, hall⟩
    rw [← ofDigits_eq_positional] at hsign
    rcases hsign with ⟨rfl | rfl, rfl⟩ | ⟨rfl, rfl⟩
    · exact .plain hdigits
    · exact .plus hdigits
    · exact .minus hdigits

theorem parse?_eq_some_iff_literal {t : Text} {v : Int} : parse? t = some v ↔ Literal t v :=
  parse?_eq_some_iff.trans denotes_iff_literal

theorem Literal.visible {t : Text} {v : Int} (h : Literal t v) :
    t ≠ [] ∧ ∀ b ∈ t, 0x20 < b.toNat ∧ b.toNat < 0x80 := by
  obtain ⟨sign, ds, rfl, hne, hall, hsign⟩ := h
  refine ⟨List.append_ne_nil_of_right_ne_nil _ hne, fun b hb => ?_⟩
  rcases List.mem_append.mp hb with hb | hb
  · have hmark : b = 0x2B ∨ b = 0x2D := by
      rcases hsign with ⟨rfl | rfl, -⟩ | ⟨rfl, -⟩
      · cases hb
      · exact .inl (List.mem_singleton.mp hb)
      · exact .inr (List.mem_singleton.mp hb)
    rcases hmark with rfl | rfl <;> decide
  · obtain ⟨hlow, hhigh⟩ := hall b hb
    have hlow' : 0x30 ≤ b.toNat := hlow
    have hhigh' : b.toNat ≤ 0x39 := hhigh
    omega

/-- Trimming leaves a literal exactly where there is one between white space. -/
theorem literal_trim_iff {t : Text} {v : Int} :
    Literal t.trim v ↔
      ∃ before lit after, Text.Blank before ∧ Text.Blank after ∧ t = before ++ lit ++ after ∧
        Literal lit v := by
  constructor
  · intro h
    obtain ⟨before, after, hbefore, hafter, ht⟩ := Text.eq_append_trim t
    exact ⟨before, t.trim, after, hbefore, hafter, ht, h⟩
  · rintro ⟨before, lit, after, hbefore, hafter, rfl, h⟩
    obtain ⟨hne, hvisible⟩ := h.visible
    obtain ⟨cs, rfl, hcs⟩ := Text.exists_chars_of_visible hvisible
    have hcs_ne : cs ≠ [] := by
      rintro rfl
      exact hne rfl
    rwa [Text.trim_padded hbefore hafter hcs_ne hcs]

end Decimal

/-! ## Elements and arguments -/

theorem Felt.ofDecimal?_of_literal {t : Text} {v : Int} (h : Decimal.Literal t v) :
    Felt.ofDecimal? t = some (Felt.ofInt v) := by
  rw [Felt.ofDecimal?, Decimal.parse?_eq_some_iff_literal.mpr h, Option.map_some]

theorem Felt.ofDecimal?_isSome_iff {t : Text} :
    (∃ x, Felt.ofDecimal? t = some x) ↔ ∃ v, Decimal.Literal t v := by
  constructor
  · rintro ⟨x, hx⟩
    obtain ⟨v, hv, -⟩ := Option.map_eq_some_iff.mp hx
    exact ⟨v, Decimal.parse?_eq_some_iff_literal.mp hv⟩
  · rintro ⟨v, hv⟩
    exact ⟨_, Felt.ofDecimal?_of_literal hv⟩

theorem Felt.ofDecimal?_text (x : Felt) : Felt.ofDecimal? x.text = some x := by
  have hparse : Decimal.parse? x.text = some x.toInt :=
    Decimal.parse?_eq_some_iff.mpr (Text.denotes_ofInt x.toInt)
  rw [Felt.ofDecimal?, hparse, Option.map_some, Felt.ofInt_toInt]

theorem Cli.readNumbers_singleton_iff {index : Nat} {t : Text} {vs : List Int} :
    Cli.readNumbers index [t] = .ok vs ↔ ∃ v, Decimal.Literal t v ∧ vs = [v] := by
  simp only [← Decimal.parse?_eq_some_iff_literal, Cli.readNumbers]
  cases Decimal.parse? t with
  | none => simp
  | some v => simp [Except.map, eq_comm]

/-! ## Constants -/

namespace Lowering
namespace Compiler

open Ir

variable {c : Compiler} {d : Declaration} {t : Text}

theorem hasLiteral_iff (hargs : d.argList = [{ value := some t }]) {v : Int} :
    d.HasLiteral v ↔ Decimal.Literal t.trim v := by
  rw [← Decimal.denotes_iff_literal]
  constructor
  · rintro ⟨arg, t', harg, -, hvalue, h⟩
    rw [hargs] at harg
    cases harg
    cases hvalue
    exact h
  · intro h
    exact ⟨_, t, hargs, rfl, rfl, h⟩

theorem constValue_eq_error {e : LowerError} (h : constValue d = .error e) :
    ∃ cause, e = .fatal (libfuncLabel d) cause ∧ cause.kind = .badConstant := by
  simp only [constValue] at h
  split at h
  · split at h
    · split at h
      · cases h
        exact ⟨_, rfl, rfl⟩
      · split at h
        · cases h
          exact ⟨_, rfl, rfl⟩
        · cases h
    · cases h
      exact ⟨_, rfl, rfl⟩
  · cases h
    exact ⟨_, rfl, rfl⟩

/-- The constant is looked at before the name. -/
theorem feltConst_of_constValue_error (hfelt : (c.registry.lookupName? "felt").isSome = true)
    {e : LowerError} (h : constValue d = .error e) : c.feltConst d = .error e := by
  obtain ⟨felt, hfelt⟩ := Option.isSome_iff_exists.mp hfelt
  show c.callLibfunc d .feltConst = .error e
  rw [callLibfunc_feltConst, builtinSlot_eq_ok_iff.mpr hfelt, h]
  rfl

theorem Tabled.not_mem_of_func?_eq_none (hc : c.Tabled) {name : Text} (h : c.func? name = none) :
    name ∉ c.module.functions.map Function.name := by
  rw [hc.func?_eq] at h
  exact find?_key_eq_none_iff.mp h

/-- A literal in range under a free name is lowered. -/
theorem feltConst_of_hasLiteral (hc : c.Coherent)
    (hfelt : (c.registry.lookupName? "felt").isSome = true) (hname : d.id.debugName ≠ [])
    (hfree : c.func? d.id.name = none) {v : Int} (hlit : d.HasLiteral v)
    (hrange : v.natAbs < Felt.prime) : ∃ done, c.feltConst d = .ok done := by
  obtain ⟨felt, hfelt⟩ := Option.isSome_iff_exists.mp hfelt
  have hty : felt.type.ty = .int Felt.width := (hc.registry.builtinTy hfelt).felt
  have hslots : ∀ s ∈ [felt], c.registry.Holds s := by
    intro s hs
    rw [List.mem_singleton.mp hs]
    exact Registry.holds_of_lookupName? hfelt
  let body : Body := .const (some (felt.type.ty.size, (Felt.ofInt v).toInt))
  have hcode : ∃ code, body.code felt.type.ty [] = .ok code := by
    rw [show body = .const (some (felt.type.ty.size, (Felt.ofInt v).toInt)) from rfl, hty]
    exact ⟨_, rfl⟩
  have hlower : ∃ done, c.lower d.id.name felt [] body = .ok done :=
    (lower_ok_iff hc.tabled hc.paired hslots).mpr
      ⟨rfl, Ident.name_ne_nil_iff.mpr hname, hc.tabled.not_mem_of_func?_eq_none hfree, trivial, hcode⟩
  obtain ⟨done, hdone⟩ := hlower
  have hcall : c.callLibfunc d .feltConst = .ok done :=
    callLibfunc_eq_ok_iff.mpr
      ⟨Ident.hasName_iff.mpr hname, felt, [], body, .const hfelt hlit hrange, hdone⟩
  exact ⟨done, hcall⟩

theorem eval_of_feltConst (hc : c.Coherent) {done : Lowered} (h : c.feltConst d = .ok done) :
    ∃ v f, d.HasLiteral v ∧ v.natAbs < Felt.prime ∧ done.compiler.func? d.id.name = some f ∧
      done.compiler.module.eval maxDepth f [] = .ok (Felt.ofInt v).toInt := by
  have hcall : c.callLibfunc d .feltConst = .ok done := h
  obtain ⟨-, result, params, body, hreq, hlower⟩ := callLibfunc_eq_ok_iff.mp hcall
  cases hreq with
  | @const _ v hfelt hlit hrange =>
    have hty : result.type.ty = .int Felt.width := (hc.registry.builtinTy hfelt).felt
    have hcode : (Body.const (some (result.type.ty.size, (Felt.ofInt v).toInt))).code
        result.type.ty [] = .ok ⟨[], .int Felt.width, .const Felt.width (Felt.ofInt v).toInt⟩ := by
      rw [hty]
      rfl
    obtain ⟨f, hfunc, -, hbare⟩ := func?_of_lower hcode hlower hc.tabled
    refine ⟨v, f, hlit, hrange, hfunc, ?_⟩
    rw [← Module.eval_bare, hbare, Code.function_bare rfl]
    exact (eval_const (Code.runs_function _ _ _ _) _).trans (congrArg Except.ok (Felt.wrap_toInt _))

end Compiler

/-- The three readers of decimal literals have one grammar and one meaning. -/
theorem decimal_literals_have_one_meaning :
    (∀ t : Text,
      ((∃ x, Felt.ofDecimal? t = some x) ↔ ∃ v, Decimal.Literal t v) ∧
      ((∃ vs, Cli.readNumbers 0 [t] = .ok vs) ↔ ∃ v, Decimal.Literal t v) ∧
      ∀ v, Decimal.Literal t v → Cli.readNumbers 0 [t] = .ok [v] ∧
        ∃ x, Felt.ofDecimal? t = some x ∧ x.toInt = v % Felt.prime ∧ 0 ≤ x.toInt ∧
          x.toInt < Felt.prime) ∧
    (∀ x : Felt, Felt.ofDecimal? x.text = some x) ∧
    (∀ (t : Text) (v : Int), Decimal.Literal t.trim v ↔
      ∃ before lit after, Text.Blank before ∧ Text.Blank after ∧ t = before ++ lit ++ after ∧
        Decimal.Literal lit v) ∧
    ∀ (s : Session) (d : Declaration) (t : Text), s.InUse →
      (s.compiler.registry.lookupName? "felt").isSome = true → d.id.debugName ≠ [] →
      s.compiler.func? d.id.name = none → d.argList = [{ value := some t }] →
      ((∃ done, s.compiler.feltConst d = .ok done) ↔
        ∃ v, Decimal.Literal t.trim v ∧ v.natAbs < Felt.prime) ∧
      (∀ done, s.compiler.feltConst d = .ok done →
        ∃ f x, done.compiler.func? d.id.name = some f ∧ Felt.ofDecimal? t.trim = some x ∧
          done.compiler.module.eval Ir.maxDepth f [] = .ok x.toInt) ∧
      ((¬ ∃ v, Decimal.Literal t.trim v ∧ v.natAbs < Felt.prime) →
        ∃ cause, s.compiler.feltConst d = .error (.fatal (libfuncLabel d) cause) ∧
          cause.kind = .badConstant) := by
  refine ⟨fun t => ⟨Felt.ofDecimal?_isSome_iff, ?_, fun v hv => ⟨?_, ?_⟩⟩, Felt.ofDecimal?_text,
    fun t v => Decimal.literal_trim_iff, fun s d t hs hfelt hname hfree hargs => ⟨?_, ?_, ?_⟩⟩
  · simp only [Cli.readNumbers_singleton_iff]
    exact ⟨fun ⟨_, v, hv, _⟩ => ⟨v, hv⟩, fun ⟨v, hv⟩ => ⟨[v], v, hv, rfl⟩⟩
  · exact Cli.readNumbers_singleton_iff.mpr ⟨v, hv, rfl⟩
  · exact ⟨_, Felt.ofDecimal?_of_literal hv, Felt.toInt_ofInt v, Felt.toInt_nonneg _,
      Felt.toInt_lt _⟩
  · constructor
    · rintro ⟨done, hdone⟩
      obtain ⟨v, f, hlit, hrange, -⟩ := Compiler.eval_of_feltConst hs.coherent hdone
      exact ⟨v, (Compiler.hasLiteral_iff hargs).mp hlit, hrange⟩
    · rintro ⟨v, hlit, hrange⟩
      exact Compiler.feltConst_of_hasLiteral hs.coherent hfelt hname hfree
        ((Compiler.hasLiteral_iff hargs).mpr hlit) hrange
  · intro done hdone
    obtain ⟨v, f, hlit, -, hfunc, heval⟩ := Compiler.eval_of_feltConst hs.coherent hdone
    exact ⟨f, _, hfunc, Felt.ofDecimal?_of_literal ((Compiler.hasLiteral_iff hargs).mp hlit), heval⟩
  · intro hnone
    cases hvalue : Compiler.constValue d with
    | ok x =>
      obtain ⟨v, hlit, hrange, -⟩ := Compiler.constValue_eq_ok_iff.mp hvalue
      exact absurd ⟨v, (Compiler.hasLiteral_iff hargs).mp hlit, hrange⟩ hnone
    | error e =>
      obtain ⟨cause, rfl, hkind⟩ := Compiler.constValue_eq_error hvalue
      exact ⟨cause, Compiler.feltConst_of_constValue_error hfelt hvalue, hkind⟩

/-- A constant between an ideographic space and a line break. -/
def paddedFive : Declaration where
  id := ⟨3, "five"⟩
  genericId := "felt252_const"
  args :=
    some [{ value := some (Text.ofChars [Char.ofNat 0x3000] ++ "-05" ++ Text.ofChars ['\n']) }]

theorem paddedFive_is_constant :
    ∃ done f, feltSession.compiler.feltConst paddedFive = .ok done ∧
      done.compiler.func? paddedFive.id.name = some f ∧
      done.compiler.module.eval Ir.maxDepth f [] = .ok (-5 % Felt.prime) := by
  obtain ⟨hread, -, hpadded, hconst⟩ := decimal_literals_have_one_meaning
  have hlit : Decimal.Literal "-05" (-5) := Decimal.parse?_eq_some_iff_literal.mp (by decide)
  have hblank : ∀ c, Text.isBlank c.toNat = true → Text.Blank (Text.ofChars [c]) :=
    fun c hc => ⟨[c], fun c' hc' => by rwa [List.mem_singleton.mp hc'], rfl⟩
  have htrim := (hpadded _ _).mpr
    ⟨_, _, _, hblank (Char.ofNat 0x3000) (by decide), hblank '\n' (by decide), rfl, hlit⟩
  have hs : feltSession.InUse := (Session.InUse.start _).serve _
  obtain ⟨hiff, hvalue, -⟩ := hconst feltSession paddedFive _ hs (by decide +kernel) (by decide)
    (by decide +kernel) rfl
  obtain ⟨done, hdone⟩ := hiff.mpr ⟨-5, htrim, by decide⟩
  obtain ⟨f, x, hfunc, hx, heval⟩ := hvalue done hdone
  obtain ⟨-, x', hx', hval, -⟩ := (hread _).2.2 (-5) htrim
  obtain rfl : x = x' := Option.some.inj (hx.symm.trans hx')
  exact ⟨done, f, hdone, hfunc, by rw [heval, hval]⟩

end Lowering
end FeltLowering
