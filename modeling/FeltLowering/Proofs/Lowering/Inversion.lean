import FeltLowering.Proofs.Lowering.Accepted
import FeltLowering.Proofs.Lowering.Metadata

/-
When the calls of a compiler succeed.

One lemma for each call gives the exact condition under which it succeeds and what it
leaves.  All libfuncs end in `lower`, so their lemmas reduce to that of `lower`, with the
slots and the body it is given.
-/
namespace FeltLowering
namespace Lowering

open Ir

theorem bind_eq_ok_iff {ε α β : Type} {x : Except ε α} {f : α → Except ε β} {b : β} :
    (x >>= f) = .ok b ↔ ∃ a, x = .ok a ∧ f a = .ok b := by
  cases x with
  | error e =>
    constructor
    · intro h
      cases h
    · rintro ⟨a, h, -⟩
      cases h
  | ok a =>
    constructor
    · exact fun h => ⟨a, rfl, h⟩
    · rintro ⟨a', h, hf⟩
      cases h
      exact hf

/-! ## Lowering one function -/

/-- A body that can be built: of a known kind, and with the value or the helper it needs. -/
def Body.Complete : Body → Prop
  | .invalid | .const none | .field _ none => False
  | _ => True

namespace Compiler

theorem checkBody_eq_ok_iff {c : Compiler} {name : Text} {params : List Slot} {body : Body} :
    c.checkBody name params body = .ok () ↔
      params.length = body.arity ∧ name ≠ [] ∧ c.position? name = none ∧ body.Complete := by
  unfold checkBody
  by_cases hlen : params.length = body.arity
  · by_cases hname : name = []
    · simp [hlen, hname]
    · have hempty : name.isEmpty = false := by cases name <;> simp_all
      cases hpos : c.position? name with
      | some i => simp [hlen, hempty]
      | none =>
        simp only [hlen, ne_eq, not_true, if_false, hempty, Bool.false_eq_true, Option.isSome_none,
          hname, not_false_eq_true, true_and]
        cases body with
        | const value => cases value <;> simp [Body.Complete]
        | field op helper => cases helper <;> simp [Body.Complete]
        | _ => simp [Body.Complete]
  · simp [hlen]

/-- A function is lowered exactly if the checks pass, its types have debug types and its
body can be built; it is then installed and nothing else changes. -/
theorem lower_eq_ok_iff {c : Compiler} {name : Text} {result : Slot} {params : List Slot}
    {body : Body} {done : Lowered} :
    c.lower name result params body = .ok done ↔
      ∃ signature code, c.checkBody name params body = .ok () ∧
        c.debugSignature name (result :: params) = .ok signature ∧
        body.code result.type.ty (params.map fun p => p.type.ty) = .ok code ∧
        done = ⟨⟨name, body.kind, code.insts.length⟩,
          c.install (buildFunction name result params code) signature⟩ := by
  rw [lower_eq, bind_eq_ok_iff]
  constructor
  · rintro ⟨u, hcheck, h⟩
    obtain ⟨signature, hsig, h⟩ := bind_eq_ok_iff.mp h
    cases hcode : body.code result.type.ty (params.map fun p => p.type.ty) with
    | error fault =>
      rw [hcode] at h
      cases h
    | ok code =>
      rw [hcode] at h
      cases h
      exact ⟨signature, code, hcheck, hsig, rfl, rfl⟩
  · rintro ⟨signature, code, hcheck, hsig, hcode, rfl⟩
    refine ⟨(), hcheck, bind_eq_ok_iff.mpr ⟨signature, hsig, ?_⟩⟩
    rw [hcode]
    rfl

/-- A signature resolves exactly if every slot has a debug type. -/
theorem debugSignature_eq_ok_iff {c : Compiler} {d : DebugTable} (hd : c.debug = some d)
    {name : Text} {slots : List Slot} {refs : List NodeRef} :
    c.debugSignature name slots = .ok refs ↔ slots.map (fun s => d.type? s.key) = refs.map some := by
  unfold debugSignature
  rw [hd]
  simp only
  induction slots generalizing refs with
  | nil =>
    cases refs with
    | nil => simp [pure, Except.pure]
    | cons r refs => simp [pure, Except.pure]
  | cons s slots ih =>
    rw [List.mapM_cons, bind_eq_ok_iff, List.map_cons]
    cases ht : d.type? s.key with
    | none => cases refs <;> simp
    | some r =>
      cases refs with
      | nil =>
        simp only [Except.ok.injEq, exists_eq_left', List.map_nil, reduceCtorEq, iff_false]
        intro h
        obtain ⟨rs, -, h⟩ := bind_eq_ok_iff.mp h
        cases h
      | cons r' refs =>
        simp only [Except.ok.injEq, exists_eq_left', List.map_cons, List.cons.injEq,
          Option.some.injEq, ← ih, bind_eq_ok_iff, pure, Except.pure]
        constructor
        · rintro ⟨rs, h, rfl, rfl⟩
          exact ⟨rfl, h⟩
        · rintro ⟨rfl, h⟩
          exact ⟨refs, h, rfl, rfl⟩

theorem debugSignature_of_none {c : Compiler} (hd : c.debug = none) (name : Text)
    (slots : List Slot) : c.debugSignature name slots = .ok [] := by
  unfold debugSignature
  rw [hd]

/-! ## Types -/

theorem checkType_eq_ok_iff {c : Compiler} {d : Declaration} :
    c.checkType d = .ok () ↔
      c.registry.has d.id.key = false ∧ (c.debugInfo = true → d.id.hasName = true) := by
  unfold checkType
  cases c.registry.has d.id.key with
  | true => simp
  | false =>
    cases c.debugInfo with
    | false => simp
    | true => cases d.id.hasName <;> simp

theorem wrappedType_eq_ok_iff {d : Declaration} {inner : Ident} :
    wrappedType d = .ok inner ↔
      ∃ arg, d.argList = [arg] ∧ arg.kind = .type ∧ arg.type = some inner := by
  constructor
  · intro h
    simp only [wrappedType] at h
    split at h
    · next arg hargs =>
      split at h
      · next inner' hkind htype =>
        cases h
        exact ⟨arg, hargs, hkind, htype⟩
      · cases h
      · cases h
    · cases h
  · rintro ⟨arg, hargs, hkind, htype⟩
    simp only [wrappedType, hargs, hkind, htype]

theorem addWrapper_eq_ok_iff {c c' : Compiler} {d : Declaration} :
    c.addWrapper d = .ok c' ↔
      ∃ arg inner slot, d.argList = [arg] ∧ arg.kind = .type ∧ arg.type = some inner ∧
        c.registry.lookup? inner.key = some slot ∧ c' = c.aliasType d.id.key d.id.name slot := by
  rw [addWrapper_eq, bind_eq_ok_iff]
  constructor
  · rintro ⟨inner, hinner, h⟩
    obtain ⟨arg, hargs, hkind, htype⟩ := wrappedType_eq_ok_iff.mp hinner
    cases hslot : c.registry.lookup? inner.key with
    | none =>
      rw [hslot] at h
      cases h
    | some slot =>
      rw [hslot] at h
      cases h
      exact ⟨arg, inner, slot, hargs, hkind, htype, hslot, rfl⟩
  · rintro ⟨arg, inner, slot, hargs, hkind, htype, hslot, rfl⟩
    refine ⟨inner, wrappedType_eq_ok_iff.mpr ⟨arg, hargs, hkind, htype⟩, ?_⟩
    rw [hslot]
    rfl

/-- A type is declared exactly if its id is new, it is named where debug info asks for
that, and it is a field element, a builtin integer or a wrapper of an earlier type. -/
theorem declareType_eq_ok_iff {c c' : Compiler} {d : Declaration} :
    c.declareType d = .ok c' ↔ c.checkType d = .ok () ∧
      ((d.IsFelt ∧ c' = c.addBuiltin d "felt" (c.registry.fresh (.int Felt.width))) ∨
        (∃ w, d.IsInt w ∧ c' = c.addBuiltin d (intName w) ⟨.int w, 0⟩) ∨
        ∃ inner slot, d.Wraps inner ∧ c.registry.lookup? inner.key = some slot ∧
          c' = c.aliasType d.id.key d.id.name slot) := by
  have hfz : Text.ofString "NonZero" ≠ Text.ofString "felt" ∧
      Text.ofString "NonZero" ≠ Text.ofString "felt252" := by decide
  unfold declareType
  rw [bind_eq_ok_iff]
  refine Iff.trans ⟨fun ⟨_, h⟩ => h, fun h => ⟨(), h⟩⟩ (and_congr_right fun _ => ?_)
  rw [addType_eq]
  constructor
  · intro h
    split at h
    · next hfelt =>
      cases h
      exact Or.inl ⟨by simpa [Declaration.IsFelt] using hfelt, rfl⟩
    split at h
    · next hwrap =>
      obtain ⟨arg, inner, slot, hargs, hkind, htype, hslot, rfl⟩ := addWrapper_eq_ok_iff.mp h
      exact Or.inr (Or.inr ⟨inner, slot, ⟨hwrap, arg, hargs, hkind, htype⟩, hslot, rfl⟩)
    split at h
    · next w hw =>
      cases h
      obtain ⟨hmem, hid⟩ := intWidth?_eq_some_iff.mp hw
      exact Or.inr (Or.inl ⟨w, ⟨hmem, hid⟩, by rw [hid]⟩)
    · cases h
  · rintro (⟨hfelt, rfl⟩ | ⟨w, ⟨hmem, hid⟩, rfl⟩ |
      ⟨inner, slot, ⟨hwrap, arg, hargs, hkind, htype⟩, hslot, rfl⟩)
    · rw [if_pos (by simpa [Declaration.IsFelt] using hfelt)]
    · obtain ⟨hne, hne', hne''⟩ := intName_ne w hmem
      rw [if_neg (by simp [hid, hne, hne']), if_neg (by rw [hid]; exact hne''),
        intWidth?_eq_some_iff.mpr ⟨hmem, hid⟩, hid]
    · rw [if_neg (by simp [hwrap, hfz.1, hfz.2]), if_pos hwrap]
      exact addWrapper_eq_ok_iff.mpr ⟨arg, inner, slot, hargs, hkind, htype, hslot, rfl⟩

/-! ## Libfuncs -/

theorem libfuncName_eq_ok_iff {d : Declaration} {name : Text} :
    libfuncName d = .ok name ↔ d.id.hasName = true ∧ name = d.id.name := by
  unfold libfuncName
  cases d.id.hasName with
  | true => simp [eq_comm]
  | false => simp

theorem constValue_eq_ok_iff {d : Declaration} {x : Felt} :
    constValue d = .ok x ↔
      ∃ v, d.HasLiteral v ∧ v.natAbs < Felt.prime ∧ x = Felt.ofInt v := by
  constructor
  · intro h
    simp only [constValue] at h
    split at h
    · next arg hargs =>
      split at h
      · next t hkind hvalue =>
        split at h
        · cases h
        · next v hv =>
          split at h
          · cases h
          · next hrange =>
            cases h
            exact ⟨v, ⟨arg, t, hargs, hkind, hvalue, Decimal.parse?_eq_some_iff.mp hv⟩,
              Nat.lt_of_not_le hrange, rfl⟩
      · cases h
    · cases h
  · rintro ⟨v, ⟨arg, t, hargs, hkind, hvalue, hv⟩, hrange, rfl⟩
    simp only [constValue, hargs, hkind, hvalue, Decimal.parse?_eq_some_iff.mpr hv]
    rw [if_neg (Nat.not_le_of_lt hrange)]

/-- What a libfunc asks `lower` for: the result, the parameters and the body. -/
inductive Requests (c : Compiler) (d : Declaration) : Libfunc → Slot → List Slot → Body → Prop
  | const {felt : Slot} {v : Int} (hfelt : c.registry.lookupName? "felt" = some felt)
      (hlit : d.HasLiteral v) (hrange : v.natAbs < Felt.prime) :
      Requests c d .feltConst felt [] (.const (some (felt.type.ty.size, (Felt.ofInt v).toInt)))
  | binary {felt : Slot} {op : FieldOp} {h : Helper}
      (hfelt : c.registry.lookupName? "felt" = some felt) (hhelper : c.helper = some h) :
      Requests c d (.feltBinary op) felt [felt, felt] (.field op (some h))
  | wrappingAdd {slot : Slot} {builtin : Text}
      (hslot : c.registry.lookupName? builtin = some slot) :
      Requests c d (.wrappingAdd builtin) slot [slot, slot] .intAdd

theorem builtinSlot_eq_ok_iff {c : Compiler} {d : Declaration} {builtin : Text} {slot : Slot} :
    c.builtinSlot d builtin = .ok slot ↔ c.registry.lookupName? builtin = some slot := by
  unfold builtinSlot
  cases c.registry.lookupName? builtin <;> simp

theorem helperFor_eq_ok_iff {c : Compiler} {d : Declaration} {h : Helper} :
    c.helperFor d = .ok h ↔ c.helper = some h := by
  unfold helperFor
  cases c.helper <;> simp

/-- A libfunc is lowered exactly if the declaration is named and `lower` grants what the
libfunc asks for. -/
theorem callLibfunc_eq_ok_iff {c : Compiler} {d : Declaration} {libfunc : Libfunc} {done : Lowered} :
    c.callLibfunc d libfunc = .ok done ↔ d.id.hasName = true ∧
      ∃ result params body, Requests c d libfunc result params body ∧
        c.lower d.id.name result params body = .ok done := by
  constructor
  · intro h
    cases libfunc with
    | feltConst =>
      rw [callLibfunc_feltConst] at h
      obtain ⟨felt, hfelt, h⟩ := bind_eq_ok_iff.mp h
      obtain ⟨x, hx, h⟩ := bind_eq_ok_iff.mp h
      obtain ⟨name, hname, h⟩ := bind_eq_ok_iff.mp h
      obtain ⟨hnamed, rfl⟩ := libfuncName_eq_ok_iff.mp hname
      obtain ⟨v, hlit, hrange, rfl⟩ := constValue_eq_ok_iff.mp hx
      exact ⟨hnamed, felt, [], _, .const (builtinSlot_eq_ok_iff.mp hfelt) hlit hrange, h⟩
    | feltBinary op =>
      rw [callLibfunc_feltBinary] at h
      obtain ⟨felt, hfelt, h⟩ := bind_eq_ok_iff.mp h
      obtain ⟨helper, hhelper, h⟩ := bind_eq_ok_iff.mp h
      obtain ⟨name, hname, h⟩ := bind_eq_ok_iff.mp h
      obtain ⟨hnamed, rfl⟩ := libfuncName_eq_ok_iff.mp hname
      exact ⟨hnamed, felt, [felt, felt], _,
        .binary (builtinSlot_eq_ok_iff.mp hfelt) (helperFor_eq_ok_iff.mp hhelper), h⟩
    | wrappingAdd builtin =>
      rw [callLibfunc_wrappingAdd] at h
      obtain ⟨slot, hslot, h⟩ := bind_eq_ok_iff.mp h
      obtain ⟨name, hname, h⟩ := bind_eq_ok_iff.mp h
      obtain ⟨hnamed, rfl⟩ := libfuncName_eq_ok_iff.mp hname
      exact ⟨hnamed, slot, [slot, slot], _, .wrappingAdd (builtinSlot_eq_ok_iff.mp hslot), h⟩
  · rintro ⟨hnamed, result, params, body, hreq, h⟩
    have hname : libfuncName d = .ok d.id.name := libfuncName_eq_ok_iff.mpr ⟨hnamed, rfl⟩
    cases hreq with
    | const hfelt hlit hrange =>
      have hvalue := constValue_eq_ok_iff.mpr ⟨_, hlit, hrange, rfl⟩
      rw [callLibfunc_feltConst]
      refine bind_eq_ok_iff.mpr ⟨_, builtinSlot_eq_ok_iff.mpr hfelt, ?_⟩
      refine bind_eq_ok_iff.mpr ⟨_, hvalue, ?_⟩
      exact bind_eq_ok_iff.mpr ⟨_, hname, h⟩
    | binary hfelt hhelper =>
      rw [callLibfunc_feltBinary]
      refine bind_eq_ok_iff.mpr ⟨_, builtinSlot_eq_ok_iff.mpr hfelt, ?_⟩
      refine bind_eq_ok_iff.mpr ⟨_, helperFor_eq_ok_iff.mpr hhelper, ?_⟩
      exact bind_eq_ok_iff.mpr ⟨_, hname, h⟩
    | wrappingAdd hslot =>
      rw [callLibfunc_wrappingAdd]
      refine bind_eq_ok_iff.mpr ⟨_, builtinSlot_eq_ok_iff.mpr hslot, ?_⟩
      exact bind_eq_ok_iff.mpr ⟨_, hname, h⟩

/-- A libfunc declaration is lowered as the libfunc its generic id names. -/
theorem declareLibfunc_eq_ok_iff {c : Compiler} {d : Declaration} {done : Lowered} :
    c.declareLibfunc d = .ok done ↔
      ∃ libfunc, libfunc.Named d.genericId ∧ c.callLibfunc d libfunc = .ok done := by
  unfold declareLibfunc
  rw [bind_eq_ok_iff]
  constructor
  · rintro ⟨name, -, h⟩
    cases hg : Libfunc.ofGeneric? d.genericId with
    | none =>
      rw [addLibfunc_of_none hg] at h
      cases h
    | some libfunc =>
      rw [addLibfunc_of_some hg] at h
      exact ⟨libfunc, ofGeneric?_eq_some_iff.mp hg, h⟩
  · rintro ⟨libfunc, hnamed, h⟩
    have hname := (callLibfunc_eq_ok_iff.mp h).1
    refine ⟨_, libfuncName_eq_ok_iff.mpr ⟨hname, rfl⟩, ?_⟩
    rw [addLibfunc_of_some (ofGeneric?_eq_some_iff.mpr hnamed)]
    exact h

end Compiler
end Lowering
end FeltLowering
