import FeltLowering.Proofs.Lowering.Code
import FeltLowering.Proofs.Lowering.Declaration
import Mathlib.Data.List.Forall2

/-
The programs that can be lowered, and the functions they become.

Everything here is read off the declarations; no compiler is run.  The order of types
matters, because a wrapper refers to an earlier type.  The order of libfuncs does not
matter to whether a program is accepted, and it is the order of the functions.
-/
namespace FeltLowering

open Ir Lowering

namespace Declaration

instance (d : Declaration) : Decidable d.IsFelt :=
  inferInstanceAs (Decidable (d.genericId = _ ∨ d.genericId = _))

/-- The builtin a scalar type declaration is known by. -/
def Names (d : Declaration) (builtin : Text) : Prop :=
  (builtin = Text.ofString "felt" ∧ d.IsFelt) ∨ ∃ w, builtin = intName w ∧ d.IsInt w

/-- A scalar, or a wrapper of one of the earlier types. -/
def TypeAfter (earlier : List Declaration) (d : Declaration) : Prop :=
  d.IsFelt ∨ (∃ w, d.IsInt w) ∨ ∃ inner, d.Wraps inner ∧ ∃ e ∈ earlier, e.id.id = inner.id

/-- A constant within range, a field operation or a wrapping sum, with the type it works on
among the given ones. -/
def LibfuncOver (types : List Declaration) (d : Declaration) : Prop :=
  ((∃ e ∈ types, e.IsFelt) ∧
      ((∃ v, d.IsConst v ∧ v.natAbs < Felt.prime) ∨ ∃ op, d.IsFieldOp op)) ∨
    ∃ w, d.IsWrappingAdd w ∧ ∃ e ∈ types, e.IsInt w

end Declaration

def Lowering.reduction : Function :=
  (Code.reduce Felt.wideWidth Felt.width).function helperName (.int Felt.width) [.int Felt.wideWidth]

/-- A libfunc declaration and its function, in a module that starts with the helper. -/
inductive Declaration.LowersTo (d : Declaration) : Function → Prop
  | const {v : Int} (h : d.IsConst v) :
      LowersTo d (Code.function ⟨[], .int Felt.width, .const Felt.width (v % Felt.prime)⟩ d.id.name
        (.int Felt.width) [])
  | field {op : FieldOp} (h : d.IsFieldOp op) :
      LowersTo d ((Code.field op ⟨0⟩).function d.id.name (.int Felt.width)
        [.int Felt.width, .int Felt.width])
  | wrappingAdd {w : Nat} (h : d.IsWrappingAdd w) :
      LowersTo d (Code.function
        ⟨[.binary "res" .add (.int w) (.param 0) (.param 1)], .int w, .inst 0⟩ d.id.name (.int w)
        [.int w, .int w])

namespace Program

def HasFelt (p : Program) : Prop := ∃ d ∈ p.typeList, d.IsFelt

instance (p : Program) : Decidable p.HasFelt :=
  inferInstanceAs (Decidable (∃ d ∈ p.typeList, d.IsFelt))

/-- The conditions under which a program is lowered, with or without debug info. -/
structure Accepted (p : Program) (debugInfo : Bool) : Prop where
  ids : (p.typeList.map fun d => d.id.id).Nodup
  types : ∀ before d after, p.typeList = before ++ d :: after → d.TypeAfter before
  typeNames : debugInfo = true → ∀ d ∈ p.typeList, d.id.debugName ≠ []
  libfuncs : ∀ d ∈ p.libfuncList, d.id.debugName ≠ [] ∧ d.LibfuncOver p.typeList
  names : (p.libfuncList.map fun d => d.id.name).Nodup
  helper : p.HasFelt → ∀ d ∈ p.libfuncList, d.id.name ≠ helperName

/-- The functions of a program: the helper first, if there is a felt type, and then one for
each libfunc. -/
def LowersTo (p : Program) (fs : List Function) : Prop :=
  ∃ rest, List.Forall₂ Declaration.LowersTo p.libfuncList rest ∧
    fs = (if p.HasFelt then [reduction] else []) ++ rest

end Program

/-! ## The builtin of a scalar -/

theorem intName_ne : ∀ w ∈ intWidths, intName w ≠ Text.ofString "felt" ∧
    intName w ≠ Text.ofString "felt252" ∧ intName w ≠ Text.ofString "NonZero" := by decide

namespace Declaration

variable {d : Declaration} {g : Text}

theorem not_isInt_of_isFelt (h : d.IsFelt) (w : Nat) : ¬ d.IsInt w := by
  rintro ⟨hw, hid⟩
  obtain ⟨hne, hne', -⟩ := intName_ne w hw
  rcases h with h | h
  · exact hne (hid.symm.trans h)
  · exact hne' (hid.symm.trans h)

theorem names_felt_iff : d.Names (Text.ofString "felt") ↔ d.IsFelt := by
  constructor
  · rintro (⟨-, h⟩ | ⟨w, hname, hw, -⟩)
    · exact h
    · exact absurd hname.symm (intName_ne w hw).1
  · exact fun h => Or.inl ⟨rfl, h⟩

theorem names_intName_iff {w : Nat} (hw : w ∈ intWidths) : d.Names (intName w) ↔ d.IsInt w := by
  constructor
  · rintro (⟨hname, -⟩ | ⟨w', hname, -, hid⟩)
    · exact absurd hname (intName_ne w hw).1
    · exact ⟨hw, hid.trans hname.symm⟩
  · exact fun h => Or.inr ⟨w, rfl, h⟩

theorem IsFelt.names_iff (h : d.IsFelt) : d.Names g ↔ g = Text.ofString "felt" := by
  constructor
  · rintro (⟨hg, -⟩ | ⟨w, -, hint⟩)
    · exact hg
    · exact absurd hint (not_isInt_of_isFelt h w)
  · exact fun hg => Or.inl ⟨hg, h⟩

theorem IsInt.names_iff {w : Nat} (h : d.IsInt w) : d.Names g ↔ g = intName w := by
  constructor
  · rintro (⟨-, hfelt⟩ | ⟨w', hg, -, hid⟩)
    · exact absurd h (not_isInt_of_isFelt hfelt w)
    · rw [hg, ← hid, h.2]
  · exact fun hg => Or.inr ⟨w, hg, h⟩

theorem Wraps.not_names {inner : Ident} (h : d.Wraps inner) : ¬ d.Names g := by
  have hne : Text.ofString "NonZero" ≠ Text.ofString "felt" ∧
      Text.ofString "NonZero" ≠ Text.ofString "felt252" := by decide
  rintro (⟨-, hfelt | hfelt⟩ | ⟨w, -, hw, hid⟩)
  · exact hne.1 (h.1.symm.trans hfelt)
  · exact hne.2 (h.1.symm.trans hfelt)
  · exact (intName_ne w hw).2.2 (hid.symm.trans h.1)

end Declaration

/-! ## The functions of a program -/

theorem Lowering.Code.function_bare {code : Code} (h : code.insts.map Inst.bare = code.insts)
    (name : Text) (result : Ty) (params : List Ty) :
    (code.function name result params).bare = code.function name result params := by
  simp only [Function.bare, Code.function, List.map_cons, List.map_nil, Block.bare, h]

theorem Lowering.reduction_bare : reduction.bare = reduction := Code.function_bare rfl _ _ _

namespace Declaration.LowersTo

variable {d : Declaration} {f : Function}

theorem name (h : d.LowersTo f) : f.name = d.id.name := by
  cases h <;> rfl

theorem bare (h : d.LowersTo f) : f.bare = f := by
  cases h with
  | const h => exact Code.function_bare rfl _ _ _
  | @field op h => cases op <;> exact Code.function_bare rfl _ _ _
  | wrappingAdd h => exact Code.function_bare rfl _ _ _

end Declaration.LowersTo

theorem names_of_forall₂ {ds : List Declaration} {fs : List Function}
    (h : List.Forall₂ Declaration.LowersTo ds fs) :
    fs.map Function.name = ds.map fun d => d.id.name := by
  induction h with
  | nil => rfl
  | cons hf _ ih => rw [List.map_cons, List.map_cons, hf.name, ih]

end FeltLowering
