import FeltLowering.Lowering.Declare
import FeltLowering.Proofs.Decimal

/-
Declarations by what they declare.

The predicates of this file read a declaration off its texts: which scalar or wrapper a
type declaration stands for, and which constant or operation a libfunc declaration stands
for.  Each is tied to the look-up the compiler dispatches with.
-/
namespace FeltLowering

open Lowering

def intWidths : List Nat := [8, 16, 32, 64, 128]

def intName (w : Nat) : Text := "u" ++ Text.ofNat w

def Lowering.FieldOp.word : FieldOp → Text
  | .add => "add"
  | .sub => "sub"
  | .mul => "mul"

theorem intName_inj : ∀ w ∈ intWidths, ∀ v ∈ intWidths, intName w = intName v → w = v := by
  decide

namespace Declaration

def IsFelt (d : Declaration) : Prop :=
  d.genericId = Text.ofString "felt" ∨ d.genericId = Text.ofString "felt252"

def IsInt (d : Declaration) (w : Nat) : Prop := w ∈ intWidths ∧ d.genericId = intName w

/-- A wrapper with one generic argument, the type `inner`. -/
def Wraps (d : Declaration) (inner : Ident) : Prop :=
  d.genericId = Text.ofString "NonZero" ∧
    ∃ arg, d.argList = [arg] ∧ arg.kind = .type ∧ arg.type = some inner

/-- A generic id in either spelling of the field element type. -/
def IsFieldLibfunc (d : Declaration) (word : Text) : Prop :=
  d.genericId = "felt_" ++ word ∨ d.genericId = "felt252_" ++ word

/-- The only generic argument is a literal of the integer `v`, blanks around it aside. -/
def HasLiteral (d : Declaration) (v : Int) : Prop :=
  ∃ arg t, d.argList = [arg] ∧ arg.kind = .value ∧ arg.value = some t ∧ Decimal.Denotes t.trim v

def IsConst (d : Declaration) (v : Int) : Prop := d.IsFieldLibfunc "const" ∧ d.HasLiteral v

def IsFieldOp (d : Declaration) (op : FieldOp) : Prop := d.IsFieldLibfunc op.word

def IsWrappingAdd (d : Declaration) (w : Nat) : Prop :=
  w ∈ intWidths ∧ d.genericId = intName w ++ "_wrapping_add"

end Declaration

namespace Lowering

theorem intWidth?_eq_some_iff {generic : Text} {w : Nat} :
    intWidth? generic = some w ↔ w ∈ intWidths ∧ generic = intName w := by
  constructor
  · intro h
    have hp := List.find?_some h
    exact ⟨List.mem_of_find?_eq_some h, of_decide_eq_true hp⟩
  · rintro ⟨hw, rfl⟩
    have hall : ∀ w ∈ intWidths, intWidth? (intName w) = some w := by decide
    exact hall w hw

namespace Compiler

def Libfunc.Named (generic : Text) : Libfunc → Prop
  | .feltConst => generic = "felt_" ++ Text.ofString "const" ∨ generic = "felt252_" ++ Text.ofString "const"
  | .feltBinary op => generic = "felt_" ++ op.word ∨ generic = "felt252_" ++ op.word
  | .wrappingAdd builtin =>
    ∃ w ∈ intWidths, builtin = intName w ∧ generic = intName w ++ "_wrapping_add"

/-- The dispatch finds a libfunc exactly under its generic ids. -/
theorem ofGeneric?_eq_some_iff {generic : Text} {libfunc : Libfunc} :
    Libfunc.ofGeneric? generic = some libfunc ↔ libfunc.Named generic := by
  constructor
  · intro h
    simp only [Libfunc.ofGeneric?, Bool.or_eq_true, decide_eq_true_eq] at h
    split at h
    · next hc => cases h; exact hc
    split at h
    · next hc => cases h; exact hc
    split at h
    · next hc => cases h; exact hc
    split at h
    · next hc => cases h; exact hc
    split at h
    · next hsuffix =>
      obtain ⟨w, hw, h⟩ := Option.map_eq_some_iff.mp h
      cases h
      obtain ⟨hmem, htake⟩ := intWidth?_eq_some_iff.mp hw
      refine ⟨w, hmem, htake, ?_⟩
      obtain ⟨front, rfl⟩ := List.isSuffixOf_iff_suffix.mp hsuffix
      rw [List.length_append, Nat.add_sub_cancel, List.take_left] at htake
      rw [htake]
    · cases h
  · intro h
    match libfunc, h with
    | .feltConst, .inl h => rw [h]; decide
    | .feltConst, .inr h => rw [h]; decide
    | .feltBinary op, .inl h => rw [h]; cases op <;> decide
    | .feltBinary op, .inr h => rw [h]; cases op <;> decide
    | .wrappingAdd builtin, ⟨w, hw, hb, hg⟩ =>
      have hall : ∀ w ∈ intWidths,
          Libfunc.ofGeneric? (intName w ++ "_wrapping_add") = some (.wrappingAdd (intName w)) := by
        decide
      rw [hb, hg]
      exact hall w hw

/-- A generic id names at most one libfunc. -/
theorem Libfunc.named_unique {generic : Text} {l l' : Libfunc} (h : l.Named generic)
    (h' : l'.Named generic) : l = l' :=
  Option.some.inj ((ofGeneric?_eq_some_iff.mpr h).symm.trans (ofGeneric?_eq_some_iff.mpr h'))

end Compiler
end Lowering

/-! ## What a declaration stands for is unique -/

namespace Declaration

open Lowering.Compiler

variable {d : Declaration}

theorem IsConst.named {v : Int} (h : d.IsConst v) : Libfunc.Named d.genericId .feltConst := h.1

theorem IsFieldOp.named {op : FieldOp} (h : d.IsFieldOp op) :
    Libfunc.Named d.genericId (.feltBinary op) := h

theorem IsWrappingAdd.named {w : Nat} (h : d.IsWrappingAdd w) :
    Libfunc.Named d.genericId (.wrappingAdd (intName w)) := ⟨w, h.1, rfl, h.2⟩

theorem IsConst.unique {v v' : Int} (h : d.IsConst v) (h' : d.IsConst v') : v = v' := by
  obtain ⟨-, arg, t, hargs, -, hvalue, hv⟩ := h
  obtain ⟨-, arg', t', hargs', -, hvalue', hv'⟩ := h'
  rw [hargs, List.cons.injEq] at hargs'
  obtain ⟨rfl, -⟩ := hargs'
  rw [hvalue] at hvalue'
  cases hvalue'
  exact Option.some.inj ((Decimal.parse?_eq_some_iff.mpr hv).symm.trans
    (Decimal.parse?_eq_some_iff.mpr hv'))

theorem IsFieldOp.unique {op op' : FieldOp} (h : d.IsFieldOp op) (h' : d.IsFieldOp op') :
    op = op' :=
  Libfunc.feltBinary.inj (Libfunc.named_unique h.named h'.named)

theorem IsWrappingAdd.unique {w w' : Nat} (h : d.IsWrappingAdd w) (h' : d.IsWrappingAdd w') :
    w = w' := by
  have hname := Libfunc.wrappingAdd.inj (Libfunc.named_unique h.named h'.named)
  exact intName_inj w h.1 w' h'.1 hname

end Declaration
end FeltLowering
