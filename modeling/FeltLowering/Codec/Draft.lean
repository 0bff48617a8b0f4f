import FeltLowering.Program

/-
Programs under reading.

A field that a file gives twice is read over what it held before: the fields of a
record are replaced one by one, and a list is read over the entries of the list before
it.  Entries that a shorter list cut off are kept behind it, and a longer list that
follows is read over them again.
-/
namespace FeltLowering

/-- A list under reading: the entries in use, and behind them entries of longer lists
read before. -/
structure Slots (α : Type) where
  used : List α
  spare : List α

namespace Slots

def empty {α : Type} : Slots α := ⟨[], []⟩

def all {α : Type} (s : Slots α) : List α := s.used ++ s.spare

/-- A list of `used` entries read over `s`. -/
def refill {α : Type} (s : Slots α) (used : List α) : Slots α := ⟨used, s.all.drop used.length⟩

end Slots

/-- Reads each of `vs` over the entry of `old` at its place; the entries of a list that
is too short are `zero`. -/
def readOver {α β : Type} (zero : α) (read : α → β → Option α) : (old : List α) → (vs : List β) →
    Option (List α)
  | _, [] => some []
  | [], v :: vs => do
    let x ← read zero v
    let xs ← readOver zero read [] vs
    return x :: xs
  | o :: old, v :: vs => do
    let x ← read o v
    let xs ← readOver zero read old vs
    return x :: xs

structure DeclarationDraft where
  id : Ident := ⟨0, []⟩
  genericId : Text := []
  args : Option (Slots GenericArg) := none

structure ProgramDraft where
  types : Option (Slots DeclarationDraft) := none
  libfuncs : Option (Slots DeclarationDraft) := none

def DeclarationDraft.finish (d : DeclarationDraft) : Declaration :=
  ⟨d.id, d.genericId, d.args.map Slots.used⟩

def ProgramDraft.finish (p : ProgramDraft) : Program :=
  ⟨p.types.map (·.used.map DeclarationDraft.finish), p.libfuncs.map (·.used.map DeclarationDraft.finish)⟩

end FeltLowering
