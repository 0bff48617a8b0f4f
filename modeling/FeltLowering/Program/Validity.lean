import FeltLowering.Program

/-
Structural validity.

The checks need nothing but the program: ids are unique among the declarations of one
kind, generic ids are present and every generic argument carries exactly one payload.
Every problem is reported, in program order.
-/
namespace FeltLowering

/-- The two kinds of declaration, which number their ids apart. -/
inductive DeclKind where
  | type
  | libfunc
  deriving DecidableEq, Repr

def DeclKind.text : DeclKind → Text
  | .type => "type"
  | .libfunc => "libfunc"

inductive Fault where
  /-- An earlier declaration of the kind has the id. -/
  | duplicateId
  | missingGenericId
  /-- The generic argument at the index has no payload or several. -/
  | payload (index : Nat)
  deriving DecidableEq, Repr

structure Problem where
  kind : DeclKind
  id : Ident
  fault : Fault
  deriving DecidableEq, Repr

namespace Problem

def message (p : Problem) : Text :=
  p.kind.text ++ " " ++ p.id.label ++ ": " ++
    match p.fault with
    | .duplicateId => "duplicate id " ++ p.id.key
    | .missingGenericId => "missing generic id"
    | .payload i =>
      "generic arg " ++ Text.ofNat i ++ " must carry exactly one payload"

end Problem

namespace Declaration

/-- The faults of a declaration that stands behind declarations with the ids `seen`. -/
def faults (seen : List UInt64) (d : Declaration) : List Fault :=
  (if seen.contains d.id.id then [Fault.duplicateId] else []) ++
    (if d.genericId.isEmpty then [Fault.missingGenericId] else []) ++
    (d.argList.zipIdx.filter fun (a, _) => a.kind = .invalid).map fun (_, i) => Fault.payload i

def problems (kind : DeclKind) (seen : List UInt64) : List Declaration → List Problem
  | [] => []
  | d :: rest =>
    (d.faults seen).map (Problem.mk kind d.id) ++ problems kind (d.id.id :: seen) rest

end Declaration

namespace Program

def problems (p : Program) : List Problem :=
  Declaration.problems .type [] p.typeList ++ Declaration.problems .libfunc [] p.libfuncList

def IsValid (p : Program) : Prop := p.problems = []

instance (p : Program) : Decidable p.IsValid := inferInstanceAs (Decidable (p.problems = []))

def problemsMessage (ps : List Problem) : Text := Text.join "\n" (ps.map Problem.message)

end Program
end FeltLowering
