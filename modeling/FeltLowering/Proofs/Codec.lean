import FeltLowering.Codec

/-
Reading back what was written.

A declaration whose list of arguments is empty is written as one that has none, so it
reads back without the list.  Nothing else of a program is lost, and its problems are the
same.
-/
namespace FeltLowering

namespace Declaration

/-- The declaration with an empty list of arguments left out. -/
def withoutEmptyArgs (d : Declaration) : Declaration :=
  { d with args := if d.argList = [] then none else d.args }

theorem argList_withoutEmptyArgs (d : Declaration) : d.withoutEmptyArgs.argList = d.argList := by
  by_cases h : d.argList = []
  · rw [withoutEmptyArgs, if_pos h, h]
    rfl
  · rw [withoutEmptyArgs, if_neg h]

theorem faults_withoutEmptyArgs (seen : List UInt64) (d : Declaration) :
    d.withoutEmptyArgs.faults seen = d.faults seen := by
  rw [faults, argList_withoutEmptyArgs]
  rfl

theorem problems_withoutEmptyArgs (kind : DeclKind) (seen : List UInt64) (ds : List Declaration) :
    problems kind seen (ds.map withoutEmptyArgs) = problems kind seen ds := by
  induction ds generalizing seen with
  | nil => rfl
  | cons d ds ih =>
    rw [List.map_cons, problems, problems, faults_withoutEmptyArgs]
    exact congrArg _ (ih _)

/-- What a reader makes of the declaration, read for the first time. -/
def draft (d : Declaration) : DeclarationDraft where
  id := d.id
  genericId := d.genericId
  args := if d.argList = [] then none else some ⟨d.argList, []⟩

theorem finish_draft (d : Declaration) : d.draft.finish = d.withoutEmptyArgs := by
  obtain ⟨id, genericId, args⟩ := d
  rcases args with _ | _ | ⟨a, args⟩ <;> rfl

def drafts (ds : Option (List Declaration)) : Option (Slots DeclarationDraft) :=
  ds.map fun ds => ⟨ds.map draft, []⟩

theorem finish_drafts (ds : Option (List Declaration)) :
    (drafts ds).map (·.used.map DeclarationDraft.finish) = ds.map (·.map withoutEmptyArgs) := by
  cases ds with
  | none => rfl
  | some ds =>
    show some ((ds.map draft).map DeclarationDraft.finish) = some (ds.map withoutEmptyArgs)
    rw [List.map_map]
    exact congrArg some (List.map_congr_left fun d _ => finish_draft d)

end Declaration

namespace Program

/-- The program with empty lists of arguments left out.  Empty lists of declarations
stay. -/
def withoutEmptyArgs (p : Program) : Program where
  types := p.types.map (·.map Declaration.withoutEmptyArgs)
  libfuncs := p.libfuncs.map (·.map Declaration.withoutEmptyArgs)

theorem getD_map_withoutEmptyArgs (ds : Option (List Declaration)) :
    (ds.map (·.map Declaration.withoutEmptyArgs)).getD [] = (ds.getD []).map Declaration.withoutEmptyArgs := by
  cases ds <;> rfl

theorem typeList_withoutEmptyArgs (p : Program) :
    p.withoutEmptyArgs.typeList = p.typeList.map Declaration.withoutEmptyArgs :=
  getD_map_withoutEmptyArgs p.types

theorem libfuncList_withoutEmptyArgs (p : Program) :
    p.withoutEmptyArgs.libfuncList = p.libfuncList.map Declaration.withoutEmptyArgs :=
  getD_map_withoutEmptyArgs p.libfuncs

theorem problems_withoutEmptyArgs (p : Program) : p.withoutEmptyArgs.problems = p.problems := by
  rw [problems, problems, typeList_withoutEmptyArgs, libfuncList_withoutEmptyArgs,
    Declaration.problems_withoutEmptyArgs, Declaration.problems_withoutEmptyArgs]

def draft (p : Program) : ProgramDraft where
  types := Declaration.drafts p.types
  libfuncs := Declaration.drafts p.libfuncs

theorem finish_draft (p : Program) : p.draft.finish = p.withoutEmptyArgs := by
  rw [ProgramDraft.finish, draft, Declaration.finish_drafts, Declaration.finish_drafts]
  rfl

end Program

namespace Codec

theorem parse?_of_encode_decode {f : Format} {p q : Program} {data : Text}
    (hencode : encode (some f) (some p) = .ok data)
    (h : (encode (some f) (some p) >>= decode (some f)) = .ok q) : parse? f data = some q := by
  rw [hencode] at h
  have hdecode : decode (some f) data = .ok q := h
  simp only [decode] at hdecode
  split at hdecode
  · cases hdecode
  · next r hparse =>
    split at hdecode
    · cases hdecode
      exact hparse
    · cases hdecode

/-- A valid program is read back if its written form reads as the program. -/
theorem decode_encode {f : Format} {p : Program} {data : Text}
    (hencode : encode (some f) (some p) = .ok data)
    (hparse : parse? f data = some p.withoutEmptyArgs) (hvalid : p.IsValid) :
    (encode (some f) (some p) >>= decode (some f)) = .ok p.withoutEmptyArgs := by
  have hproblems : p.withoutEmptyArgs.problems = [] := p.problems_withoutEmptyArgs.trans hvalid
  have hdecode : decode (some f) data = .ok p.withoutEmptyArgs := by
    simp only [decode, hparse, hproblems, if_true]
  rw [hencode]
  exact hdecode

end Codec
end FeltLowering
