import FeltLowering.Lowering.Program
import FeltLowering.Proofs.Lowering.Calls

/-
The outcome of a lowering, without its journal.

`Compiler.lowerDecls` lowers a program and keeps no journal.  A traced lowering has the
same outcome, unless it is canceled on the way: `lowerProgram_outcome`.  Nothing that is
proved about the compiler below has to look at events.
-/
namespace FeltLowering
namespace Lowering

open Trace

namespace Compiler

def declareEach (declare : Compiler → Declaration → Except LowerError Compiler) :
    (line : Nat) → List Declaration → Compiler → Except LowerError Compiler
  | _, [], c => .ok c
  | line, d :: rest, c =>
    match declare (c.setLine line) d with
    | .error e => .error e
    | .ok c => declareEach declare (line + 1) rest c

def helperIfFelt (line : Nat) (c : Compiler) : Except LowerError Compiler :=
  if (c.registry.lookupName? "felt").isSome then
    (c.setLine line).declareHelper.2.map fun _ => (c.setLine line).declareHelper.1
  else .ok c

def addFunction (c : Compiler) (d : Declaration) : Except LowerError Compiler :=
  (c.declareLibfunc d).map Lowered.compiler

def lowerDecls (c : Compiler) (p : Program) : Except LowerError Compiler :=
  match declareEach declareType 1 p.typeList c with
  | .error e => .error e
  | .ok c =>
    match c.helperIfFelt (p.typeList.length + 1) with
    | .error e => .error e
    | .ok c => declareEach addFunction (p.typeList.length + 1) p.libfuncList c

end Compiler

namespace Progress

/-- What a traced step leaves: its error, or the compiler it arrives at. -/
def result (r : Progress × Except LowerError Unit) : Except LowerError Compiler :=
  r.2.map fun _ => r.1.compiler

theorem result_declareType (s : Progress) (parent : Nat) (d : Declaration) :
    result (s.declareType parent d) = s.compiler.declareType d := by
  unfold Compiler.declareType
  cases hcheck : s.compiler.checkType d with
  | error e =>
    rw [declareType_of_check hcheck]
    rfl
  | ok u =>
    show _ = s.compiler.addType d
    cases hadd : s.compiler.addType d with
    | error e =>
      rw [declareType_of_error hcheck hadd]
      rfl
    | ok c =>
      rw [declareType_of_ok hcheck hadd]
      rfl

theorem result_declareLibfunc (s : Progress) (parent : Nat) (d : Declaration) :
    result (s.declareLibfunc parent d) = s.compiler.addFunction d := by
  unfold Compiler.addFunction Compiler.declareLibfunc
  cases hname : Compiler.libfuncName d with
  | error e =>
    rw [declareLibfunc_of_unnamed hname]
    rfl
  | ok name =>
    show _ = (s.compiler.addLibfunc d).map Compiler.Lowered.compiler
    cases hadd : s.compiler.addLibfunc d with
    | error e =>
      rw [declareLibfunc_of_error hname hadd]
      rfl
    | ok done =>
      rw [declareLibfunc_of_ok hname hadd]
      rfl

theorem result_declareHelper (s : Progress) (parent : Nat) :
    result ((s.declareHelper parent).1, (s.declareHelper parent).2.map fun _ => ()) =
      s.compiler.declareHelper.2.map fun _ => s.compiler.declareHelper.1 := by
  match hrun : s.compiler.declareHelper with
  | (c, .error e) =>
    rw [declareHelper_of_error hrun]
    rfl
  | (c, .ok (h, none)) =>
    rw [declareHelper_of_none hrun]
    rfl
  | (c, .ok (h, some f)) =>
    rw [declareHelper_of_some hrun]
    rfl

theorem result_helperIfFelt (s : Progress) (line parent : Nat) :
    result (s.helperIfFelt line parent) = s.compiler.helperIfFelt line := by
  unfold helperIfFelt Compiler.helperIfFelt
  split
  · exact result_declareHelper (s.setLine line) parent
  · rfl

/-- The traced outcome is the plain one, unless the run is canceled. -/
def EndsLike (env : Environment) (traced plain : Except LowerError Compiler) : Prop :=
  traced = plain ∨ (∃ j, env.canceled j = true) ∧ traced = .error .canceled

theorem result_pass {env : Environment} {plain : Except LowerError Compiler} (s : Progress)
    (name : Text) (parent : Nat) {work : Nat → Progress → Progress × Except LowerError Unit}
    (h : ∀ span journal, EndsLike env (result (work span { s with journal })) plain) :
    EndsLike env (result (s.pass name parent work)) plain :=
  h _ _

/-- A run of traced declarations ends like the run without a journal. -/
theorem result_declareAll (env : Environment)
    {declare : Progress → Declaration → Progress × Except LowerError Unit}
    {declare' : Compiler → Declaration → Except LowerError Compiler}
    (h : ∀ s d, result (declare s d) = declare' s.compiler d)
    (line : Nat) (ds : List Declaration) (s : Progress) :
    EndsLike env (result (s.declareAll env declare line ds))
      (Compiler.declareEach declare' line ds s.compiler) := by
  induction ds generalizing line s with
  | nil => exact Or.inl rfl
  | cons d rest ih =>
    unfold declareAll Compiler.declareEach
    by_cases hc : env.canceled s.journal = true
    · rw [if_pos hc]
      exact Or.inr ⟨⟨_, hc⟩, rfl⟩
    · rw [if_neg hc]
      have hd : result (declare (s.setLine line) d) = declare' (s.compiler.setLine line) d :=
        h (s.setLine line) d
      rw [← hd]
      match declare (s.setLine line) d with
      | (s, .error e) => exact Or.inl rfl
      | (s, .ok ()) => exact ih (line + 1) s

theorem EndsLike.bind {env : Environment} (r : Progress × Except LowerError Unit)
    (plain : Except LowerError Compiler) (next : Progress → Progress × Except LowerError Unit)
    (next' : Compiler → Except LowerError Compiler) :
    EndsLike env (result r) plain → (∀ s, EndsLike env (result (next s)) (next' s.compiler)) →
    EndsLike env (result (match r with | (s, .error e) => (s, .error e) | (s, .ok ()) => next s))
      (match plain with | .error e => .error e | .ok c => next' c) := by
  intro h hnext
  obtain ⟨s, outcome⟩ := r
  rcases h with h | h
  · subst h
    cases outcome with
    | error e => exact Or.inl rfl
    | ok u => exact hnext s
  · cases outcome with
    | error e => exact Or.inr h
    | ok u => exact absurd h.2 (by simp [result, Except.map])

theorem result_lowerDecls (env : Environment) (p : Program) (parent : Nat) (s : Progress) :
    EndsLike env (result (s.lowerDecls env p parent)) (s.compiler.lowerDecls p) := by
  unfold lowerDecls Compiler.lowerDecls
  refine EndsLike.bind _ _ _ _ ?_ fun s => EndsLike.bind _ _ _ _ ?_ fun s => ?_
  · exact result_pass s _ _ fun span journal =>
      result_declareAll env (fun s d => result_declareType s span d) _ _ _
  · exact result_pass s _ _ fun span journal => Or.inl (result_helperIfFelt _ _ span)
  · exact result_pass s _ _ fun span journal =>
      result_declareAll env (fun s d => result_declareLibfunc s span d) _ _ _

end Progress

/-- A lowering ends like the lowering without a journal, or is canceled. -/
theorem lowerProgram_outcome (env : Environment) (journal : Journal) (p : Program) (o : Options) :
    Progress.EndsLike env (lowerProgram env journal p o).2 ((Compiler.new o).lowerDecls p) := by
  unfold lowerProgram
  obtain ⟨span, journal⟩ := journal.begin .driver "lower" env.span
  have h := Progress.result_lowerDecls env p span.id { compiler := .new o, journal }
  simp only
  match hr : Progress.lowerDecls env p span.id { compiler := .new o, journal } with
  | (s, .error e) =>
    rw [hr] at h
    exact h
  | (s, .ok ()) =>
    rw [hr] at h
    exact h

/-- Without cancellation the outcome depends on the program and the options only. -/
theorem lowerProgram_eq (span : Nat) (journal : Journal) (p : Program) (o : Options) :
    (lowerProgram { span } journal p o).2 = (Compiler.new o).lowerDecls p := by
  rcases lowerProgram_outcome { span } journal p o with h | ⟨⟨j, hj⟩, -⟩
  · exact h
  · exact absurd hj (by simp)

theorem lowerDecls_of_lowerProgram {env : Environment} {journal : Journal} {p : Program}
    {o : Options} {c : Compiler} (h : (lowerProgram env journal p o).2 = .ok c) :
    (Compiler.new o).lowerDecls p = .ok c := by
  rcases lowerProgram_outcome env journal p o with he | ⟨-, he⟩
  · rw [← he, h]
  · rw [h] at he
    cases he

end Lowering
end FeltLowering
