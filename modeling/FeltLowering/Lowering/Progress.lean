import FeltLowering.Lowering.Declare
import FeltLowering.Trace.Journal

/-
Traced steps.

Every step of a compiler is noted in a journal: a declaration once its first checks have
passed, a function once it has been lowered.  The compiler itself never looks at the
journal.
-/
namespace FeltLowering
namespace Lowering

open Trace

structure Progress where
  compiler : Compiler
  journal : Journal := {}
  deriving DecidableEq, Repr

namespace Progress

def note (s : Progress) (scope : Scope) (name detail : Text) (parent : Nat) : Progress :=
  { s with journal := s.journal.point scope name detail parent }

def noteFunction (s : Progress) (parent : Nat) (f : Summary) : Progress :=
  s.note .instr f.name (f.kind.text ++ " body, " ++ Text.ofNat f.size ++ " instructions") parent

/-- Makes a call and goes on with the compiler it leaves, also if it fails. -/
def make {α : Type} (s : Progress) (call : Call α) : Progress × Except LowerError α :=
  match call.run s.compiler with
  | .ok a compiler => ({ s with compiler }, .ok a)
  | .error e compiler => ({ s with compiler }, .error e)

def perform (s : Progress) (parent : Nat) (call : Call Summary) : Progress × Except LowerError Unit :=
  match s.make call with
  | (s, .error e) => (s, .error e)
  | (s, .ok f) => (s.noteFunction parent f, .ok ())

def declareType (s : Progress) (parent : Nat) (d : Declaration) : Progress × Except LowerError Unit :=
  match s.make (Call.check fun c => c.checkType d) with
  | (s, .error e) => (s, .error e)
  | (s, .ok ()) => (s.note .decl (typeLabel d) d.genericId parent).make (Call.addType d)

def declareHelper (s : Progress) (parent : Nat) : Progress × Except LowerError Helper :=
  match s.make Call.declareHelper with
  | (s, .error e) => (s, .error e)
  | (s, .ok (h, none)) => (s, .ok h)
  | (s, .ok (h, some f)) => (s.noteFunction parent f, .ok h)

def declareLibfunc (s : Progress) (parent : Nat) (d : Declaration) :
    Progress × Except LowerError Unit :=
  match s.make (Call.check fun _ => Compiler.libfuncName d) with
  | (s, .error e) => (s, .error e)
  | (s, .ok _) =>
    (s.note .decl (libfuncLabel d) d.genericId parent).perform parent (Call.addLibfunc d)

end Progress
end Lowering
end FeltLowering
