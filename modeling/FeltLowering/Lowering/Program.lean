import FeltLowering.Lowering.Progress

/-
Lowering of a whole program.

Types are declared first, in program order; the reduction helper follows if a felt type
exists; libfuncs come last.  The first error stops everything.  Every declaration counts
as one source line, types first.
-/
namespace FeltLowering
namespace Lowering

open Trace

/-- What a lowering is run under: the span it belongs to, and whether it has been
canceled by the time the journal has come this far. -/
structure Environment where
  span : Nat := 0
  canceled : Journal → Bool := fun _ => false

namespace Progress

def setLine (s : Progress) (line : Int) : Progress :=
  { s with compiler := s.compiler.setLine line }

/-- Declares in order, one line each, and stops at the first error. -/
def declareAll (env : Environment)
    (declare : Progress → Declaration → Progress × Except LowerError Unit) :
    (line : Nat) → List Declaration → Progress → Progress × Except LowerError Unit
  | _, [], s => (s, .ok ())
  | line, d :: rest, s =>
    if env.canceled s.journal then (s, .error .canceled)
    else
      match declare (s.setLine line) d with
      | (s, .error e) => (s, .error e)
      | (s, .ok ()) => declareAll env declare (line + 1) rest s

def outcome : Except LowerError Unit → Text
  | .ok () => []
  | .error .canceled => "canceled"
  | .error _ => "failed"

def pass (s : Progress) (name : Text) (parent : Nat)
    (work : Nat → Progress → Progress × Except LowerError Unit) :
    Progress × Except LowerError Unit :=
  let (span, journal) := s.journal.begin .pass name parent
  let (s, result) := work span.id { s with journal }
  ({ s with journal := s.journal.finish span (outcome result) }, result)

/-- Declares the helper on a line of its own, if there is a felt type. -/
def helperIfFelt (line : Nat) (parent : Nat) (s : Progress) : Progress × Except LowerError Unit :=
  if (s.compiler.registry.lookupName? "felt").isSome then
    let (s, result) := (s.setLine line).declareHelper parent
    (s, result.map fun _ => ())
  else (s, .ok ())

def lowerDecls (env : Environment) (p : Program) (parent : Nat) (s : Progress) :
    Progress × Except LowerError Unit :=
  let next := p.typeList.length + 1
  match s.pass "types" parent fun span s =>
      s.declareAll env (fun s d => s.declareType span d) 1 p.typeList with
  | (s, .error e) => (s, .error e)
  | (s, .ok ()) =>
    match s.pass "helpers" parent fun span s => s.helperIfFelt next span with
    | (s, .error e) => (s, .error e)
    | (s, .ok ()) =>
      s.pass "libfuncs" parent fun span s =>
        s.declareAll env (fun s d => s.declareLibfunc span d) next p.libfuncList

end Progress

def lowerProgram (env : Environment) (journal : Journal) (p : Program) (o : Options) :
    Journal × Except LowerError Compiler :=
  let (root, journal) := journal.begin .driver "lower" env.span
  match Progress.lowerDecls env p root.id { compiler := .new o, journal } with
  | (s, .error e) =>
    ((s.journal.point .error "lower" e.message root.id).finish root "failed", .error e)
  | (s, .ok ()) =>
    let (root, journal) := s.journal.annotate root "types" (Text.ofNat p.typeList.length)
    let (root, journal) :=
      journal.annotate root "functions" (Text.ofNat s.compiler.module.listed.length)
    (journal.finish root [], .ok s.compiler)

def lowerProgram? (env : Environment) (journal : Journal) (p : Option Program) (o : Options) :
    Journal × Except LowerError Compiler :=
  match p with
  | some p => lowerProgram env journal p o
  | none => (journal, .error .noProgram)

end Lowering
end FeltLowering
