import FeltLowering.Proofs.Lowering.Invariant

/-
Calls of a compiler with arguments of the caller's own making.

An `Operation` looks its slots up in the registry and takes the helper of the compiler it
is made on.  A lowering asks for neither: a `Request` hands it any slots and any body,
also one that names a helper of some other compiler.  What holds after every sequence of
requests holds after every sequence of operations.

A session goes on whatever a call is answered with; `answer` is that answer, beside the
session that `serve` goes on with.

Some facts need the slots to be those the registry answers with at the time of the call,
however the caller came by them.  `Session.Registered` says so of a whole sequence, and
`serveAll_induction` carries such a fact along; `serveAll_preserves` is for the others.
-/
namespace FeltLowering
namespace Lowering

open Ir

inductive Request where
  | operation (op : Operation)
  | lower (name : Text) (result : Slot) (params : List Slot) (body : Body)

/-- The slots of a lowering are those of the registry. -/
def Request.Registered (r : Registry) : Request → Prop
  | .operation _ => True
  | .lower _ result params _ => ∀ s ∈ result :: params, r.Holds s

namespace Session

def serve (s : Session) : Request → Session
  | .operation op => s.step op
  | .lower name result params body =>
    { s with
      progress := (s.progress.perform s.span (Call.lower name result params body)).1 }

def serveAll (s : Session) (requests : List Request) : Session := requests.foldl serve s

/-- The answer to a call.  Where the registry has no slot to lower with, no call is made. -/
def answer (s : Session) : Request → Except LowerError Unit
  | .operation (.setLine _) => .ok ()
  | .operation (.setTracer _ _) => .ok ()
  | .operation (.declareType d) => (s.progress.declareType s.span d).2
  | .operation .declareHelper => (s.progress.declareHelper s.span).2.map fun _ => ()
  | .operation (.declareLibfunc d) => (s.progress.declareLibfunc s.span d).2
  | .operation (.callLibfunc libfunc d) =>
    (s.progress.perform s.span (Call.libfunc d libfunc)).2
  | .operation (.lower name result params body) =>
    match result.find? s.compiler.registry, params.mapM (SlotRef.find? s.compiler.registry) with
    | some result, some params =>
      (s.progress.perform s.span
        (Call.lower name result params (body.withHelper s.compiler.helper))).2
    | _, _ => .ok ()
  | .lower name result params body =>
    (s.progress.perform s.span (Call.lower name result params body)).2

/-- Every slot is registered by the time it is used. -/
def Registered : Session → List Request → Prop
  | _, [] => True
  | s, request :: rest => request.Registered s.compiler.registry ∧ (s.serve request).Registered rest

/-- A request preserves what moves preserve, if the lowering it asks for does. -/
theorem serve_preserves {P : Compiler → Prop}
    (hmove : ∀ {a b}, Compiler.Move a b → P a → P b) {s : Session} {request : Request}
    (hlower : ∀ {name result params body done}, request = .lower name result params body →
      s.compiler.lower name result params body = .ok done → P done.compiler)
    (hs : P s.compiler) : P (s.serve request).compiler := by
  cases request with
  | operation op => exact (s.step_reaches op).induction hmove hs
  | lower name result params body =>
    exact Progress.perform_preserves (Call.atomic_lower _ _ _ _) (fun done h => hlower rfl h) hs

/-- What moves and lowerings over registered slots preserve is preserved by a sequence. -/
theorem serveAll_induction {P : Compiler → Prop}
    (hmove : ∀ {a b}, Compiler.Move a b → P a → P b)
    (hlower : ∀ {c : Compiler} {name result params body done},
      (∀ s ∈ result :: params, c.registry.Holds s) →
        c.lower name result params body = .ok done → P c → P done.compiler)
    {s : Session} {requests : List Request} (hr : s.Registered requests) (hs : P s.compiler) :
    P (s.serveAll requests).compiler := by
  induction requests generalizing s with
  | nil => exact hs
  | cons request rest ih =>
    obtain ⟨hslots, hrest⟩ := hr
    refine ih hrest (serve_preserves hmove ?_ hs)
    rintro name result params body done rfl hdone
    exact hlower hslots hdone hs

/-- What moves and lowerings preserve, whatever the slots, is preserved by a sequence. -/
theorem serveAll_preserves {P : Compiler → Prop}
    (hmove : ∀ {a b}, Compiler.Move a b → P a → P b)
    (hlower : ∀ {c : Compiler} {name result params body done},
      c.lower name result params body = .ok done → P c → P done.compiler)
    {s : Session} (requests : List Request) (hs : P s.compiler) :
    P (s.serveAll requests).compiler := by
  induction requests generalizing s with
  | nil => exact hs
  | cons request rest ih =>
    refine ih (serve_preserves hmove ?_ hs)
    rintro name result params body done - hdone
    exact hlower hdone hs

/-- The function table needs nothing of the slots. -/
theorem serveAll_tabled {s : Session} (requests : List Request) (hs : s.compiler.Tabled) :
    (s.serveAll requests).compiler.Tabled :=
  serveAll_preserves (fun hmove => hmove.tabled) (fun hdone => Compiler.lower_tabled hdone) requests hs

end Session
end Lowering
end FeltLowering
