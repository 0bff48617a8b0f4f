import FeltLowering.Proofs.Lowering.Requests

/-
What a failed call leaves behind.

A call that fails leaves the session as it was, apart from the event that notes a
declaration once its first checks have passed.  This rests on the order of steps in each
call: every check comes before the first change (`Call.Atomic`).  The one exception is the
helper: its wide type is registered before its name is checked, and stays if the name is
taken.

`failed_calls_leave_no_trace` puts this to use.  A declaration that succeeds does change
the compiler, so a declaration has failed exactly if the compiler is the same.  And no call
looks at the journal, so the failed calls of a sequence can be left out of it: whatever
is declared later comes out as if they had not been made.
-/
namespace FeltLowering
namespace Lowering

open Ir Trace

theorem Journal.point_eq (j : Journal) (scope : Scope) (name detail : Text) (parent : Nat) :
    ∃ noted : List Event, noted.length ≤ 1 ∧
      j.point scope name detail parent = { j with events := j.events ++ noted } := by
  unfold Journal.point
  by_cases h : j.level.passes scope = true
  · rw [if_pos h]
    exact ⟨[_], Nat.le_refl 1, rfl⟩
  · rw [if_neg h]
    refine ⟨[], Nat.zero_le 1, ?_⟩
    rw [List.append_nil]

namespace Progress

def noting (s : Progress) (noted : List Event) : Progress :=
  { s with journal := { s.journal with events := s.journal.events ++ noted } }

theorem noting_nil (s : Progress) : s.noting [] = s := by
  unfold noting
  rw [List.append_nil]

theorem note_eq_noting (s : Progress) (scope : Scope) (name detail : Text) (parent : Nat) :
    ∃ noted : List Event, noted.length ≤ 1 ∧ s.note scope name detail parent = s.noting noted := by
  obtain ⟨noted, hlen, hpoint⟩ := Journal.point_eq s.journal scope name detail parent
  refine ⟨noted, hlen, ?_⟩
  unfold note noting
  rw [hpoint]

/-- Of a call that leaves no trace in the compiler, a failure leaves none at all. -/
theorem perform_error {s : Progress} {parent : Nat} {call : Call Summary} (hcall : call.Atomic)
    {e : LowerError} (h : (s.perform parent call).2 = .error e) : (s.perform parent call).1 = s := by
  cases hrun : call.lowered s.compiler with
  | ok done =>
    rw [perform_of_ok hrun] at h
    cases h
  | error e' => rw [perform_of_error hcall hrun]

theorem declareType_error {s : Progress} {parent : Nat} {d : Declaration} {e : LowerError}
    (h : (s.declareType parent d).2 = .error e) :
    ∃ noted : List Event, noted.length ≤ 1 ∧ (s.declareType parent d).1 = s.noting noted := by
  cases hcheck : s.compiler.checkType d with
  | error e' =>
    rw [declareType_of_check hcheck]
    exact ⟨[], Nat.zero_le 1, s.noting_nil.symm⟩
  | ok u =>
    cases hadd : s.compiler.addType d with
    | error e' =>
      rw [declareType_of_error hcheck hadd]
      exact s.note_eq_noting _ _ _ _
    | ok c =>
      rw [declareType_of_ok hcheck hadd] at h
      cases h

theorem declareLibfunc_error {s : Progress} {parent : Nat} {d : Declaration} {e : LowerError}
    (h : (s.declareLibfunc parent d).2 = .error e) :
    ∃ noted : List Event, noted.length ≤ 1 ∧ (s.declareLibfunc parent d).1 = s.noting noted := by
  cases hname : Compiler.libfuncName d with
  | error e' =>
    rw [declareLibfunc_of_unnamed hname]
    exact ⟨[], Nat.zero_le 1, s.noting_nil.symm⟩
  | ok name =>
    rw [declareLibfunc_of_named hname] at h ⊢
    rw [perform_error (Call.atomic_addLibfunc d) h]
    exact s.note_eq_noting _ _ _ _

/-! ## The compiler after a call -/

theorem result_eq_ok {r : Progress × Except LowerError Unit} (h : r.2 = .ok ()) :
    result r = .ok r.1.compiler := by
  unfold result
  rw [h]
  rfl

theorem perform_compiler (s : Progress) (parent : Nat) (call : Call Summary) :
    (s.perform parent call).1.compiler = (call.result s.compiler).1 := by
  unfold perform
  rw [make_eq]
  cases (call.result s.compiler).2 <;> rfl

theorem compiler_eq_getD {s : Progress} {r : Progress × Except LowerError Unit}
    (h : ∀ e, r.2 = .error e → r.1.compiler = s.compiler) :
    r.1.compiler = (result r).toOption.getD s.compiler := by
  unfold result
  cases hr : r.2 with
  | ok u => rfl
  | error e => exact h e hr

theorem declareType_compiler (s : Progress) (parent : Nat) (d : Declaration) :
    (s.declareType parent d).1.compiler = (s.compiler.declareType d).toOption.getD s.compiler := by
  rw [← result_declareType s parent d]
  refine compiler_eq_getD fun e he => ?_
  obtain ⟨noted, -, hsame⟩ := declareType_error he
  rw [hsame]
  rfl

theorem declareLibfunc_compiler (s : Progress) (parent : Nat) (d : Declaration) :
    (s.declareLibfunc parent d).1.compiler =
      (s.compiler.addFunction d).toOption.getD s.compiler := by
  rw [← result_declareLibfunc s parent d]
  refine compiler_eq_getD fun e he => ?_
  obtain ⟨noted, -, hsame⟩ := declareLibfunc_error he
  rw [hsame]
  rfl

end Progress

namespace Compiler

def size (c : Compiler) : Nat := c.registry.entries.length + c.module.functions.length

theorem declareType_size {c c' : Compiler} {d : Declaration} (h : c.declareType d = .ok c') :
    c'.size = c.size + 1 := by
  have hentries : c'.registry.entries.length = c.registry.entries.length + 1 := by
    rcases (declareType_eq_ok_iff.mp h).2 with ⟨-, rfl⟩ | ⟨w, -, rfl⟩ | ⟨inner, slot, -, -, rfl⟩
    · rw [addBuiltin_registry, Registry.entries_addName, Registry.entries_add, List.length_append]
      rfl
    · rw [addBuiltin_registry, Registry.entries_addName, Registry.entries_add, List.length_append]
      rfl
    · rw [aliasType_registry, Registry.entries_add, List.length_append]
      rfl
  obtain ⟨hfunctions, -⟩ := declareType_frame h
  unfold size
  rw [hentries, hfunctions]
  omega

theorem lower_size {c : Compiler} {name : Text} {result : Slot} {params : List Slot} {body : Body}
    {done : Lowered} (h : c.lower name result params body = .ok done) :
    done.compiler.size = c.size + 1 := by
  obtain ⟨signature, code, -, -, -, rfl⟩ := lower_eq_ok_iff.mp h
  unfold size
  rw [install_registry, install_functions, List.length_append, ← Nat.add_assoc]
  rfl

theorem callLibfunc_size {c : Compiler} {d : Declaration} {libfunc : Libfunc} {done : Lowered}
    (h : c.callLibfunc d libfunc = .ok done) : done.compiler.size = c.size + 1 := by
  obtain ⟨-, result, params, body, -, hlower⟩ := callLibfunc_eq_ok_iff.mp h
  exact lower_size hlower

theorem addFunction_size {c c' : Compiler} {d : Declaration} (h : c.addFunction d = .ok c') :
    c'.size = c.size + 1 := by
  obtain ⟨done, hdone, rfl⟩ := addFunction_eq_ok_iff.mp h
  obtain ⟨libfunc, -, hcall⟩ := declareLibfunc_eq_ok_iff.mp hdone
  exact callLibfunc_size hcall

end Compiler

/-- The calls that declare one type or lower one function, with any arguments. -/
def Request.Declares : Request → Prop
  | .operation (.declareType _) => True
  | .operation (.declareLibfunc _) => True
  | .operation (.callLibfunc _ _) => True
  | .lower _ _ _ _ => True
  | _ => False

def Request.isHelper : Request → Bool
  | .operation .declareHelper => true
  | _ => false

namespace Session

def noting (s : Session) (noted : List Event) : Session :=
  { s with progress := s.progress.noting noted }

theorem noting_nil (s : Session) : s.noting [] = s := by
  unfold noting
  rw [Progress.noting_nil]

/-- A call that fails leaves the session as it was, but for one event. -/
theorem serve_of_error {s : Session} {request : Request} {e : LowerError}
    (hhelper : request.isHelper = false) (h : s.answer request = .error e) :
    ∃ noted : List Event, noted.length ≤ 1 ∧ s.serve request = s.noting noted := by
  have hperform : ∀ call : Call Summary, call.Atomic →
      (s.progress.perform s.span call).2 = .error e →
        ∃ noted : List Event, noted.length ≤ 1 ∧
          { s with progress := (s.progress.perform s.span call).1 } = s.noting noted := by
    intro call hcall hr
    refine ⟨[], Nat.zero_le 1, ?_⟩
    rw [Progress.perform_error hcall hr, noting_nil]
  cases request with
  | lower name result params body => exact hperform _ (Call.atomic_lower _ _ _ _) h
  | operation op =>
    cases op with
    | setLine line => cases h
    | setTracer journal span => cases h
    | declareHelper => cases hhelper
    | declareType d =>
      obtain ⟨noted, hlen, hsame⟩ := Progress.declareType_error h
      exact ⟨noted, hlen, congrArg (fun progress => { s with progress }) hsame⟩
    | declareLibfunc d =>
      obtain ⟨noted, hlen, hsame⟩ := Progress.declareLibfunc_error h
      exact ⟨noted, hlen, congrArg (fun progress => { s with progress }) hsame⟩
    | callLibfunc libfunc d => exact hperform _ (Call.atomic_libfunc d libfunc) h
    | lower name result params body =>
      cases hresult : result.find? s.compiler.registry with
      | none =>
        simp only [answer, hresult] at h
        cases h
      | some r =>
        cases hparams : params.mapM (SlotRef.find? s.compiler.registry) with
        | none =>
          simp only [answer, hresult, hparams] at h
          cases h
        | some ps =>
          simp only [answer, hresult, hparams] at h
          simp only [serve, step, hresult, hparams]
          exact hperform _ (Call.atomic_lower _ _ _ _) h

theorem serve_compiler_of_error {s : Session} {request : Request} {e : LowerError}
    (hhelper : request.isHelper = false) (h : s.answer request = .error e) :
    (s.serve request).compiler = s.compiler := by
  obtain ⟨noted, -, hserve⟩ := serve_of_error hhelper h
  rw [hserve]
  rfl

theorem serve_size_of_ok {s : Session} {request : Request} (hd : request.Declares)
    (h : s.answer request = .ok ()) : (s.serve request).compiler.size = s.compiler.size + 1 := by
  have hperform : ∀ call : Call Summary, call.Atomic →
      (∀ done, call.lowered s.compiler = .ok done → done.compiler.size = s.compiler.size + 1) →
        (s.progress.perform s.span call).2 = .ok () →
          (s.progress.perform s.span call).1.compiler.size = s.compiler.size + 1 := by
    intro call hcall hgrows hok
    obtain ⟨done, hdone, hcompiler⟩ := Progress.lowered_of_perform hcall hok
    rw [hcompiler]
    exact hgrows done hdone
  cases request with
  | lower name result params body =>
    exact hperform _ (Call.atomic_lower _ _ _ _) (fun _ hdone => Compiler.lower_size hdone) h
  | operation op =>
    cases op with
    | declareType d =>
      have hresult : s.compiler.declareType d = .ok (s.progress.declareType s.span d).1.compiler :=
        (s.progress.result_declareType s.span d).symm.trans (Progress.result_eq_ok h)
      exact Compiler.declareType_size hresult
    | declareLibfunc d =>
      have hresult : s.compiler.addFunction d = .ok (s.progress.declareLibfunc s.span d).1.compiler :=
        (s.progress.result_declareLibfunc s.span d).symm.trans (Progress.result_eq_ok h)
      exact Compiler.addFunction_size hresult
    | callLibfunc libfunc d =>
      exact hperform _ (Call.atomic_libfunc d libfunc)
        (fun _ hdone => Compiler.callLibfunc_size hdone) h
    | setLine line => cases hd
    | setTracer journal span => cases hd
    | declareHelper => cases hd
    | lower name result params body => cases hd

/-! ## Sequences without their failed calls -/

/-- What a call makes of the compiler does not depend on the journal. -/
theorem serve_compiler_congr {s s' : Session} (h : s.compiler = s'.compiler) (request : Request) :
    (s.serve request).compiler = (s'.serve request).compiler := by
  have hprogress : s.progress.compiler = s'.progress.compiler := h
  have hperform : ∀ call : Call Summary,
      (s.progress.perform s.span call).1.compiler = (s'.progress.perform s'.span call).1.compiler := by
    intro call
    rw [Progress.perform_compiler, Progress.perform_compiler, hprogress]
  cases request with
  | lower name result params body => exact hperform _
  | operation op =>
    cases op with
    | setLine line => exact congrArg (fun c => c.setLine line) h
    | setTracer journal span => exact h
    | declareType d =>
      show (s.progress.declareType s.span d).1.compiler = (s'.progress.declareType s'.span d).1.compiler
      rw [Progress.declareType_compiler, Progress.declareType_compiler, hprogress]
    | declareHelper =>
      show (s.progress.declareHelper s.span).1.compiler = (s'.progress.declareHelper s'.span).1.compiler
      rw [Progress.declareHelper_compiler, Progress.declareHelper_compiler, hprogress]
    | declareLibfunc d =>
      show (s.progress.declareLibfunc s.span d).1.compiler =
        (s'.progress.declareLibfunc s'.span d).1.compiler
      rw [Progress.declareLibfunc_compiler, Progress.declareLibfunc_compiler, hprogress]
    | callLibfunc libfunc d => exact hperform _
    | lower name result params body =>
      simp only [serve, step, h]
      cases result.find? s'.compiler.registry with
      | none => exact h
      | some r =>
        cases params.mapM (SlotRef.find? s'.compiler.registry) with
        | none => exact h
        | some ps => exact hperform _

theorem serveAll_compiler_congr {s s' : Session} (h : s.compiler = s'.compiler)
    (requests : List Request) : (s.serveAll requests).compiler = (s'.serveAll requests).compiler := by
  induction requests generalizing s s' with
  | nil => exact h
  | cons request rest ih => exact ih (serve_compiler_congr h request)

/-- The calls that fail without a trace. -/
def fails (s : Session) (request : Request) : Bool :=
  !request.isHelper && !(s.answer request).isOk

theorem fails_iff {s : Session} {request : Request} :
    s.fails request = true ↔ request.isHelper = false ∧ ∃ e, s.answer request = .error e := by
  unfold fails
  cases request.isHelper <;> cases s.answer request <;> simp [Except.isOk, Except.toBool]

/-- The sequence without the calls that fail in their turn. -/
def withoutFailures : Session → List Request → List Request
  | _, [] => []
  | s, request :: rest =>
    if s.fails request then (s.serve request).withoutFailures rest
    else request :: (s.serve request).withoutFailures rest

theorem serveAll_withoutFailures (s : Session) (requests : List Request) :
    (s.serveAll (s.withoutFailures requests)).compiler = (s.serveAll requests).compiler := by
  induction requests generalizing s with
  | nil => rfl
  | cons request rest ih =>
    unfold withoutFailures
    by_cases hfails : s.fails request = true
    · obtain ⟨hhelper, e, he⟩ := fails_iff.mp hfails
      rw [if_pos hfails]
      -- The rest is chosen by the session after the failed call, and served without it.
      calc (s.serveAll ((s.serve request).withoutFailures rest)).compiler
          = ((s.serve request).serveAll ((s.serve request).withoutFailures rest)).compiler :=
            serveAll_compiler_congr (serve_compiler_of_error hhelper he).symm _
        _ = ((s.serve request).serveAll rest).compiler := ih (s.serve request)
    · rw [if_neg hfails]
      exact ih (s.serve request)

end Session

/-- In every session, a call other than that of the helper leaves nothing but an event if it
fails; a declaration leaves the same compiler only if it fails; and leaving out the failed
calls of a sequence makes no difference to the compiler at its end. -/
theorem failed_calls_leave_no_trace (s : Session) :
    (∀ request e, request.isHelper = false → s.answer request = .error e →
      ∃ noted : List Event, noted.length ≤ 1 ∧ s.serve request = s.noting noted) ∧
    (∀ request : Request, request.Declares →
      ((∃ e, s.answer request = .error e) ↔ (s.serve request).compiler = s.compiler)) ∧
    ∀ requests, (s.serveAll (s.withoutFailures requests)).compiler = (s.serveAll requests).compiler := by
  refine ⟨fun request e hhelper h => Session.serve_of_error hhelper h, fun request hd => ?_,
    s.serveAll_withoutFailures⟩
  have hhelper : request.isHelper = false := by
    cases request with
    | lower name result params body => rfl
    | operation op =>
      cases op with
      | declareHelper => cases hd
      | _ => rfl
  constructor
  · rintro ⟨e, he⟩
    exact Session.serve_compiler_of_error hhelper he
  · intro hsame
    cases hanswer : s.answer request with
    | error e => exact ⟨e, rfl⟩
    | ok u =>
      have hsize := Session.serve_size_of_ok hd hanswer
      rw [hsame] at hsize
      omega

/-- A field element type, a byte type and the helper, with debug info. -/
def byteSession : Session :=
  (Session.start { debugInfo := true }).serveAll
    [.operation (.declareType ⟨⟨0, "felt"⟩, "felt252", none⟩),
      .operation (.declareType ⟨⟨1, "byte"⟩, "u8", none⟩), .operation .declareHelper]

/-- A sum of a field element and a byte.  The mismatch shows once the signature has been
resolved and code is built. -/
def unevenSum : Request :=
  .lower "sum" ⟨"0", ⟨.int Felt.width, 1⟩⟩ [⟨"0", ⟨.int Felt.width, 1⟩⟩, ⟨"1", ⟨.int 8, 0⟩⟩] .intAdd

theorem unevenSum_leaves_no_trace :
    byteSession.answer unevenSum =
        .error (.body "sum" (.operandMismatch (.int Felt.width) (.int 8))) ∧
      (∃ noted : List Event, noted.length ≤ 1 ∧
        byteSession.serve unevenSum = byteSession.noting noted) ∧
      (byteSession.serve unevenSum).compiler = byteSession.compiler ∧
      (byteSession.serveAll (byteSession.withoutFailures [unevenSum, unevenSum])).compiler =
        (byteSession.serveAll [unevenSum, unevenSum]).compiler := by
  have hanswer : byteSession.answer unevenSum =
      .error (.body "sum" (.operandMismatch (.int Felt.width) (.int 8))) := by decide +kernel
  obtain ⟨hfailed, hiff, hrun⟩ := failed_calls_leave_no_trace byteSession
  exact ⟨hanswer, hfailed unevenSum _ rfl hanswer, (hiff unevenSum trivial).mp ⟨_, hanswer⟩, hrun _⟩

end Lowering
end FeltLowering
