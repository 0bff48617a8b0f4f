import FeltLowering.Lowering.Progress

/-
What the calls of a compiler leave behind.

A call changes the compiler step by step, and one that fails undoes nothing.  Whether it
leaves a trace is a matter of the order of its steps.  A call is `Atomic` if it leaves
the compiler it was made on whenever it fails, and there are two reasons for that: up to its
last check it only `Reads`, and from its first change on it is `Sure` to succeed.  All calls
that enter a type or lower a function are atomic.  That of the helper is not: it enters the
wide type before it lowers.

An atomic call is known by its outcome, which is the error or the compiler at its end.
`Compiler.addType`, `Compiler.lower` and the outcomes of the libfuncs are what the modules
after this one reason about.
-/
namespace FeltLowering
namespace Lowering

open Ir

namespace Call

variable {α β : Type} {call : Call α} {f : α → Call β} {c c' : Compiler}

theorem bind_of_ok {a : α} (h : call.run c = .ok a c') : (call >>= f).run c = (f a).run c' := by
  show EStateM.bind call f c = (f a).run c'
  rw [EStateM.bind, show call c = .ok a c' from h]
  rfl

theorem bind_of_error {e : LowerError} (h : call.run c = .error e c') :
    (call >>= f).run c = .error e c' := by
  show EStateM.bind call f c = .error e c'
  rw [EStateM.bind, show call c = .error e c' from h]

theorem get_bind (g : Compiler → Call β) (c : Compiler) : (get >>= g).run c = (g c).run c := rfl

theorem check_of_ok {g : Compiler → Except LowerError α} {a : α} (h : g c = .ok a) :
    (check g).run c = .ok a c := by
  unfold check
  rw [get_bind, h]
  rfl

theorem check_of_error {g : Compiler → Except LowerError α} {e : LowerError} (h : g c = .error e) :
    (check g).run c = .error e c := by
  unfold check
  rw [get_bind, h]
  rfl

/-! ## Calls that leave no trace -/

/-- Never changes the compiler. -/
def Reads (call : Call α) : Prop :=
  ∀ c, (∃ a, call.run c = .ok a c) ∨ ∃ e, call.run c = .error e c

/-- Never fails. -/
def Sure (call : Call α) : Prop := ∀ c, ∃ a c', call.run c = .ok a c'

/-- Leaves the compiler as it was whenever it fails. -/
def Atomic (call : Call α) : Prop := ∀ c e c', call.run c = .error e c' → c' = c

theorem reads_check (g : Compiler → Except LowerError α) : Reads (check g) := by
  intro c
  cases h : g c with
  | ok a => exact Or.inl ⟨a, check_of_ok h⟩
  | error e => exact Or.inr ⟨e, check_of_error h⟩

theorem sure_pure (a : α) : Sure (pure a) := fun c => ⟨a, c, rfl⟩

theorem sure_modify (g : Compiler → Compiler) : Sure (modify g) := fun c => ⟨(), g c, rfl⟩

theorem Sure.bind (hcall : Sure call) (hf : ∀ a, Sure (f a)) : Sure (call >>= f) := by
  intro c
  obtain ⟨a, c', h⟩ := hcall c
  rw [bind_of_ok h]
  exact hf a c'

theorem Sure.atomic (h : Sure call) : Atomic call := by
  intro c e c' he
  obtain ⟨a, c'', hok⟩ := h c
  rw [hok] at he
  cases he

theorem atomic_throw (e : LowerError) : Atomic (throw e : Call α) := by
  intro c e' c' h
  cases h
  rfl

theorem Reads.bind_atomic (hcall : Reads call) (hf : ∀ a, Atomic (f a)) : Atomic (call >>= f) := by
  intro c e c' he
  rcases hcall c with ⟨a, h⟩ | ⟨e', h⟩
  · rw [bind_of_ok h] at he
    exact hf a c e c' he
  · rw [bind_of_error h] at he
    cases he
    rfl

/-- The code is built and the signature resolved before the module changes. -/
theorem atomic_lower (name : Text) (result : Slot) (params : List Slot) (body : Body) :
    Atomic (lower name result params body) := by
  refine (reads_check _).bind_atomic fun _ => (reads_check _).bind_atomic fun signature => ?_
  cases body.code result.type.ty (params.map fun p => p.type.ty) with
  | error fault => exact atomic_throw _
  | ok code =>
    exact ((sure_modify _).bind fun _ => (sure_modify _).bind fun _ => sure_pure _).atomic

theorem sure_addBuiltin (d : Declaration) (builtin : Text) (type : Handle) :
    Sure (addBuiltin d builtin type) :=
  (sure_modify _).bind fun _ => sure_modify _

theorem addAlias_of_some {key name inner : Text} {slot : Slot}
    (h : c.registry.lookup? inner = some slot) :
    (addAlias key name inner).run c = .ok true (c.aliasType key name slot) := by
  unfold addAlias
  rw [get_bind, h]
  rfl

/-- An alias that is refused has not been entered. -/
theorem addAlias_of_none {key name inner : Text} (h : c.registry.lookup? inner = none) :
    (addAlias key name inner).run c = .ok false c := by
  unfold addAlias
  rw [get_bind, h]
  rfl

theorem atomic_addWrapper (d : Declaration) : Atomic (addWrapper d) := by
  refine (reads_check _).bind_atomic fun inner c e c' he => ?_
  cases h : c.registry.lookup? inner.key with
  | none =>
    rw [bind_of_ok (addAlias_of_none h)] at he
    cases he
    rfl
  | some slot =>
    rw [bind_of_ok (addAlias_of_some h)] at he
    cases he

theorem atomic_addType (d : Declaration) : Atomic (addType d) := by
  unfold addType
  split
  · refine Sure.atomic fun c => ?_
    exact sure_addBuiltin d "felt" (c.registry.fresh (.int Felt.width)) c
  · split
    · exact atomic_addWrapper d
    · split
      · exact (sure_addBuiltin d _ _).atomic
      · exact atomic_throw _

/-- Every libfunc checks and then lowers. -/
theorem atomic_libfunc (d : Declaration) (kind : Compiler.Libfunc) : Atomic (libfunc d kind) := by
  cases kind with
  | feltConst =>
    refine (reads_check _).bind_atomic fun felt => (reads_check _).bind_atomic fun v => ?_
    exact (reads_check _).bind_atomic fun name => atomic_lower _ _ _ _
  | feltBinary op =>
    refine (reads_check _).bind_atomic fun felt => (reads_check _).bind_atomic fun helper => ?_
    exact (reads_check _).bind_atomic fun name => atomic_lower _ _ _ _
  | wrappingAdd builtin =>
    refine (reads_check _).bind_atomic fun slot => ?_
    exact (reads_check _).bind_atomic fun name => atomic_lower _ _ _ _

theorem atomic_addLibfunc (d : Declaration) : Atomic (addLibfunc d) := by
  unfold addLibfunc
  split
  · exact atomic_libfunc d _
  · exact atomic_throw _

end Call

/-! ## Outcomes -/

namespace Compiler

/-- A function that has been lowered, and the compiler that has lowered it. -/
structure Lowered extends Summary where
  compiler : Compiler
  deriving DecidableEq, Repr

end Compiler

namespace Call

variable {α β γ : Type} {call : Call α} {view : α → Compiler → β} {c c' : Compiler}

/-- The compiler a call leaves, and its answer. -/
def result (call : Call α) (c : Compiler) : Compiler × Except LowerError α :=
  match call.run c with
  | .ok a c' => (c', .ok a)
  | .error e c' => (c', .error e)

/-- The error of a call, or what `view` shows of its end. -/
def outcome (view : α → Compiler → β) (call : Call α) (c : Compiler) : Except LowerError β :=
  (call.result c).2.map fun a => view a (call.result c).1

def entered (call : Call Unit) (c : Compiler) : Except LowerError Compiler :=
  call.outcome (fun _ c => c) c

def lowered (call : Call Summary) (c : Compiler) : Except LowerError Compiler.Lowered :=
  call.outcome (fun f c => { f with compiler := c }) c

theorem result_of_ok {a : α} (h : call.run c = .ok a c') : call.result c = (c', .ok a) := by
  unfold result
  rw [h]

theorem result_of_error {e : LowerError} (h : call.run c = .error e c') :
    call.result c = (c', .error e) := by
  unfold result
  rw [h]

theorem result_bind_of_ok {f : α → Call β} {a : α} (h : call.run c = .ok a c') :
    (call >>= f).result c = (f a).result c' := by
  unfold result
  rw [bind_of_ok h]

theorem result_bind_of_error {f : α → Call β} {e : LowerError} (h : call.run c = .error e c') :
    (call >>= f).result c = (c', .error e) :=
  result_of_error (bind_of_error h)

theorem result_get_bind (g : Compiler → Call β) (c : Compiler) :
    (get >>= g).result c = (g c).result c := rfl

theorem outcome_of_ok {a : α} (h : call.run c = .ok a c') : call.outcome view c = .ok (view a c') := by
  unfold outcome
  rw [result_of_ok h]
  rfl

theorem outcome_of_error {e : LowerError} (h : call.run c = .error e c') :
    call.outcome view c = .error e := by
  unfold outcome
  rw [result_of_error h]
  rfl

/-- A check decides about the rest of a call, which finds the compiler as it was. -/
theorem outcome_check_bind (g : Compiler → Except LowerError γ) (f : γ → Call α) (c : Compiler) :
    (check g >>= f).outcome view c = (g c >>= fun a => (f a).outcome view c) := by
  unfold outcome
  cases h : g c with
  | ok a =>
    rw [result_bind_of_ok (check_of_ok h)]
    rfl
  | error e =>
    rw [result_bind_of_error (check_of_error h)]
    rfl

theorem result_of_outcome {b : β} (h : call.outcome view c = .ok b) :
    ∃ a c', call.result c = (c', .ok a) ∧ view a c' = b := by
  cases hrun : call.run c with
  | ok a c' =>
    rw [outcome_of_ok hrun] at h
    exact ⟨a, c', result_of_ok hrun, Except.ok.inj h⟩
  | error e c' =>
    rw [outcome_of_error hrun] at h
    cases h

theorem Atomic.result_of_outcome (hcall : call.Atomic) {e : LowerError}
    (h : call.outcome view c = .error e) : call.result c = (c, .error e) := by
  cases hrun : call.run c with
  | ok a c' =>
    rw [outcome_of_ok hrun] at h
    cases h
  | error e' c' =>
    rw [outcome_of_error hrun] at h
    cases h
    obtain rfl := hcall _ _ _ hrun
    exact result_of_error hrun

end Call

namespace Compiler

def install (c : Compiler) (f : Function) (signature : List NodeRef) : Compiler :=
  (c.appendFunction f).attachSubprogram f signature

def addBuiltin (c : Compiler) (d : Declaration) (builtin : Text) (type : Handle) : Compiler :=
  (c.insertType d.id.key d.id.name type).nameType builtin d.id.key

def lower (c : Compiler) (name : Text) (result : Slot) (params : List Slot) (body : Body) :
    Except LowerError Lowered :=
  (Call.lower name result params body).lowered c

def addWrapper (c : Compiler) (d : Declaration) : Except LowerError Compiler :=
  (Call.addWrapper d).entered c

def addType (c : Compiler) (d : Declaration) : Except LowerError Compiler :=
  (Call.addType d).entered c

def declareType (c : Compiler) (d : Declaration) : Except LowerError Compiler := do
  c.checkType d
  c.addType d

def declareHelper (c : Compiler) : Compiler × Except LowerError (Helper × Option Summary) :=
  Call.declareHelper.result c

def feltConst (c : Compiler) (d : Declaration) : Except LowerError Lowered :=
  (Call.feltConst d).lowered c

def callLibfunc (c : Compiler) (d : Declaration) (kind : Libfunc) : Except LowerError Lowered :=
  (Call.libfunc d kind).lowered c

def addLibfunc (c : Compiler) (d : Declaration) : Except LowerError Lowered :=
  (Call.addLibfunc d).lowered c

def declareLibfunc (c : Compiler) (d : Declaration) : Except LowerError Lowered := do
  let _ ← libfuncName d
  c.addLibfunc d

theorem lower_eq (c : Compiler) (name : Text) (result : Slot) (params : List Slot) (body : Body) :
    c.lower name result params body = (do
      c.checkBody name params body
      let signature ← c.debugSignature name (result :: params)
      let code ← (body.code result.type.ty (params.map fun p => p.type.ty)).mapError (.body name)
      return {
        compiler := c.install (buildFunction name result params code) signature
        name, kind := body.kind, size := code.insts.length }) := by
  unfold lower Call.lowered Call.lower
  rw [Call.outcome_check_bind]
  refine congrArg _ (funext fun _ => ?_)
  rw [Call.outcome_check_bind]
  refine congrArg _ (funext fun signature => ?_)
  cases body.code result.type.ty (params.map fun p => p.type.ty) <;> rfl

theorem addWrapper_eq (c : Compiler) (d : Declaration) :
    c.addWrapper d = (do
      let inner ← wrappedType d
      match c.registry.lookup? inner.key with
      | some slot => return c.aliasType d.id.key d.id.name slot
      | none => .error (.fatal (typeLabel d) (.innerUndeclared inner.label))) := by
  unfold addWrapper Call.entered Call.addWrapper
  rw [Call.outcome_check_bind]
  refine congrArg _ (funext fun inner => ?_)
  unfold Call.outcome
  cases h : c.registry.lookup? inner.key with
  | some slot =>
    rw [Call.result_bind_of_ok (Call.addAlias_of_some h)]
    rfl
  | none =>
    rw [Call.result_bind_of_ok (Call.addAlias_of_none h)]
    rfl

theorem addType_eq (c : Compiler) (d : Declaration) :
    c.addType d =
      if d.genericId = Text.ofString "felt" || d.genericId = Text.ofString "felt252" then
        .ok (c.addBuiltin d "felt" (c.registry.fresh (.int Felt.width)))
      else if d.genericId = Text.ofString "NonZero" then c.addWrapper d
      else
        match intWidth? d.genericId with
        | some w => .ok (c.addBuiltin d d.genericId ⟨.int w, 0⟩)
        | none => .error (.fatal (typeLabel d) (.unsupportedType d.genericId)) := by
  unfold addType Call.addType
  split
  · rfl
  · split
    · rfl
    · cases intWidth? d.genericId <;> rfl

theorem declareHelper_eq (c : Compiler) :
    c.declareHelper =
      match c.helper, c.registry.lookupName? "felt" with
      | some h, _ => (c, .ok (h, none))
      | none, none => (c, .error (.fatal helperName .helperBeforeFelt))
      | none, some felt =>
        match c.wideSlot.1.lower helperName felt [c.wideSlot.2] .reduce with
        | .error e => (c.wideSlot.1, .error e)
        | .ok done =>
          ({ done.compiler with helper := some ⟨c.wideSlot.1.module.functions.length⟩ },
            .ok (⟨c.wideSlot.1.module.functions.length⟩, some done.toSummary)) := by
  unfold declareHelper Call.declareHelper
  rw [Call.result_get_bind]
  cases c.helper with
  | some h => rfl
  | none =>
    cases c.registry.lookupName? "felt" with
    | none => rfl
    | some felt =>
      -- The lowering is made on the compiler that has the wide type, and keeps it if it fails.
      have hmade : ∀ {β : Type} (f : Slot → Call β),
          (modifyGet (fun c => c.wideSlot.swap) >>= f).result c =
            (f c.wideSlot.2).result c.wideSlot.1 := fun f => Call.result_bind_of_ok rfl
      dsimp only
      rw [hmade, Call.result_get_bind]
      unfold lower Call.lowered
      cases hrun : (Call.lower helperName felt [c.wideSlot.2] .reduce).run c.wideSlot.1 with
      | ok done c' =>
        rw [Call.result_bind_of_ok hrun, Call.outcome_of_ok hrun]
        rfl
      | error e c' =>
        obtain rfl := Call.atomic_lower _ _ _ _ _ _ _ hrun
        rw [Call.result_bind_of_error hrun, Call.outcome_of_error hrun]

theorem callLibfunc_feltConst (c : Compiler) (d : Declaration) :
    c.callLibfunc d .feltConst = (do
      let felt ← c.builtinSlot d "felt"
      let v ← constValue d
      let name ← libfuncName d
      c.lower name felt [] (.const (some (felt.type.ty.size, v.toInt)))) := by
  unfold callLibfunc Call.lowered Call.libfunc Call.feltConst
  simp only [Call.outcome_check_bind]
  rfl

theorem callLibfunc_feltBinary (c : Compiler) (d : Declaration) (op : FieldOp) :
    c.callLibfunc d (.feltBinary op) = (do
      let felt ← c.builtinSlot d "felt"
      let helper ← c.helperFor d
      let name ← libfuncName d
      c.lower name felt [felt, felt] (.field op (some helper))) := by
  unfold callLibfunc Call.lowered Call.libfunc Call.feltBinary
  simp only [Call.outcome_check_bind]
  rfl

theorem callLibfunc_wrappingAdd (c : Compiler) (d : Declaration) (builtin : Text) :
    c.callLibfunc d (.wrappingAdd builtin) = (do
      let slot ← c.builtinSlot d builtin
      let name ← libfuncName d
      c.lower name slot [slot, slot] .intAdd) := by
  unfold callLibfunc Call.lowered Call.libfunc Call.intWrappingAdd
  simp only [Call.outcome_check_bind]
  rfl

theorem addLibfunc_of_some {c : Compiler} {d : Declaration} {kind : Libfunc}
    (h : Libfunc.ofGeneric? d.genericId = some kind) : c.addLibfunc d = c.callLibfunc d kind := by
  unfold addLibfunc Call.addLibfunc
  rw [h]
  rfl

theorem addLibfunc_of_none {c : Compiler} {d : Declaration}
    (h : Libfunc.ofGeneric? d.genericId = none) :
    c.addLibfunc d = .error (.fatal (libfuncLabel d) (.unsupportedLibfunc d.genericId)) := by
  unfold addLibfunc Call.addLibfunc
  rw [h]
  rfl

end Compiler

/-! ## Traced steps -/

namespace Progress

def accept (s : Progress) (parent : Nat) (done : Compiler.Lowered) : Progress :=
  { s with compiler := done.compiler }.noteFunction parent done.toSummary

variable {s : Progress} {parent : Nat} {d : Declaration} {e : LowerError}

theorem make_eq {α : Type} (call : Call α) :
    s.make call = ({ s with compiler := (call.result s.compiler).1 }, (call.result s.compiler).2) := by
  unfold make Call.result
  cases call.run s.compiler <;> rfl

theorem make_check_of_ok {α : Type} {g : Compiler → Except LowerError α} {a : α}
    (h : g s.compiler = .ok a) : s.make (Call.check g) = (s, .ok a) := by
  rw [make_eq, Call.result_of_ok (Call.check_of_ok h)]

theorem make_check_of_error {α : Type} {g : Compiler → Except LowerError α}
    (h : g s.compiler = .error e) : s.make (Call.check g) = (s, .error e) := by
  rw [make_eq, Call.result_of_error (Call.check_of_error h)]

theorem make_of_error {α β : Type} {call : Call α} {view : α → Compiler → β} (hcall : call.Atomic)
    (h : call.outcome view s.compiler = .error e) : s.make call = (s, .error e) := by
  rw [make_eq, hcall.result_of_outcome h]

section Perform

variable {call : Call Summary}

theorem perform_of_ok {done : Compiler.Lowered} (h : call.lowered s.compiler = .ok done) :
    s.perform parent call = (s.accept parent done, .ok ()) := by
  obtain ⟨f, c, hresult, rfl⟩ := Call.result_of_outcome h
  unfold perform
  rw [make_eq, hresult]
  rfl

theorem perform_of_error (hcall : call.Atomic) (h : call.lowered s.compiler = .error e) :
    s.perform parent call = (s, .error e) := by
  unfold perform
  rw [make_of_error hcall h]

/-- A call that leaves no trace preserves what the function it lowers preserves. -/
theorem perform_preserves {P : Compiler → Prop} (hcall : call.Atomic)
    (hok : ∀ done, call.lowered s.compiler = .ok done → P done.compiler) (hs : P s.compiler) :
    P (s.perform parent call).1.compiler := by
  cases h : call.lowered s.compiler with
  | ok done =>
    rw [perform_of_ok h]
    exact hok done h
  | error e =>
    rw [perform_of_error hcall h]
    exact hs

theorem lowered_of_perform (hcall : call.Atomic) (h : (s.perform parent call).2 = .ok ()) :
    ∃ done, call.lowered s.compiler = .ok done ∧
      (s.perform parent call).1.compiler = done.compiler := by
  cases hrun : call.lowered s.compiler with
  | ok done =>
    rw [perform_of_ok hrun]
    exact ⟨done, rfl, rfl⟩
  | error e =>
    rw [perform_of_error hcall hrun] at h
    cases h

end Perform

theorem declareType_of_check (h : s.compiler.checkType d = .error e) :
    s.declareType parent d = (s, .error e) := by
  unfold declareType
  rw [make_check_of_error h]

theorem declareType_of_checked (h : s.compiler.checkType d = .ok ()) :
    s.declareType parent d =
      (s.note .decl (typeLabel d) d.genericId parent).make (Call.addType d) := by
  unfold declareType
  rw [make_check_of_ok h]

theorem declareType_of_error (hcheck : s.compiler.checkType d = .ok ())
    (h : s.compiler.addType d = .error e) :
    s.declareType parent d = (s.note .decl (typeLabel d) d.genericId parent, .error e) := by
  unfold Compiler.addType Call.entered at h
  rw [declareType_of_checked hcheck]
  exact make_of_error (Call.atomic_addType d) h

theorem declareType_of_ok {c : Compiler} (hcheck : s.compiler.checkType d = .ok ())
    (h : s.compiler.addType d = .ok c) :
    s.declareType parent d =
      ({ s.note .decl (typeLabel d) d.genericId parent with compiler := c }, .ok ()) := by
  unfold Compiler.addType Call.entered at h
  obtain ⟨⟨⟩, c', hresult, rfl⟩ := Call.result_of_outcome h
  rw [declareType_of_checked hcheck, make_eq,
    show (s.note .decl (typeLabel d) d.genericId parent).compiler = s.compiler from rfl, hresult]

theorem declareLibfunc_of_unnamed (h : Compiler.libfuncName d = .error e) :
    s.declareLibfunc parent d = (s, .error e) := by
  unfold declareLibfunc
  rw [make_check_of_error h]

theorem declareLibfunc_of_named {name : Text} (h : Compiler.libfuncName d = .ok name) :
    s.declareLibfunc parent d =
      (s.note .decl (libfuncLabel d) d.genericId parent).perform parent (Call.addLibfunc d) := by
  unfold declareLibfunc
  rw [make_check_of_ok h]

theorem declareLibfunc_of_error {name : Text} (hname : Compiler.libfuncName d = .ok name)
    (h : s.compiler.addLibfunc d = .error e) :
    s.declareLibfunc parent d = (s.note .decl (libfuncLabel d) d.genericId parent, .error e) :=
  (declareLibfunc_of_named hname).trans (perform_of_error (Call.atomic_addLibfunc d) h)

theorem declareLibfunc_of_ok {name : Text} {done : Compiler.Lowered}
    (hname : Compiler.libfuncName d = .ok name) (h : s.compiler.addLibfunc d = .ok done) :
    s.declareLibfunc parent d =
      ((s.note .decl (libfuncLabel d) d.genericId parent).accept parent done, .ok ()) :=
  (declareLibfunc_of_named hname).trans (perform_of_ok h)

section Helper

variable {c : Compiler} {h : Helper}

theorem declareHelper_of_error (hrun : s.compiler.declareHelper = (c, .error e)) :
    s.declareHelper parent = ({ s with compiler := c }, .error e) := by
  unfold declareHelper
  rw [make_eq, show Call.declareHelper.result s.compiler = _ from hrun]

theorem declareHelper_of_none (hrun : s.compiler.declareHelper = (c, .ok (h, none))) :
    s.declareHelper parent = ({ s with compiler := c }, .ok h) := by
  unfold declareHelper
  rw [make_eq, show Call.declareHelper.result s.compiler = _ from hrun]

theorem declareHelper_of_some {f : Summary}
    (hrun : s.compiler.declareHelper = (c, .ok (h, some f))) :
    s.declareHelper parent = ({ s with compiler := c }.noteFunction parent f, .ok h) := by
  unfold declareHelper
  rw [make_eq, show Call.declareHelper.result s.compiler = _ from hrun]

end Helper

end Progress
end Lowering
end FeltLowering
