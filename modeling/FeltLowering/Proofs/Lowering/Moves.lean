import FeltLowering.Proofs.Lowering.Inversion
import FeltLowering.Proofs.Lowering.Outcome
import Mathlib.Logic.Relation

/-
What a compiler can do, one move at a time.

A call of the compiler that fails changes nothing, except that a helper whose name is
taken leaves its wide type behind.  A call that succeeds is one move, or two for the
helper.  `Compiler.Move` lists the moves with the conditions they are made under, and
whatever every move preserves holds after every program that is accepted
(`lowerDecls_reaches`) and after every sequence of calls (`Session.run_reaches`).
-/
namespace FeltLowering
namespace Lowering

open Ir Trace

/-- The registry answers with this slot under its own key. -/
def Registry.Holds (r : Registry) (s : Slot) : Prop := r.lookup? s.key = some s

theorem Registry.holds_of_lookup? {r : Registry} {key : Text} {s : Slot}
    (h : r.lookup? key = some s) : r.Holds s := by
  obtain ⟨-, rfl⟩ := mem_of_lookup? h
  exact h

theorem Registry.holds_of_lookupName? {r : Registry} {generic : Text} {s : Slot}
    (h : r.lookupName? generic = some s) : r.Holds s := by
  obtain ⟨key, -, hs⟩ := exists_of_lookupName? h
  exact holds_of_lookup? hs

/-- The slots that the helper is lowered with are those of the registry. -/
theorem Registry.holds_felt_wide {r : Registry} {felt wide : Slot}
    (hfelt : r.lookupName? "felt" = some felt) (hwide : r.lookup? wideKey = some wide) :
    ∀ s ∈ [felt, wide], r.Holds s := by
  intro s hs
  rcases List.mem_pair.mp hs with rfl | rfl
  · exact holds_of_lookupName? hfelt
  · exact holds_of_lookup? hwide

/-- A body that calls no helper but the given one. -/
def Body.Uses (helper : Option Helper) : Body → Prop
  | .field _ (some h) => helper = some h
  | _ => True

namespace Compiler

/-- The changes a compiler can undergo. -/
inductive Move : Compiler → Compiler → Prop
  | line (c : Compiler) (line : Int) : Move c (c.setLine line)
  | type {c c' : Compiler} {d : Declaration} (h : c.declareType d = .ok c') : Move c c'
  | wide {c : Compiler} (h : c.registry.lookup? wideKey = none) :
      Move c (c.insertType wideKey "felt_wide" (c.registry.fresh (.int Felt.wideWidth)))
  | function {c : Compiler} {name : Text} {result : Slot} {params : List Slot} {body : Body}
      {done : Lowered} (hslots : ∀ s ∈ result :: params, c.registry.Holds s)
      (hbody : body.Uses c.helper) (h : c.lower name result params body = .ok done) :
      Move c done.compiler
  | helper {c : Compiler} {felt wide : Slot} {done : Lowered} (hnone : c.helper = none)
      (hfelt : c.registry.lookupName? "felt" = some felt)
      (hwide : c.registry.lookup? wideKey = some wide)
      (h : c.lower helperName felt [wide] .reduce = .ok done) :
      Move c { done.compiler with helper := some ⟨c.module.functions.length⟩ }

def Reaches : Compiler → Compiler → Prop := Relation.ReflTransGen Move

theorem Reaches.trans {a b c : Compiler} (h : Reaches a b) (h' : Reaches b c) : Reaches a c :=
  Relation.ReflTransGen.trans h h'

/-- What every move preserves is preserved by a series of moves. -/
theorem Reaches.induction {P : Compiler → Prop} {c c' : Compiler} (h : Reaches c c')
    (hstep : ∀ {a b}, Move a b → P a → P b) (hc : P c) : P c' := by
  induction h with
  | refl => exact hc
  | tail _ hmove ih => exact hstep hmove ih

/-! ## Single calls -/

theorem wideSlot_reaches (c : Compiler) :
    Reaches c c.wideSlot.1 ∧ c.wideSlot.1.registry.lookup? wideKey = some c.wideSlot.2 := by
  unfold wideSlot
  cases h : c.registry.lookup? wideKey with
  | some slot => exact ⟨.refl, h⟩
  | none =>
    refine ⟨.single (.wide h), ?_⟩
    have hfree : c.registry.has wideKey = false :=
      Registry.has_eq_false_iff.mpr (Registry.lookup?_eq_none_iff.mp h)
    show (c.insertType wideKey "felt_wide" _).registry.lookup? wideKey = _
    rw [insertType, describeType_registry]
    exact Registry.lookup?_add_self hfree _

/-- Entering the wide type leaves the builtins, the helper and the functions as they are. -/
theorem wideSlot_frame (c : Compiler) :
    c.wideSlot.1.helper = c.helper ∧ c.wideSlot.1.module.functions = c.module.functions ∧
      c.wideSlot.1.registry.names = c.registry.names ∧ ∀ key slot, c.registry.lookup? key = some slot →
        c.wideSlot.1.registry.lookup? key = some slot := by
  unfold wideSlot
  cases h : c.registry.lookup? wideKey with
  | some slot => exact ⟨rfl, rfl, rfl, fun _ _ hs => hs⟩
  | none =>
    refine ⟨?_, ?_, ?_, fun key slot hs => ?_⟩
    · simp only [insertType, describeType_helper]
    · simp only [insertType, describeType_functions]
    · simp only [insertType, describeType_registry, Registry.names_add]
    · simp only [insertType, describeType_registry]
      exact Registry.lookup?_add_of_some hs _ _

theorem lookupName?_wideSlot {c : Compiler} {generic : Text} {slot : Slot}
    (h : c.registry.lookupName? generic = some slot) :
    c.wideSlot.1.registry.lookupName? generic = some slot := by
  obtain ⟨-, -, hnames, hkeep⟩ := c.wideSlot_frame
  unfold Registry.lookupName? at h ⊢
  rw [hnames]
  obtain ⟨n, hn, hs⟩ := Option.bind_eq_some_iff.mp h
  rw [hn, Option.bind_some]
  exact hkeep _ _ hs

theorem declareHelper_reaches (c : Compiler) : Reaches c c.declareHelper.1 := by
  rw [declareHelper_eq]
  cases hh : c.helper with
  | some h => exact .refl
  | none =>
    cases hf : c.registry.lookupName? "felt" with
    | none => exact .refl
    | some felt =>
      obtain ⟨hreach, hwide⟩ := c.wideSlot_reaches
      obtain ⟨hhelper, -⟩ := c.wideSlot_frame
      simp only
      cases hl : c.wideSlot.1.lower helperName felt [c.wideSlot.2] .reduce with
      | error e => exact hreach
      | ok done =>
        exact hreach.tail (.helper (hhelper.trans hh) (lookupName?_wideSlot hf) hwide hl)

theorem Requests.uses {c : Compiler} {d : Declaration} {libfunc : Libfunc} {result : Slot}
    {params : List Slot} {body : Body} (h : Requests c d libfunc result params body) :
    (∀ s ∈ result :: params, c.registry.Holds s) ∧ body.Uses c.helper := by
  cases h with
  | const hfelt _ _ =>
    have hs := Registry.holds_of_lookupName? hfelt
    exact ⟨by simpa using hs, trivial⟩
  | binary hfelt hhelper =>
    have hs := Registry.holds_of_lookupName? hfelt
    exact ⟨by simpa using hs, hhelper⟩
  | wrappingAdd hslot =>
    have hs := Registry.holds_of_lookupName? hslot
    exact ⟨by simpa using hs, trivial⟩

theorem callLibfunc_move {c : Compiler} {d : Declaration} {libfunc : Libfunc} {done : Lowered}
    (h : c.callLibfunc d libfunc = .ok done) : Move c done.compiler := by
  obtain ⟨-, result, params, body, hreq, hlower⟩ := callLibfunc_eq_ok_iff.mp h
  exact .function hreq.uses.1 hreq.uses.2 hlower

theorem declareLibfunc_move {c : Compiler} {d : Declaration} {done : Lowered}
    (h : c.declareLibfunc d = .ok done) : Move c done.compiler := by
  obtain ⟨libfunc, -, hcall⟩ := declareLibfunc_eq_ok_iff.mp h
  exact callLibfunc_move hcall

/-! ## Programs -/

theorem addFunction_eq_ok_iff {c c' : Compiler} {d : Declaration} :
    c.addFunction d = .ok c' ↔ ∃ done, c.declareLibfunc d = .ok done ∧ done.compiler = c' := by
  unfold addFunction
  cases c.declareLibfunc d with
  | error e => simp [Except.map]
  | ok done => simp [Except.map]

theorem declareEach_reaches {declare : Compiler → Declaration → Except LowerError Compiler}
    (hdeclare : ∀ {c d c'}, declare c d = .ok c' → Reaches c c') {line : Nat}
    {ds : List Declaration} {c c' : Compiler} (h : declareEach declare line ds c = .ok c') :
    Reaches c c' := by
  induction ds generalizing line c with
  | nil =>
    cases h
    exact .refl
  | cons d rest ih =>
    rw [declareEach] at h
    cases hd : declare (c.setLine line) d with
    | error e =>
      rw [hd] at h
      cases h
    | ok mid =>
      rw [hd] at h
      exact (Relation.ReflTransGen.single (.line c line)).trans ((hdeclare hd).trans (ih h))

theorem helperIfFelt_reaches {line : Nat} {c c' : Compiler}
    (h : c.helperIfFelt line = .ok c') : Reaches c c' := by
  unfold helperIfFelt at h
  split at h
  · cases ho : (c.setLine line).declareHelper.2 with
    | error e =>
      rw [ho] at h
      cases h
    | ok r =>
      rw [ho] at h
      cases h
      exact (Relation.ReflTransGen.single (.line c line)).trans (declareHelper_reaches _)
  · cases h
    exact .refl

theorem lowerDecls_reaches {p : Program} {c c' : Compiler} (h : c.lowerDecls p = .ok c') :
    Reaches c c' := by
  unfold lowerDecls at h
  cases ht : declareEach declareType 1 p.typeList c with
  | error e =>
    rw [ht] at h
    cases h
  | ok typed =>
    rw [ht] at h
    simp only at h
    cases hh : typed.helperIfFelt (p.typeList.length + 1) with
    | error e =>
      rw [hh] at h
      cases h
    | ok helped =>
      rw [hh] at h
      have h₁ := declareEach_reaches (fun hd => .single (.type hd)) ht
      have h₂ := helperIfFelt_reaches hh
      have h₃ : Reaches helped c' := by
        refine declareEach_reaches (fun hd => ?_) h
        obtain ⟨done, hdone, rfl⟩ := addFunction_eq_ok_iff.mp hd
        exact .single (declareLibfunc_move hdone)
      exact h₁.trans (h₂.trans h₃)

end Compiler

/-! ## Sequences of calls -/

/-- A way to ask the registry for a slot. -/
inductive SlotRef where
  | key (key : Text)
  | builtin (name : Text)
  deriving DecidableEq, Repr

def SlotRef.find? (r : Registry) : SlotRef → Option Slot
  | .key k => r.lookup? k
  | .builtin n => r.lookupName? n

theorem SlotRef.holds_of_find? {r : Registry} {ref : SlotRef} {s : Slot}
    (h : ref.find? r = some s) : r.Holds s := by
  cases ref with
  | key key => exact Registry.holds_of_lookup? h
  | builtin name => exact Registry.holds_of_lookupName? h

/-- Slots that are asked for one by one are all held. -/
theorem SlotRef.holds_of_mapM {r : Registry} {refs : List SlotRef} {slots : List Slot}
    (h : refs.mapM (SlotRef.find? r) = some slots) : ∀ s ∈ slots, r.Holds s := by
  induction refs generalizing slots with
  | nil =>
    cases h
    intro s hs
    exact absurd hs List.not_mem_nil
  | cons ref refs ih =>
    rw [List.mapM_cons] at h
    obtain ⟨slot, hslot, h⟩ := Option.bind_eq_some_iff.mp h
    obtain ⟨rest, hrest, h⟩ := Option.bind_eq_some_iff.mp h
    cases h
    intro s hs
    rcases List.mem_cons.mp hs with rfl | hs
    · exact holds_of_find? hslot
    · exact ih hrest s hs

def Body.withHelper (helper : Option Helper) : Body → Body
  | .field op (some _) => .field op helper
  | body => body

theorem Body.uses_withHelper (helper : Option Helper) (body : Body) :
    (body.withHelper helper).Uses helper := by
  cases body with
  | field op h =>
    cases h with
    | none => exact trivial
    | some h =>
      cases helper with
      | none => exact trivial
      | some own => exact rfl
  | _ => exact trivial

/-- A call of a compiler.  `lower` finds its slots in the registry, and a body that names a
helper gets the one of the compiler. -/
inductive Operation where
  | setLine (line : Int)
  | setTracer (journal : Journal) (span : Nat)
  | declareType (d : Declaration)
  | declareHelper
  | declareLibfunc (d : Declaration)
  | callLibfunc (libfunc : Compiler.Libfunc) (d : Declaration)
  | lower (name : Text) (result : SlotRef) (params : List SlotRef) (body : Body)

/-- A compiler in use, with the span its events belong to. -/
structure Session where
  progress : Progress
  span : Nat := 0

namespace Session

def compiler (s : Session) : Compiler := s.progress.compiler

def start (o : Options) : Session := { progress := { compiler := .new o } }

def step (s : Session) : Operation → Session
  | .setLine line => { s with progress := s.progress.setLine line }
  | .setTracer journal span => { progress := { s.progress with journal }, span }
  | .declareType d => { s with progress := (s.progress.declareType s.span d).1 }
  | .declareHelper => { s with progress := (s.progress.declareHelper s.span).1 }
  | .declareLibfunc d => { s with progress := (s.progress.declareLibfunc s.span d).1 }
  | .callLibfunc libfunc d =>
    { s with progress := (s.progress.perform s.span (Call.libfunc d libfunc)).1 }
  | .lower name result params body =>
    match result.find? s.compiler.registry, params.mapM (SlotRef.find? s.compiler.registry) with
    | some result, some params =>
      { s with
        progress := (s.progress.perform s.span
          (Call.lower name result params (body.withHelper s.compiler.helper))).1 }
    | _, _ => s

def run (s : Session) (ops : List Operation) : Session := ops.foldl step s

end Session

namespace Progress

theorem perform_reaches (s : Progress) (parent : Nat) {call : Call Summary} (hcall : call.Atomic)
    (h : ∀ done, call.lowered s.compiler = .ok done → Compiler.Move s.compiler done.compiler) :
    Compiler.Reaches s.compiler (s.perform parent call).1.compiler :=
  perform_preserves hcall (fun done hdone => .single (h done hdone)) .refl

theorem declareType_reaches (s : Progress) (parent : Nat) (d : Declaration) :
    Compiler.Reaches s.compiler (s.declareType parent d).1.compiler := by
  cases hcheck : s.compiler.checkType d with
  | error e =>
    rw [declareType_of_check hcheck]
    exact .refl
  | ok u =>
    cases hadd : s.compiler.addType d with
    | error e =>
      rw [declareType_of_error hcheck hadd]
      exact .refl
    | ok c =>
      rw [declareType_of_ok hcheck hadd]
      exact .single (.type (bind_eq_ok_iff.mpr ⟨u, hcheck, hadd⟩))

theorem declareHelper_compiler (s : Progress) (parent : Nat) :
    (s.declareHelper parent).1.compiler = s.compiler.declareHelper.1 := by
  match hrun : s.compiler.declareHelper with
  | (c, .error e) => rw [declareHelper_of_error hrun]
  | (c, .ok (h, none)) => rw [declareHelper_of_none hrun]
  | (c, .ok (h, some f)) =>
    rw [declareHelper_of_some hrun]
    rfl

theorem declareLibfunc_reaches (s : Progress) (parent : Nat) (d : Declaration) :
    Compiler.Reaches s.compiler (s.declareLibfunc parent d).1.compiler := by
  cases hname : Compiler.libfuncName d with
  | error e =>
    rw [declareLibfunc_of_unnamed hname]
    exact .refl
  | ok name =>
    rw [declareLibfunc_of_named hname]
    refine perform_reaches (s.note .decl (libfuncLabel d) d.genericId parent) parent
      (Call.atomic_addLibfunc d) fun done hdone => ?_
    exact Compiler.declareLibfunc_move (bind_eq_ok_iff.mpr ⟨name, hname, hdone⟩)

end Progress

namespace Session

theorem step_reaches (s : Session) (op : Operation) :
    Compiler.Reaches s.compiler (s.step op).compiler := by
  cases op with
  | setLine line => exact .single (.line s.compiler line)
  | setTracer journal span => exact .refl
  | declareType d => exact s.progress.declareType_reaches s.span d
  | declareHelper =>
    show Compiler.Reaches s.compiler (s.progress.declareHelper s.span).1.compiler
    rw [Progress.declareHelper_compiler]
    exact s.compiler.declareHelper_reaches
  | declareLibfunc d => exact s.progress.declareLibfunc_reaches s.span d
  | callLibfunc libfunc d =>
    exact s.progress.perform_reaches s.span (Call.atomic_libfunc d libfunc) fun done h =>
      Compiler.callLibfunc_move h
  | lower name result params body =>
    cases hresult : result.find? s.compiler.registry with
    | none =>
      simp only [step, hresult]
      exact .refl
    | some r =>
      cases hparams : params.mapM (SlotRef.find? s.compiler.registry) with
      | none =>
        simp only [step, hresult, hparams]
        exact .refl
      | some ps =>
        simp only [step, hresult, hparams]
        refine s.progress.perform_reaches s.span (Call.atomic_lower _ _ _ _) fun done h => ?_
        refine .function (fun slot hslot => ?_) (Body.uses_withHelper _ body) h
        rcases List.mem_cons.mp hslot with rfl | hslot
        · exact SlotRef.holds_of_find? hresult
        · exact SlotRef.holds_of_mapM hparams slot hslot

/-- Every sequence of calls is a series of moves. -/
theorem run_reaches (s : Session) (ops : List Operation) :
    Compiler.Reaches s.compiler (s.run ops).compiler := by
  induction ops generalizing s with
  | nil => exact .refl
  | cons op rest ih => exact (s.step_reaches op).trans (ih (s.step op))

end Session
end Lowering
end FeltLowering
