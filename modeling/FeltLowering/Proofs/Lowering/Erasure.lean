import FeltLowering.Proofs.Lowering.Acceptance
import FeltLowering.Proofs.Lowering.Mirror

/-
Debug info does not change the code.

`Compiler.erase` takes all metadata away: the debug table, the definitions, the
attachments, and the names the module was given.  Every step of a lowering commutes with
it.  The step on the erased compiler is the erased step, with the same errors and the same
journal, provided that a type whose name debug info asks for has one.  All fresh
compilers are the same once erased, so a lowering under any options ends like the lowering
under the default ones: `lowerProgram_erase`.

The equations hold for the compilers that can come about only.  On others a signature may
lack a debug type, and then a lowering fails with debug info and succeeds without.
-/
namespace FeltLowering

namespace Ir

theorem Inst.bare_eq_self {i : Inst} (h : Lowering.Compiler.attachmentsOf i = []) : i.bare = i := by
  cases i with
  | call name result callee args attachments =>
    have hnone : attachments = [] := h
    rw [hnone]
    rfl
  | _ => rfl

theorem Function.Unmarked.bare_eq {f : Function} (h : f.Unmarked) : f.bare = f := by
  have hblocks : f.blocks.map Block.bare = f.blocks := by
    refine (List.map_congr_left fun b hb => ?_).trans (List.map_id _)
    have hinsts : b.insts.map Inst.bare = b.insts := by
      refine (List.map_congr_left fun i hi => ?_).trans (List.map_id _)
      exact Inst.bare_eq_self (h.2 i (List.mem_flatMap.mpr ⟨b, hb, hi⟩))
    rw [Block.bare, hinsts]
    rfl
  rw [Function.bare, hblocks, ← h.1]

/-- Evaluation looks at the functions of a module and at nothing else. -/
theorem Module.eval_congr {m m' : Module} (h : m'.functions = m.functions) (depth : Nat)
    (f : Function) (args : List Int) : m'.eval depth f args = m.eval depth f args := by
  induction depth generalizing f args with
  | zero => rfl
  | succ depth ih => simp only [eval, h, ih]

end Ir

namespace Lowering

open Ir Trace

namespace Compiler

def erase (c : Compiler) : Compiler :=
  { c with
    debug := none
    module := { functions := c.module.functions.map Function.bare, unlisted := c.module.unlisted } }

def Lowered.erase (done : Lowered) : Lowered := { done with compiler := done.compiler.erase }

theorem new_erase (o : Options) : (new o).erase = new {} := by
  unfold new
  cases o.debugInfo <;> rfl

theorem listed_erase (c : Compiler) : c.erase.module.listed = c.module.listed.map Function.bare := by
  simp only [Module.listed, erase, List.zipIdx_map, List.filter_map, List.map_map]
  rfl

theorem call_erase (c : Compiler) (name : Text) (args : List Int) :
    c.erase.module.call name args = c.module.call name args := by
  have hfind : c.erase.module.find? name = (c.module.find? name).map Function.bare := by
    rw [Module.find?, listed_erase, List.find?_map]
    rfl
  unfold Module.call
  rw [hfind]
  cases c.module.find? name with
  | none => rfl
  | some f =>
    show c.erase.module.eval maxDepth f.bare args = c.module.eval maxDepth f args
    rw [← Module.eval_bare c.module]
    exact Module.eval_congr rfl maxDepth f.bare args

/-! ## Types -/

theorem describeType_erase (c : Compiler) (key name : Text) (size : Nat) :
    (c.describeType key name size).erase = c.erase := by
  unfold describeType
  cases c.debug <;> rfl

theorem insertType_erase (c : Compiler) (key name : Text) (type : Handle) :
    (c.insertType key name type).erase = c.erase.insertType key name type :=
  describeType_erase _ _ _ _

theorem addBuiltin_erase (c : Compiler) (d : Declaration) (builtin : Text) (type : Handle) :
    (c.addBuiltin d builtin type).erase = c.erase.addBuiltin d builtin type := by
  have h := c.insertType_erase d.id.key d.id.name type
  unfold addBuiltin
  rw [← h]
  rfl

theorem aliasType_erase (c : Compiler) (key name : Text) (inner : Slot) :
    (c.aliasType key name inner).erase = c.erase.aliasType key name inner :=
  describeType_erase _ _ _ _

theorem checkType_erase {c : Compiler} {d : Declaration}
    (h : c.debugInfo = true → d.id.hasName = true) : c.erase.checkType d = c.checkType d := by
  have hnamed : (c.debugInfo && !d.id.hasName) = false := by
    cases hon : c.debugInfo with
    | false => rfl
    | true => rw [h hon]; rfl
  unfold checkType
  rw [hnamed]
  rfl

theorem addWrapper_erase (c : Compiler) (d : Declaration) :
    c.erase.addWrapper d = (c.addWrapper d).map erase := by
  have hreg : c.erase.registry = c.registry := rfl
  rw [addWrapper_eq, addWrapper_eq, hreg]
  cases wrappedType d with
  | error e => rfl
  | ok inner =>
    simp only [bind, Except.bind]
    cases c.registry.lookup? inner.key with
    | none => rfl
    | some slot => simp only [pure, Except.pure, Except.map, aliasType_erase]

theorem addType_erase (c : Compiler) (d : Declaration) :
    c.erase.addType d = (c.addType d).map erase := by
  rw [addType_eq, addType_eq]
  split
  · rw [Except.map, addBuiltin_erase]
    rfl
  · split
    · exact c.addWrapper_erase d
    · split
      · rw [Except.map, addBuiltin_erase]
      · rfl

/-! ## Functions -/

theorem install_erase (c : Compiler) {f : Function} (hf : f.bare = f)
    (signature signature' : List NodeRef) :
    (c.install f signature).erase = c.erase.install f signature' := by
  have hfuncs : (c.install f signature).module.functions.map Function.bare =
      c.module.functions.map Function.bare ++ [f] := by
    rw [install_functions, List.map_append, List.map_singleton, described_bare, hf]
  have htable : c.module.functions.length = (c.module.functions.map Function.bare).length :=
    (List.length_map _).symm
  unfold erase
  rw [hfuncs, install_table, install_registry, install_helper, install_line, install_unlisted, htable]
  rfl

/-- A lowering over registered slots fails or succeeds whether there is debug info or not. -/
theorem lower_erase {c : Compiler} (hp : c.Paired) (name : Text) {result : Slot}
    {params : List Slot} (body : Body) (hslots : ∀ s ∈ result :: params, c.registry.Holds s) :
    c.erase.lower name result params body = (c.lower name result params body).map Lowered.erase := by
  obtain ⟨signature, hsig⟩ := hp.debugSignature name hslots
  have hnone : c.erase.debugSignature name (result :: params) = .ok [] :=
    debugSignature_of_none rfl name _
  have hcheck : c.erase.checkBody name params body = c.checkBody name params body := rfl
  rw [lower_eq, lower_eq, hcheck, hsig, hnone]
  cases c.checkBody name params body with
  | error e => rfl
  | ok u =>
    cases hcode : body.code result.type.ty (params.map fun p => p.type.ty) with
    | error fault =>
      rfl
    | ok code =>
      have hbare := (buildFunction_unmarked name hcode).bare_eq
      simp only [bind, Except.bind, pure, Except.pure, Except.map, Except.mapError, Lowered.erase]
      rw [install_erase c hbare signature []]

theorem wideSlot_erase (c : Compiler) : c.erase.wideSlot = (c.wideSlot.1.erase, c.wideSlot.2) := by
  have hreg : c.erase.registry = c.registry := rfl
  unfold wideSlot
  rw [hreg]
  cases c.registry.lookup? wideKey with
  | some slot => rfl
  | none =>
    simp only
    rw [insertType_erase]

theorem declareHelper_erase {c : Compiler} (hp : c.Paired) :
    c.erase.declareHelper = (c.declareHelper.1.erase, c.declareHelper.2) := by
  have hreg : c.erase.registry = c.registry := rfl
  have hhelper : c.erase.helper = c.helper := rfl
  rw [declareHelper_eq, declareHelper_eq, hreg, hhelper, wideSlot_erase]
  cases c.helper with
  | some h => rfl
  | none =>
    cases hf : c.registry.lookupName? "felt" with
    | none => rfl
    | some felt =>
      obtain ⟨hreach, hwide⟩ := c.wideSlot_reaches
      have hpaired : c.wideSlot.1.Paired := hreach.induction (fun hmove => hmove.paired) hp
      have hslots : ∀ s ∈ [felt, c.wideSlot.2], c.wideSlot.1.registry.Holds s := by
        intro s hs
        rcases List.mem_pair.mp hs with rfl | rfl
        · exact Registry.holds_of_lookupName? (lookupName?_wideSlot hf)
        · exact Registry.holds_of_lookup? hwide
      have hlower := lower_erase hpaired helperName .reduce hslots
      simp only [hlower]
      cases c.wideSlot.1.lower helperName felt [c.wideSlot.2] .reduce with
      | error e => rfl
      | ok done =>
        have hlen : c.wideSlot.1.erase.module.functions.length =
            c.wideSlot.1.module.functions.length := List.length_map _
        simp only [Except.map, hlen]
        rfl

/-! ## Libfuncs -/

theorem callLibfunc_erase {c : Compiler} (hp : c.Paired) (d : Declaration) (libfunc : Libfunc) :
    c.erase.callLibfunc d libfunc = (c.callLibfunc d libfunc).map Lowered.erase := by
  have hslot : ∀ builtin, c.erase.builtinSlot d builtin = c.builtinSlot d builtin := fun _ => rfl
  have hhelper : c.erase.helperFor d = c.helperFor d := rfl
  have hheld : ∀ {builtin slot}, c.builtinSlot d builtin = .ok slot → c.registry.Holds slot :=
    fun h => Registry.holds_of_lookupName? (builtinSlot_eq_ok_iff.mp h)
  cases libfunc with
  | feltConst =>
    rw [callLibfunc_feltConst, callLibfunc_feltConst, hslot]
    cases hf : c.builtinSlot d "felt" with
    | error e => rfl
    | ok felt =>
      cases constValue d with
      | error e => rfl
      | ok v =>
        cases libfuncName d with
        | error e => rfl
        | ok name => exact lower_erase hp name _ (by simpa using hheld hf)
  | feltBinary op =>
    rw [callLibfunc_feltBinary, callLibfunc_feltBinary, hslot, hhelper]
    cases hf : c.builtinSlot d "felt" with
    | error e => rfl
    | ok felt =>
      cases c.helperFor d with
      | error e => rfl
      | ok helper =>
        cases libfuncName d with
        | error e => rfl
        | ok name => exact lower_erase hp name _ (by simpa using hheld hf)
  | wrappingAdd builtin =>
    rw [callLibfunc_wrappingAdd, callLibfunc_wrappingAdd, hslot]
    cases hs : c.builtinSlot d builtin with
    | error e => rfl
    | ok slot =>
      cases libfuncName d with
      | error e => rfl
      | ok name => exact lower_erase hp name _ (by simpa using hheld hs)

theorem addLibfunc_erase {c : Compiler} (hp : c.Paired) (d : Declaration) :
    c.erase.addLibfunc d = (c.addLibfunc d).map Lowered.erase := by
  cases h : Libfunc.ofGeneric? d.genericId with
  | some libfunc =>
    rw [addLibfunc_of_some h, addLibfunc_of_some h]
    exact callLibfunc_erase hp d libfunc
  | none =>
    rw [addLibfunc_of_none h, addLibfunc_of_none h]
    rfl

end Compiler

/-! ## Traced steps -/

namespace Progress

def erase (s : Progress) : Progress := { s with compiler := s.compiler.erase }

/-- The first step keeps to moves, and the second is the first without metadata. -/
def ErasesTo {α : Type} (o : Options) (r r' : Progress × Except LowerError α) : Prop :=
  Compiler.Reaches (.new o) r.1.compiler ∧ r' = (r.1.erase, r.2)

variable {o : Options} {s : Progress}

theorem perform_erase (s : Progress) (parent : Nat) {call : Call Summary} (hcall : call.Atomic)
    (h : call.lowered s.compiler.erase = (call.lowered s.compiler).map Compiler.Lowered.erase) :
    s.erase.perform parent call =
      ((s.perform parent call).1.erase, (s.perform parent call).2) := by
  cases hrun : call.lowered s.compiler with
  | error e =>
    rw [hrun] at h
    rw [perform_of_error hcall hrun, perform_of_error (s := s.erase) hcall h]
  | ok done =>
    rw [hrun] at h
    rw [perform_of_ok hrun, perform_of_ok (s := s.erase) h]
    rfl

theorem declareType_erases (hs : Compiler.Reaches (.new o) s.compiler) (parent : Nat)
    {d : Declaration} (hd : o.debugInfo = true → d.id.hasName = true) :
    ErasesTo o (s.declareType parent d) (s.erase.declareType parent d) := by
  refine ⟨hs.trans (s.declareType_reaches parent d), ?_⟩
  have hcheck : s.compiler.erase.checkType d = s.compiler.checkType d :=
    Compiler.checkType_erase fun hon => hd (hs.debugInfo_eq ▸ hon)
  have hadd := s.compiler.addType_erase d
  cases hc : s.compiler.checkType d with
  | error e => rw [declareType_of_check hc, declareType_of_check (s := s.erase) (hcheck.trans hc)]
  | ok u =>
    cases ha : s.compiler.addType d with
    | error e =>
      rw [ha] at hadd
      rw [declareType_of_error hc ha, declareType_of_error (s := s.erase) (hcheck.trans hc) hadd]
      rfl
    | ok c =>
      rw [ha] at hadd
      rw [declareType_of_ok hc ha, declareType_of_ok (s := s.erase) (hcheck.trans hc) hadd]
      rfl

theorem declareLibfunc_erases (hs : Compiler.Reaches (.new o) s.compiler) (parent : Nat)
    (d : Declaration) : ErasesTo o (s.declareLibfunc parent d) (s.erase.declareLibfunc parent d) := by
  refine ⟨hs.trans (s.declareLibfunc_reaches parent d), ?_⟩
  have hadd := Compiler.addLibfunc_erase hs.paired d
  have hnote : s.erase.note .decl (libfuncLabel d) d.genericId parent =
      (s.note .decl (libfuncLabel d) d.genericId parent).erase := rfl
  cases hname : Compiler.libfuncName d with
  | error e => rw [declareLibfunc_of_unnamed hname, declareLibfunc_of_unnamed hname]
  | ok name =>
    rw [declareLibfunc_of_named hname, declareLibfunc_of_named hname, hnote]
    exact perform_erase _ parent (Call.atomic_addLibfunc d) hadd

theorem declareHelper_erases (hs : Compiler.Reaches (.new o) s.compiler) (parent : Nat) :
    ErasesTo o (s.declareHelper parent) (s.erase.declareHelper parent) := by
  have hhelper : s.erase.compiler.declareHelper = _ := Compiler.declareHelper_erase hs.paired
  constructor
  · rw [declareHelper_compiler]
    exact hs.trans s.compiler.declareHelper_reaches
  · match hrun : s.compiler.declareHelper with
    | (c, .error e) =>
      rw [hrun] at hhelper
      rw [declareHelper_of_error hrun, declareHelper_of_error hhelper]
      rfl
    | (c, .ok (h, none)) =>
      rw [hrun] at hhelper
      rw [declareHelper_of_none hrun, declareHelper_of_none hhelper]
      rfl
    | (c, .ok (h, some f)) =>
      rw [hrun] at hhelper
      rw [declareHelper_of_some hrun, declareHelper_of_some hhelper]
      rfl

theorem setLine_reaches (hs : Compiler.Reaches (.new o) s.compiler) (line : Int) :
    Compiler.Reaches (.new o) (s.setLine line).compiler :=
  hs.tail (.line s.compiler line)

theorem helperIfFelt_erases (hs : Compiler.Reaches (.new o) s.compiler) (line parent : Nat) :
    ErasesTo o (s.helperIfFelt line parent) (s.erase.helperIfFelt line parent) := by
  have hreg : s.erase.compiler.registry = s.compiler.registry := rfl
  have hset : s.erase.setLine line = (s.setLine line).erase := rfl
  unfold helperIfFelt
  rw [hreg]
  split
  · obtain ⟨hreach, herase⟩ := declareHelper_erases (setLine_reaches hs line) parent
    rw [hset, herase]
    exact ⟨hreach, rfl⟩
  · exact ⟨hs, rfl⟩

/-- Run: the declarations one after another, also if the run is canceled on the way. -/
theorem declareAll_erases (env : Environment)
    {declare : Progress → Declaration → Progress × Except LowerError Unit} {ds : List Declaration}
    (h : ∀ d ∈ ds, ∀ s : Progress, Compiler.Reaches (.new o) s.compiler →
      ErasesTo o (declare s d) (declare s.erase d))
    (hs : Compiler.Reaches (.new o) s.compiler) (line : Nat) :
    ErasesTo o (s.declareAll env declare line ds) (s.erase.declareAll env declare line ds) := by
  induction ds generalizing s line with
  | nil => exact ⟨hs, rfl⟩
  | cons d rest ih =>
    have hjournal : s.erase.journal = s.journal := rfl
    have hset : s.erase.setLine line = (s.setLine line).erase := rfl
    unfold declareAll
    rw [hjournal]
    split
    · exact ⟨hs, rfl⟩
    · obtain ⟨hreach, herase⟩ := h d List.mem_cons_self _ (setLine_reaches hs line)
      rw [hset, herase]
      generalize declare (s.setLine line) d = step at hreach
      obtain ⟨s', r⟩ := step
      cases r with
      | error e => exact ⟨hreach, rfl⟩
      | ok u => exact ih (fun d hd => h d (List.mem_cons_of_mem _ hd)) hreach (line + 1)

theorem pass_erases (hs : Compiler.Reaches (.new o) s.compiler) (name : Text) (parent : Nat)
    {work : Nat → Progress → Progress × Except LowerError Unit}
    (h : ∀ span (s : Progress), Compiler.Reaches (.new o) s.compiler →
      ErasesTo o (work span s) (work span s.erase)) :
    ErasesTo o (s.pass name parent work) (s.erase.pass name parent work) := by
  have hjournal : s.erase.journal = s.journal := rfl
  unfold pass
  rw [hjournal]
  obtain ⟨span, journal⟩ := s.journal.begin .pass name parent
  obtain ⟨hreach, herase⟩ := h span.id { s with journal } hs
  have hwork : work span.id { s.erase with journal } = _ := herase
  simp only [hwork]
  exact ⟨hreach, rfl⟩

theorem lowerDecls_erases (env : Environment) {p : Program} (parent : Nat)
    (hs : Compiler.Reaches (.new o) s.compiler)
    (hnamed : o.debugInfo = true → ∀ d ∈ p.typeList, d.id.hasName = true) :
    ErasesTo o (s.lowerDecls env p parent) (s.erase.lowerDecls env p parent) := by
  have htypes : ErasesTo o
      (s.pass "types" parent fun span s =>
        s.declareAll env (fun s d => s.declareType span d) 1 p.typeList)
      (s.erase.pass "types" parent fun span s =>
        s.declareAll env (fun s d => s.declareType span d) 1 p.typeList) := by
    refine pass_erases hs _ _ fun span s hs => declareAll_erases env (fun d hd s hs => ?_) hs 1
    exact declareType_erases hs span fun hon => hnamed hon d hd
  unfold lowerDecls
  obtain ⟨hreach, herase⟩ := htypes
  simp only [herase]
  generalize s.pass "types" parent _ = step at hreach
  obtain ⟨s₁, r₁⟩ := step
  cases r₁ with
  | error e => exact ⟨hreach, rfl⟩
  | ok u =>
    have hhelper : ErasesTo o
        (s₁.pass "helpers" parent fun span s => s.helperIfFelt (p.typeList.length + 1) span)
        (s₁.erase.pass "helpers" parent fun span s => s.helperIfFelt (p.typeList.length + 1) span) :=
      pass_erases hreach _ _ fun span s hs => helperIfFelt_erases hs _ span
    obtain ⟨hreach', herase'⟩ := hhelper
    simp only [herase']
    generalize s₁.pass "helpers" parent _ = step at hreach'
    obtain ⟨s₂, r₂⟩ := step
    cases r₂ with
    | error e => exact ⟨hreach', rfl⟩
    | ok u =>
      refine pass_erases hreach' _ _ fun span s hs => declareAll_erases env (fun d _ s hs => ?_) hs _
      exact declareLibfunc_erases hs span d

end Progress

/-! ## Programs -/

/-- A lowering under any options ends like the one under the default options, once the
metadata is gone: with the same journal, and with the same error or the same compiler. -/
theorem lowerProgram_erase (env : Environment) (journal : Journal) {p : Program} {o : Options}
    (hnamed : o.debugInfo = true → ∀ d ∈ p.typeList, d.id.hasName = true) :
    lowerProgram env journal p {} =
      ((lowerProgram env journal p o).1, (lowerProgram env journal p o).2.map Compiler.erase) := by
  unfold lowerProgram
  obtain ⟨root, journal⟩ := journal.begin .driver "lower" env.span
  have hstart : Compiler.Reaches (.new o) (Progress.mk (.new o) journal).compiler := .refl
  obtain ⟨-, herase⟩ := Progress.lowerDecls_erases env root.id hstart hnamed
  have hblank : (Progress.mk (.new o) journal).erase = ⟨.new {}, journal⟩ := by
    rw [Progress.erase, Compiler.new_erase]
  rw [hblank] at herase
  simp only [herase]
  obtain ⟨s, r⟩ := Progress.lowerDecls env p root.id ⟨.new o, journal⟩
  cases r with
  | error e => rfl
  | ok u =>
    have hcount : s.erase.compiler.module.listed.length = s.compiler.module.listed.length := by
      rw [show s.erase.compiler = s.compiler.erase from rfl, Compiler.listed_erase, List.length_map]
    simp only [hcount]
    rfl

/-- With debug info a program is accepted only if its types are named. -/
theorem typeNames_of_lowerProgram {env : Environment} {journal : Journal} {p : Program}
    {o : Options} {c : Compiler} (h : (lowerProgram env journal p o).2 = .ok c)
    (hon : o.debugInfo = true) : ∀ d ∈ p.typeList, d.id.debugName ≠ [] := by
  have haccepted : p.Accepted o.debugInfo :=
    (accepted_iff o p).mpr ((Compiler.lowerDecls_ok_iff o p).mp ⟨c, lowerDecls_of_lowerProgram h⟩)
  exact haccepted.typeNames hon

/-- Two lowerings of a program with named types leave the same once erased. -/
theorem lowerProgram_erase_eq (env : Environment) (journal : Journal) {p : Program}
    (hnames : ∀ d ∈ p.typeList, d.id.debugName ≠ []) (o o' : Options) :
    (lowerProgram env journal p o).2.map Compiler.erase =
      (lowerProgram env journal p o').2.map Compiler.erase := by
  have hblank (o : Options) : (lowerProgram env journal p {}).2 =
      (lowerProgram env journal p o).2.map Compiler.erase :=
    congrArg Prod.snd (lowerProgram_erase env journal
      fun _ d hd => Ident.hasName_iff.mpr (hnames d hd))
  rw [← hblank o, hblank o']

theorem exists_ok_of_map_eq {x y : Except LowerError Compiler}
    (h : x.map Compiler.erase = y.map Compiler.erase) (hx : ∃ c, x = .ok c) : ∃ c, y = .ok c := by
  obtain ⟨c, rfl⟩ := hx
  cases y with
  | error e => cases h
  | ok c' => exact ⟨c', rfl⟩

/-- A compiler without debug info has only functions without metadata. -/
theorem listed_bare_of_lowerProgram {env : Environment} {journal : Journal} {p : Program}
    {o : Options} {c : Compiler} (h : (lowerProgram env journal p o).2 = .ok c)
    (hoff : o.debugInfo = false) : c.module.listed.map Function.bare = c.module.listed := by
  have hreach : Compiler.Reaches (.new o) c :=
    Compiler.lowerDecls_reaches (lowerDecls_of_lowerProgram h)
  have hnone : c.debug = none := Compiler.debug_eq_none_iff.mpr (hreach.debugInfo_eq.trans hoff)
  rw [hreach.tabled.listed_eq]
  refine (List.map_congr_left fun f hf => ?_).trans (List.map_id _)
  exact ((hreach.mirror.off hnone).2 f hf).bare_eq

/-- Debug info decides over nothing but metadata.  A program that is accepted with it is
accepted without, the other way round if its types are named, and the two modules hold the
same functions over the same types. -/
theorem debugInfo_changes_no_code (env : Environment) (journal : Journal) (p : Program)
    {on off : Options} (hon : on.debugInfo = true) (hoff : off.debugInfo = false) :
    ((∃ c, (lowerProgram env journal p on).2 = .ok c) →
        ∃ c, (lowerProgram env journal p off).2 = .ok c) ∧
      ((∀ d ∈ p.typeList, d.id.debugName ≠ []) →
        (∃ c, (lowerProgram env journal p off).2 = .ok c) →
          ∃ c, (lowerProgram env journal p on).2 = .ok c) ∧
      ∀ c c', (lowerProgram env journal p on).2 = .ok c → (lowerProgram env journal p off).2 = .ok c' →
        c.module.listed.map Function.bare = c'.module.listed ∧ c.registry = c'.registry ∧
          ∀ name args, c.module.call name args = c'.module.call name args := by
  refine ⟨?_, fun hnames => exists_ok_of_map_eq (lowerProgram_erase_eq env journal hnames off on), ?_⟩
  · rintro ⟨c, hc⟩
    have hnames := typeNames_of_lowerProgram hc hon
    exact exists_ok_of_map_eq (lowerProgram_erase_eq env journal hnames on off) ⟨c, hc⟩
  · intro c c' hc hc'
    have heq := lowerProgram_erase_eq env journal (typeNames_of_lowerProgram hc hon) on off
    rw [hc, hc'] at heq
    have herase : c.erase = c'.erase := Except.ok.inj heq
    have hregistry : c.erase.registry = c'.erase.registry := congrArg Compiler.registry herase
    refine ⟨?_, hregistry, fun name args => ?_⟩
    · rw [← Compiler.listed_erase, herase, Compiler.listed_erase,
        listed_bare_of_lowerProgram hc' hoff]
    · rw [← Compiler.call_erase c, herase, Compiler.call_erase c']

/-- The options differ in everything else as well. -/
theorem mixedProgram_without_debugInfo :
    ∃ c c', (lowerProgram {} {} mixedProgram { debugInfo := true, sourceFile := "a.sierra" }).2 = .ok c ∧
      (lowerProgram {} {} mixedProgram { targetTriple := "none" }).2 = .ok c' ∧
      c.module.listed.map Function.bare = c'.module.listed ∧ c.registry = c'.registry ∧
      c.module.call "plus" [200, 100] = c'.module.call "plus" [200, 100] := by
  have hparts := debugInfo_changes_no_code {} {} mixedProgram
    (show ({ debugInfo := true, sourceFile := "a.sierra" } : Options).debugInfo = true from rfl)
    (show ({ targetTriple := "none" } : Options).debugInfo = false from rfl)
  obtain ⟨hdown, -, hsame⟩ := hparts
  have hok : (lowerProgram {} {} mixedProgram
      { debugInfo := true, sourceFile := "a.sierra" }).2.isOk = true := by decide +kernel
  cases hr : (lowerProgram {} {} mixedProgram { debugInfo := true, sourceFile := "a.sierra" }).2 with
  | error e =>
    rw [hr] at hok
    cases hok
  | ok c =>
    obtain ⟨c', hc'⟩ := hdown ⟨c, hr⟩
    obtain ⟨hfuncs, hreg, hcall⟩ := hsame c c' hr hc'
    exact ⟨c, c', rfl, hc', hfuncs, hreg, hcall _ _⟩

end Lowering
end FeltLowering
