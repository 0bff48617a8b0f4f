import FeltLowering.Proofs.Lowering.Erasure
import FeltLowering.Proofs.Lowering.Gate
import FeltLowering.Proofs.Lowering.WellFormed

/-
The order of declarations, without debug info.

A libfunc has one function, whatever stands around it (`Declaration.LowersTo.unique`).
The module of a program is therefore known from its declarations alone: the helper, if
some type is a field element type, and the functions of the libfuncs in their order
(`module_eq_outline`).  Which declaration of a builtin comes first, and so which handle the
bodies are built from, has no part in it.

The order of the types does not show at all.  The order of the libfuncs shows in the order
of the functions only: all calls go to the helper, which keeps its place, so evaluation
does not see it (`Module.eval_eq_of_callees`).  Calls by name are another matter if two
functions go by one name, since the first of them is called.
-/
namespace FeltLowering

namespace Ir

section Congruence

variable {invoke invoke' : Nat → List Int → Option (Except EvalError Int)} {f : Function}

theorem Function.instValue_congr {i : Inst}
    (h : ∀ position, Lowering.Compiler.calleeOf i = some position →
      ∀ values, invoke' position values = invoke position values) (fr : Frame) :
    f.instValue invoke' fr i = f.instValue invoke fr i := by
  cases i with
  | call name result callee args attachments =>
    cases callee with
    | none => rfl
    | some position => simp only [instValue, h position rfl]
  | _ => rfl

theorem Function.runInsts_congr {insts : List Inst}
    (h : ∀ i ∈ insts, ∀ position, Lowering.Compiler.calleeOf i = some position →
      ∀ values, invoke' position values = invoke position values) (fr : Frame) :
    f.runInsts invoke' fr insts = f.runInsts invoke fr insts := by
  induction insts generalizing fr with
  | nil => rfl
  | cons i rest ih =>
    have hrest := ih fun j hj => h j (List.mem_cons_of_mem i hj)
    simp only [runInsts, instValue_congr (h i List.mem_cons_self), hrest]

/-- An activation asks for the callees of its function and for no other value. -/
theorem Function.activate_congr
    (h : ∀ i ∈ f.insts, ∀ position, Lowering.Compiler.calleeOf i = some position →
      ∀ values, invoke' position values = invoke position values) (args : List Int) :
    f.activate invoke' args = f.activate invoke args := by
  have hrun : ∀ b ∈ f.blocks, ∀ fr, f.runInsts invoke' fr b.insts = f.runInsts invoke fr b.insts :=
    fun b hb => runInsts_congr fun i hi => h i (List.mem_flatMap.mpr ⟨b, hb, hi⟩)
  unfold activate
  cases hblocks : f.blocks with
  | nil => rfl
  | cons b rest =>
    cases rest with
    | nil => simp only [hrun b (by rw [hblocks]; exact List.mem_cons_self)]
    | cons b' rest => rfl

end Congruence

/-- Modules with the same callees evaluate a function alike. -/
theorem Module.eval_eq_of_callees {m m' : Module}
    (h : ∀ f ∈ m.functions, ∀ i ∈ f.insts, ∀ position,
      Lowering.Compiler.calleeOf i = some position → m'.functions[position]? = m.functions[position]?)
    (depth : Nat) {f : Function} (hf : f ∈ m.functions) (args : List Int) :
    m'.eval depth f args = m.eval depth f args := by
  induction depth generalizing f args with
  | zero => rfl
  | succ depth ih =>
    refine Function.activate_congr (fun i hi position hcallee values => ?_) args
    simp only [h f hf i hi position hcallee]
    cases hg : m.functions[position]? with
    | none => rfl
    | some g => exact congrArg some (ih (List.mem_of_getElem? hg) values)

end Ir

open Ir Lowering

/-! ## One function for each libfunc -/

/-- What a libfunc declaration lowers to is unique. -/
theorem Declaration.LowersTo.unique {d : Declaration} {f g : Function} (hf : d.LowersTo f)
    (hg : d.LowersTo g) : f = g := by
  cases hf with
  | const h =>
    cases hg with
    | const h' => rw [h.unique h']
    | field h' => exact nomatch Compiler.Libfunc.named_unique h.named h'.named
    | wrappingAdd h' => exact nomatch Compiler.Libfunc.named_unique h.named h'.named
  | field h =>
    cases hg with
    | const h' => exact nomatch Compiler.Libfunc.named_unique h.named h'.named
    | field h' => rw [h.unique h']
    | wrappingAdd h' => exact nomatch Compiler.Libfunc.named_unique h.named h'.named
  | wrappingAdd h =>
    cases hg with
    | const h' => exact nomatch Compiler.Libfunc.named_unique h.named h'.named
    | field h' => exact nomatch Compiler.Libfunc.named_unique h.named h'.named
    | wrappingAdd h' => rw [h.unique h']

theorem Declaration.exists_functionOf :
    ∃ fn : Declaration → Function, ∀ d f, d.LowersTo f → fn d = f := by
  classical
  refine ⟨fun d => if h : ∃ f, d.LowersTo f then h.choose else reduction, fun d f hf => ?_⟩
  have hex : ∃ f, d.LowersTo f := ⟨f, hf⟩
  simp only [dif_pos hex]
  exact hex.choose_spec.unique hf

/-- The module of a program, given the function of each libfunc. -/
def Program.outline (o : Options) (fn : Declaration → Function) (p : Program) : Module where
  functions := (if p.HasFelt then [reduction] else []) ++ p.libfuncList.map fn
  sourceFilename := o.sourceFile
  targetTriple := o.targetTriple

theorem Program.hasFelt_iff_of_perm {p p' : Program} (h : p'.typeList.Perm p.typeList) :
    p'.HasFelt ↔ p.HasFelt := by
  unfold HasFelt
  simp only [h.mem_iff]

/-- Whether a program is accepted does not depend on the order of its libfuncs. -/
theorem Program.Accepted.of_perm {p p' : Program} {debugInfo : Bool} (h : p.Accepted debugInfo)
    (htypes : p'.typeList = p.typeList) (hperm : p'.libfuncList.Perm p.libfuncList) :
    p'.Accepted debugInfo where
  ids := by
    rw [htypes]
    exact h.ids
  types := by
    rw [htypes]
    exact h.types
  typeNames := by
    rw [htypes]
    exact h.typeNames
  libfuncs := by
    intro d hd
    rw [htypes]
    exact h.libfuncs d (hperm.mem_iff.mp hd)
  names := (hperm.map _).nodup_iff.mpr h.names
  helper := by
    intro hfelt d hd
    have hfelt' : p.HasFelt := (hasFelt_iff_of_perm (.of_eq htypes)).mp hfelt
    exact h.helper hfelt' d (hperm.mem_iff.mp hd)

namespace Lowering

/-! ## The module of a program -/

namespace Compiler

def heading (c : Compiler) : Text × Text × List (Text × List NodeRef) :=
  (c.module.sourceFilename, c.module.targetTriple, c.module.named)

theorem describeType_heading (c : Compiler) (key name : Text) (size : Nat) :
    (c.describeType key name size).heading = c.heading := by
  unfold describeType
  split <;> rfl

theorem install_heading (c : Compiler) (f : Function) (signature : List NodeRef) :
    (c.install f signature).heading = c.heading :=
  c.install_shows f signature heading fun _ _ _ => rfl

theorem Move.heading_eq {c c' : Compiler} (h : Move c c') : c'.heading = c.heading := by
  cases h with
  | line line => rfl
  | type h =>
    rcases (declareType_eq_ok_iff.mp h).2 with ⟨-, rfl⟩ | ⟨w, -, rfl⟩ | ⟨inner, slot, -, -, rfl⟩
    · exact describeType_heading _ _ _ _
    · exact describeType_heading _ _ _ _
    · exact describeType_heading _ _ _ _
  | wide h => exact describeType_heading _ _ _ _
  | function _ _ h =>
    obtain ⟨signature, code, -, -, -, rfl⟩ := lower_eq_ok_iff.mp h
    exact install_heading _ _ _
  | helper _ _ _ h =>
    obtain ⟨signature, code, -, -, -, rfl⟩ := lower_eq_ok_iff.mp h
    exact install_heading c (buildFunction helperName _ _ code) signature

theorem new_heading {o : Options} (hoff : o.debugInfo = false) :
    (new o).heading = (o.sourceFile, o.targetTriple, []) := by
  unfold new
  rw [hoff]
  rfl

theorem Reaches.heading_eq {o : Options} {c : Compiler} (hoff : o.debugInfo = false)
    (h : Reaches (new o) c) : c.heading = (o.sourceFile, o.targetTriple, []) :=
  h.induction (P := fun c => c.heading = (o.sourceFile, o.targetTriple, []))
    (fun hmove hc => hmove.heading_eq.trans hc) (new_heading hoff)

end Compiler

section Lowered

variable {env : Environment} {journal : Trace.Journal} {p : Program} {o : Options} {c : Compiler}

/-- The module is known from the declarations and the options. -/
theorem module_eq_outline {fn : Declaration → Function} (hfn : ∀ d f, d.LowersTo f → fn d = f)
    (hoff : o.debugInfo = false) (h : (lowerProgram env journal p o).2 = .ok c) :
    c.module = p.outline o fn := by
  have hfilled := Compiler.filled_of_lowerDecls (lowerDecls_of_lowerProgram h)
  have htabled := hfilled.reaches.tabled
  have hnone : c.debug = none :=
    Compiler.debug_eq_none_iff.mpr (hfilled.reaches.debugInfo_eq.trans hoff)
  obtain ⟨hdefs, -⟩ := hfilled.reaches.mirror.off hnone
  have hbare := listed_bare_of_lowerProgram h hoff
  rw [htabled.listed_eq] at hbare
  obtain ⟨fs, hfs, hfuncs⟩ := hfilled.functions
  have hmap : p.libfuncList.map fn = fs :=
    List.forall₂_eq_eq_eq ▸ List.forall₂_map_left_iff.mpr (hfs.imp hfn)
  rw [hbare, ← hmap] at hfuncs
  have hheading := hfilled.reaches.heading_eq hoff
  obtain ⟨hsource, hrest⟩ := Prod.mk.inj hheading
  obtain ⟨htarget, hnamed⟩ := Prod.mk.inj hrest
  calc c.module
      = ⟨c.module.functions, c.module.unlisted, c.module.sourceFilename, c.module.targetTriple,
          c.module.definitions, c.module.named⟩ := rfl
    _ = p.outline o fn := by
      rw [hfuncs, htabled.unlisted, hsource, htarget, hdefs, hnamed]
      rfl

/-- Only a program with a field element type makes calls, all to the first function. -/
theorem hasFelt_of_callee (h : (Compiler.new o).lowerDecls p = .ok c) {f : Function}
    (hf : f ∈ c.module.functions) {i : Inst} (hi : i ∈ f.insts) {position : Nat}
    (hcallee : Compiler.calleeOf i = some position) : position = 0 ∧ p.HasFelt := by
  have hcall : i.isCall = true := by
    cases i with
    | call name result callee args attachments => rfl
    | _ => cases hcallee
  have hbare := mem_calls_bare (List.mem_filter.mpr ⟨hi, hcall⟩)
  obtain ⟨n, hn⟩ := List.mem_iff_getElem?.mp hf
  rcases function_cases h hn with hred | ⟨d, hd, hlow, -⟩
  · rw [hred] at hbare
    exact absurd hbare List.not_mem_nil
  · obtain ⟨hzero, op, hop⟩ := callee_of_lowersTo hlow hbare
    rw [calleeOf_bare, hcallee] at hzero
    exact ⟨Option.some.inj hzero, hasFelt_of_isFieldOp h hd hop⟩

end Lowered

/-! ## Rearranged libfuncs -/

/-- A look-up by a key that is unique does not see the order. -/
theorem find?_key_of_perm {α κ : Type} [DecidableEq κ] {key : α → κ} {l l' : List α}
    (hn : (l.map key).Nodup) (hperm : l'.Perm l) (k : κ) :
    l'.find? (fun x => decide (key x = k)) = l.find? (fun x => decide (key x = k)) := by
  cases hfind : l.find? (fun x => decide (key x = k)) with
  | none =>
    rw [find?_key_eq_none_iff] at hfind ⊢
    rwa [(hperm.map key).mem_iff]
  | some a =>
    obtain ⟨hmem, rfl⟩ := mem_of_find?_key hfind
    exact find?_key_of_mem ((hperm.map key).nodup_iff.mpr hn) (hperm.mem_iff.mpr hmem)

/-- The modules of two programs that differ in the order of their libfuncs. -/
structure Rearranged (o : Options) (p p' : Program) (c c' : Compiler) : Prop where
  functions : ∃ fn : Declaration → Function, c.module = p.outline o fn ∧ c'.module = p'.outline o fn
  found : ∀ name, c'.func? name = c.func? name
  evaluated : ∀ f ∈ c.module.listed, ∀ depth args,
    c'.module.eval depth f args = c.module.eval depth f args
  /-- Calls by name, where a name that functions go by tells them apart. -/
  called : (c.module.listed.map Function.displayName).Nodup →
    ∀ name args, c'.module.call name args = c.module.call name args

theorem rearranged_of_perm {env env' : Environment} {journal journal' : Trace.Journal}
    {p p' : Program} {o : Options} {c c' : Compiler} (hoff : o.debugInfo = false)
    (htypes : p'.typeList = p.typeList) (hperm : p'.libfuncList.Perm p.libfuncList)
    (h : (lowerProgram env journal p o).2 = .ok c)
    (h' : (lowerProgram env' journal' p' o).2 = .ok c') : Rearranged o p p' c c' := by
  obtain ⟨fn, hfn⟩ := Declaration.exists_functionOf
  have hm := module_eq_outline hfn hoff h
  have hm' := module_eq_outline hfn hoff h'
  have hlower := lowerDecls_of_lowerProgram h
  have ht := (Compiler.filled_of_lowerDecls hlower).reaches.tabled
  have ht' := (Compiler.filled_of_lowerDecls (lowerDecls_of_lowerProgram h')).reaches.tabled
  have hfelt : p'.HasFelt ↔ p.HasFelt := Program.hasFelt_iff_of_perm (.of_eq htypes)
  have hfuncs : c.module.functions = (if p.HasFelt then [reduction] else []) ++ p.libfuncList.map fn :=
    congrArg Module.functions hm
  have hfuncs' : c'.module.functions =
      (if p.HasFelt then [reduction] else []) ++ p'.libfuncList.map fn := by
    rw [hm', ← if_congr hfelt rfl rfl]
    rfl
  have hfperm : c'.module.functions.Perm c.module.functions := by
    rw [hfuncs, hfuncs']
    exact (hperm.map fn).append_left _
  -- What is called is the helper, at the front of both modules.
  have heval : ∀ f ∈ c.module.functions, ∀ depth args,
      c'.module.eval depth f args = c.module.eval depth f args := by
    intro f hf depth args
    refine Module.eval_eq_of_callees (fun g hg i hi position hcallee => ?_) depth hf args
    obtain ⟨rfl, hp⟩ := hasFelt_of_callee hlower hg hi hcallee
    rw [hfuncs, hfuncs', if_pos hp]
    rfl
  refine ⟨⟨fn, hm, hm'⟩, fun name => ?_, ?_, fun hnodup name args => ?_⟩
  · rw [ht.func?_eq, ht'.func?_eq]
    exact find?_key_of_perm ht.names hfperm name
  · rw [ht.listed_eq]
    exact heval
  · rw [ht.listed_eq] at hnodup
    have hfind : c'.module.find? name = c.module.find? name := by
      unfold Module.find?
      rw [ht.listed_eq, ht'.listed_eq]
      exact find?_key_of_perm hnodup hfperm name
    unfold Module.call
    rw [hfind]
    cases hf : c.module.find? name with
    | none => rfl
    | some f =>
      have hmem := List.mem_of_find?_eq_some hf
      rw [ht.listed_eq] at hmem
      exact heval f hmem maxDepth args

/-- Without debug info the order of independent declarations does not matter.  Types in any
order that is accepted give the same module and the same text.  Libfuncs are accepted in
every order and give the same functions in that order, behind the helper, which evaluate
to the same. -/
theorem order_of_declarations_immaterial {env : Environment} {journal : Trace.Journal} {p : Program}
    {o : Options} {c : Compiler} (hoff : o.debugInfo = false)
    (h : (lowerProgram env journal p o).2 = .ok c) :
    (∀ env' journal' p' c', p'.typeList.Perm p.typeList → p'.libfuncList = p.libfuncList →
      (lowerProgram env' journal' p' o).2 = .ok c' →
        c'.module = c.module ∧ ∃ text, c.emit = .ok text ∧ c'.emit = .ok text) ∧
    ∀ p' : Program, p'.typeList = p.typeList → p'.libfuncList.Perm p.libfuncList →
      (∀ span journal', ∃ c', (lowerProgram { span } journal' p' o).2 = .ok c') ∧
        ∀ env' journal' c', (lowerProgram env' journal' p' o).2 = .ok c' →
          Rearranged o p p' c c' := by
  have hlower := lowerDecls_of_lowerProgram h
  refine ⟨fun env' journal' p' c' htypes hlibfuncs h' => ?_, fun p' htypes hperm => ⟨?_, ?_⟩⟩
  · obtain ⟨fn, hfn⟩ := Declaration.exists_functionOf
    have hmodule : c'.module = c.module := by
      have hfelt : p'.HasFelt ↔ p.HasFelt := Program.hasFelt_iff_of_perm htypes
      rw [module_eq_outline hfn hoff h, module_eq_outline hfn hoff h']
      unfold Program.outline
      rw [hlibfuncs, if_congr hfelt rfl rfl]
    have hemits : ∀ {env journal p c}, (lowerProgram env journal p o).2 = .ok c →
        ∃ text, c.emit = .ok text := by
      intro env journal p c h
      have hreach := Compiler.lowerDecls_reaches (lowerDecls_of_lowerProgram h)
      exact hreach.emit_ok_iff.mpr fun hon => absurd (hoff.symm.trans hon) Bool.false_ne_true
    obtain ⟨text, htext⟩ := hemits h
    obtain ⟨text', htext'⟩ := hemits h'
    have hsame : text' = text := by
      rw [(Compiler.emit_eq_ok_iff.mp htext).2, (Compiler.emit_eq_ok_iff.mp htext').2, hmodule]
    exact ⟨hmodule, text, htext, hsame ▸ htext'⟩
  · intro span journal'
    have haccepted : p.Accepted o.debugInfo :=
      (accepted_iff o p).mpr ((Compiler.lowerDecls_ok_iff o p).mp ⟨c, hlower⟩)
    rw [lowerProgram_eq]
    exact (Compiler.lowerDecls_ok_iff o p').mpr
      ((accepted_iff o p').mp (haccepted.of_perm htypes hperm))
  · intro env' journal' c' h'
    exact rearranged_of_perm hoff htypes hperm h h'

def firstFelt : Declaration := ⟨⟨0, []⟩, "felt", none⟩

def otherFelt : Declaration := ⟨⟨1, []⟩, "felt252", none⟩

def otherUnit : Declaration := ⟨⟨2, []⟩, "NonZero", some [{ type := some ⟨1, []⟩ }]⟩

/-- Two field element types.  The libfuncs work on the one that is declared first. -/
def twoFelts : Program where
  types := some [firstFelt, otherFelt, otherUnit]
  libfuncs := some [times, minusFive]

/-- The libfuncs now work on the other type. -/
def feltsSwapped : Program := { twoFelts with types := some [otherFelt, otherUnit, firstFelt] }

def libfuncsSwapped : Program := { twoFelts with libfuncs := some [minusFive, times] }

theorem twoFelts_in_any_order :
    ∃ c c' c'', (lowerProgram {} {} twoFelts {}).2 = .ok c ∧
      (lowerProgram {} {} feltsSwapped {}).2 = .ok c' ∧
      (lowerProgram {} {} libfuncsSwapped {}).2 = .ok c'' ∧
      c'.registry.lookupName? "felt" ≠ c.registry.lookupName? "felt" ∧ c'.module = c.module ∧
      (∃ text, c.emit = .ok text ∧ c'.emit = .ok text) ∧ Rearranged {} twoFelts libfuncsSwapped c c'' ∧
      c''.module.call "times" [3, 5] = c.module.call "times" [3, 5] := by
  have hdiffer : (lowerProgram {} {} feltsSwapped {}).2.toOption.map
        (fun c => c.registry.lookupName? "felt") = some (some ⟨"1", ⟨.int 253, 1⟩⟩) ∧
      (lowerProgram {} {} twoFelts {}).2.toOption.map
        (fun c => c.registry.lookupName? "felt") = some (some ⟨"0", ⟨.int 253, 1⟩⟩) := by
    decide +kernel
  have hnames : (lowerProgram {} {} twoFelts {}).2.toOption.map
      (fun c => c.module.listed.map Function.displayName) =
        some [helperName, Text.ofString "times", Text.ofString "minusFive"] := by decide +kernel
  cases hc : (lowerProgram {} {} twoFelts {}).2 with
  | error e =>
    rw [hc] at hnames
    cases hnames
  | ok c =>
    cases hc' : (lowerProgram {} {} feltsSwapped {}).2 with
    | error e =>
      rw [hc'] at hdiffer
      cases hdiffer.1
    | ok c' =>
      obtain ⟨htypes, hlibfuncs⟩ := order_of_declarations_immaterial rfl hc
      obtain ⟨hmodule, htext⟩ := htypes {} {} feltsSwapped c' (by decide) rfl hc'
      obtain ⟨hexists, hrearranged⟩ := hlibfuncs libfuncsSwapped rfl (by decide)
      obtain ⟨c'', hc''⟩ := hexists 0 {}
      have hrun := hrearranged {} {} c'' hc''
      rw [hc, hc'] at hdiffer
      rw [hc] at hnames
      have hfelt : c.registry.lookupName? "felt" = some ⟨"0", ⟨.int 253, 1⟩⟩ := Option.some.inj hdiffer.2
      have hfelt' : c'.registry.lookupName? "felt" = some ⟨"1", ⟨.int 253, 1⟩⟩ :=
        Option.some.inj hdiffer.1
      have hdistinct : (c.module.listed.map Function.displayName).Nodup := by
        rw [show c.module.listed.map Function.displayName = _ from Option.some.inj hnames]
        decide +kernel
      refine ⟨c, c', c'', rfl, rfl, hc'', ?_, hmodule, htext, hrun, hrun.called hdistinct _ _⟩
      rw [hfelt, hfelt']
      decide

end Lowering
end FeltLowering
