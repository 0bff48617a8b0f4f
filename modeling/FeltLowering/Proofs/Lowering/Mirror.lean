import FeltLowering.Lowering.Verify
import FeltLowering.Proofs.Lowering.Invariant
import Mathlib.Data.List.Forall2

/-
The debug table mirrors the module.

With debug info every type has a debug type of its width, and every function carries a
subprogram that lists its result and parameters and in which its calls are located.
Functions are told apart by their names, and subprograms by the names functions go by;
the table is a faithful copy as long as the latter are different as well (`own`).
Without debug info the module holds no metadata at all.
-/
namespace FeltLowering
namespace Ir

open Lowering

/-- A debug type that has the width of a type. -/
def Module.Sizes (m : Module) (r : NodeRef) (ty : Ty) : Prop :=
  ∃ name, m.node? r = some (.basicType name ty.size)

/-- The subprogram `sp` describes the function, and every call in it is located there, all
on one line. -/
structure Module.Describes (m : Module) (line : Int) (sp : NodeRef) (f : Function) : Prop where
  attached : f.attachments = [⟨"dbg", sp⟩]
  signature : ∃ type types fields,
    m.node? sp = some (.subprogram f.displayName DebugTable.unit DebugTable.file line (some type)) ∧
      m.node? type = some (.subroutine (some types)) ∧ m.node? types = some (.tuple fields) ∧
      List.Forall₂ m.Sizes fields (f.result :: f.params.map Param.ty)
  located : ∀ i ∈ f.calls, ∃ r, Compiler.attachmentsOf i = [⟨"dbg", r⟩] ∧
    m.node? r = some (.location line sp)

def Function.Unmarked (f : Function) : Prop :=
  f.attachments = [] ∧ ∀ i ∈ f.insts, Compiler.attachmentsOf i = []

theorem Module.Extends.sizes {m m' : Module} (h : m.Extends m') {r : NodeRef} {ty : Ty}
    (hr : m.Sizes r ty) : m'.Sizes r ty := by
  obtain ⟨name, hname⟩ := hr
  exact ⟨name, h _ _ hname⟩

theorem Module.Extends.describes {m m' : Module} (h : m.Extends m') {line : Int} {sp : NodeRef}
    {f : Function} (hf : m.Describes line sp f) : m'.Describes line sp f where
  attached := hf.attached
  signature := by
    obtain ⟨type, types, fields, hsp, htype, htypes, hfields⟩ := hf.signature
    exact ⟨type, types, fields, h _ _ hsp, h _ _ htype, h _ _ htypes,
      hfields.imp fun _ _ hr => h.sizes hr⟩
  located := by
    intro i hi
    obtain ⟨r, hatt, hr⟩ := hf.located i hi
    exact ⟨r, hatt, h _ _ hr⟩

end Ir

namespace Lowering

open Ir

namespace Compiler

structure Mirrored (c : Compiler) (d : DebugTable) : Prop where
  dense : c.module.Dense d.nextId
  types : ∀ s ∈ c.registry.entries, ∃ r, d.type? s.key = some r ∧ c.module.Sizes r s.type.ty
  functions : ∀ f ∈ c.module.functions, ∃ line sp, c.module.Describes line sp f
  keys : (d.subprograms.map Prod.fst).Nodup
  support : ∀ name,
    name ∈ d.subprograms.map Prod.fst ↔ name ∈ c.module.functions.map Function.displayName
  /-- As long as no two functions go by one name, each finds its own subprogram. -/
  own : (c.module.functions.map Function.displayName).Nodup → ∀ f ∈ c.module.functions,
    ∃ sp, d.subprogram? f.displayName = some sp ∧ f.attachments = [⟨"dbg", sp⟩]

/-- What the metadata of a compiler says about it. -/
structure Mirror (c : Compiler) : Prop where
  on : ∀ d, c.debug = some d → c.Mirrored d
  off : c.debug = none → c.module.definitions = [] ∧ ∀ f ∈ c.module.functions, f.Unmarked

theorem Mirror.congr {c c' : Compiler} (h : c.Mirror) (hm : c'.module = c.module)
    (hd : c'.debug = c.debug) (hr : c'.registry.entries = c.registry.entries) : c'.Mirror where
  on := by
    intro d hd'
    obtain ⟨dense, types, functions, keys, support, own⟩ := h.on d (hd ▸ hd')
    rw [← hm] at dense types functions support own
    rw [← hr] at types
    exact ⟨dense, types, functions, keys, support, own⟩
  off := by
    intro hd'
    rw [hm]
    exact h.off (hd ▸ hd')

/-! ## Types -/

/-- The size of the debug type of a registered type is its width. -/
theorem Mirrored.debugSize {c : Compiler} {d : DebugTable} (h : c.Mirrored d)
    (hd : c.debug = some d) {s : Slot} (hs : s ∈ c.registry.entries) :
    c.debugSize s.key = s.type.ty.size := by
  obtain ⟨r, hr, name, hname⟩ := h.types s hs
  unfold Compiler.debugSize
  rw [hd, Option.bind_some, hr, Option.bind_some, hname]

theorem Mirror.describe {c : Compiler} (h : c.Mirror) (hp : c.Paired) {key : Text}
    (hfree : c.registry.has key = false) (name : Text) {size : Nat} {type : Handle}
    (hsize : c.debugInfo = true → size = type.ty.size) :
    ({ c with registry := c.registry.add key type }.describeType key name size).Mirror where
  on := by
    intro d' hd'
    rw [describeType_debug] at hd'
    obtain ⟨d, hd, rfl⟩ := Option.map_eq_some_iff.mp hd'
    have hd : c.debug = some d := hd
    have hm := h.on d hd
    have hsize := hsize (by rw [debugInfo, hd]; rfl)
    -- The table gets one entry, and the module one node.
    let b : Compiler := { c with registry := c.registry.add key type }
    let t : DebugTable := { d with types := d.types ++ [(key, .node d.nextId)] }
    rw [describeType_of_some key name size (c := b) hd]
    have hext : c.module.Extends (b.define t [.basicType name size]).module :=
      define_extends b t _
    have hnew : (b.define t [.basicType name size]).module.node? (.node (t.nextId + 0)) =
        some (.basicType name size) := node?_define_new hm.dense rfl
    refine ⟨define_dense _ hm.dense, ?_, ?_, hm.keys, hm.support, hm.own⟩
    · intro s hs
      rcases List.mem_append.mp hs with hs | hs
      · obtain ⟨r, hr, hsizes⟩ := hm.types s hs
        refine ⟨r, ?_, hext.sizes hsizes⟩
        unfold DebugTable.type? at hr ⊢
        obtain ⟨e, he, rfl⟩ := Option.map_eq_some_iff.mp hr
        rw [List.find?_append, he]
        rfl
      · rw [List.mem_singleton] at hs
        subst hs
        refine ⟨.node d.nextId, ?_, name, hsize ▸ hnew⟩
        have hkey : key ∉ d.types.map Prod.fst := by
          rw [hp d hd]
          exact Registry.has_eq_false_iff.mp hfree
        unfold DebugTable.type?
        rw [List.find?_append, find?_key_eq_none_iff.mpr hkey]
        simp
    · intro f hf
      obtain ⟨line, sp, hdesc⟩ := hm.functions f hf
      exact ⟨line, sp, hext.describes hdesc⟩
  off := by
    intro hd'
    rw [describeType_debug] at hd'
    have hd : c.debug = none := Option.map_eq_none_iff.mp hd'
    rw [describeType_of_none key name size (c := { c with registry := c.registry.add key type }) hd]
    exact h.off hd

/-! ## Functions -/

/-- The calls of a piece of code are located under consecutive numbers. -/
theorem attachmentsOf_locateCalls {insts : List Inst}
    (hbare : ∀ i ∈ insts, attachmentsOf i = []) (id : Nat) {i : Inst}
    (hi : i ∈ locateCalls id insts) (hcall : i.isCall = true) :
    ∃ k < (insts.filter Inst.isCall).length, attachmentsOf i = [⟨"dbg", .node (id + k)⟩] := by
  induction insts generalizing id with
  | nil => exact absurd hi List.not_mem_nil
  | cons j rest ih =>
    have hrest : ∀ i ∈ rest, attachmentsOf i = [] := fun i hi => hbare i (List.mem_cons_of_mem j hi)
    cases j with
    | call name result callee args attachments =>
      have hnone : attachments = [] := hbare _ List.mem_cons_self
      rw [List.filter_cons_of_pos rfl, List.length_cons]
      rcases List.mem_cons.mp hi with rfl | hi
      · exact ⟨0, Nat.succ_pos _, by rw [hnone]; rfl⟩
      · obtain ⟨k, hk, hatt⟩ := ih hrest (id + 1) hi
        exact ⟨k + 1, Nat.succ_lt_succ hk, by rw [hatt, Nat.add_assoc, Nat.add_comm 1 k]⟩
    | _ =>
      rw [List.filter_cons_of_neg Bool.false_ne_true]
      rcases List.mem_cons.mp hi with rfl | hi
      · cases hcall
      · exact ih hrest id hi

section Install

variable {c : Compiler} {f : Function} {b : Block} {signature : List NodeRef}

theorem described_describes {d : DebugTable} (hd : c.debug = some d) (hblocks : f.blocks = [b])
    (hf : f.Unmarked) {m : Module} (hext : c.module.Extends m)
    (hnodes : ∀ i n, (c.subprogramNodes d.nextId f signature)[i]? = some n →
      m.node? (.node (d.nextId + i)) = some n)
    (hsig : List.Forall₂ c.module.Sizes signature (f.result :: f.params.map Param.ty)) :
    m.Describes c.line (.node (d.nextId + 2)) (c.described f) := by
  have hinsts : f.insts = b.insts := by simp [Function.insts, hblocks]
  have hlocated : (c.described f).insts = locateCalls (d.nextId + 3) f.insts := by
    simp [described, hd, locate, Function.insts, hblocks]
  refine ⟨?_, ⟨.node (d.nextId + 1), .node d.nextId, signature, ?_, ?_, ?_, ?_⟩, ?_⟩
  · simp [described, hd, hf.1]
  · rw [Function.displayName, described_name]
    exact hnodes 2 _ rfl
  · exact hnodes 1 _ rfl
  · exact hnodes 0 _ rfl
  · rw [described_result, described_params]
    exact hsig.imp fun _ _ hr => hext.sizes hr
  · intro i hi
    obtain ⟨hmem, hcall⟩ := List.mem_filter.mp hi
    rw [hlocated] at hmem
    obtain ⟨k, hk, hatt⟩ := attachmentsOf_locateCalls hf.2 _ hmem hcall
    refine ⟨_, hatt, ?_⟩
    rw [Nat.add_assoc]
    refine hnodes (3 + k) _ ?_
    have hk : k < f.calls.length := hk
    rw [subprogramNodes, List.getElem?_append_right (by simp), List.getElem?_map]
    simp [List.getElem?_eq_getElem hk]

theorem Mirror.install (h : c.Mirror) (hblocks : f.blocks = [b]) (hf : f.Unmarked)
    (hsig : c.debugInfo = true →
      List.Forall₂ c.module.Sizes signature (f.result :: f.params.map Param.ty)) :
    (c.install f signature).Mirror where
  on := by
    intro d' hd'
    rw [install_debug] at hd'
    obtain ⟨d, hd, rfl⟩ := Option.map_eq_some_iff.mp hd'
    have hm := h.on d hd
    have hsig := hsig (by rw [debugInfo, hd]; rfl)
    rw [install_of_some f signature hd]
    let base : Compiler :=
      { c with
        module := { c.module with functions := c.module.functions ++ [c.described f] }
        table := c.table ++ [(f.name, c.module.functions.length)] }
    let t := d.putSubprogram f.displayName (.node (d.nextId + 2))
    let nodes := c.subprogramNodes d.nextId f signature
    have hnext : t.nextId = d.nextId := DebugTable.putSubprogram_nextId ..
    have hlen : nodes.length = 3 + f.calls.length := by
      simp only [nodes, subprogramNodes, List.length_append, List.length_map, List.length_cons,
        List.length_nil]
    have hdense : base.module.Dense t.nextId := by
      rw [hnext]
      exact hm.dense
    have hext : c.module.Extends (base.define t nodes).module := define_extends base t nodes
    have hnew := described_describes hd hblocks hf hext
      (fun i n hi => hnext ▸ node?_define_new hdense hi) hsig
    have hname : (c.described f).displayName = f.displayName := by
      rw [Function.displayName, described_name]
      rfl
    refine ⟨?_, ?_, ?_, ?_, ?_, ?_⟩
    · have := define_dense nodes hdense
      rwa [hnext, hlen] at this
    · intro s hs
      obtain ⟨r, hr, hsizes⟩ := hm.types s hs
      refine ⟨r, ?_, hext.sizes hsizes⟩
      unfold DebugTable.type? at hr ⊢
      rw [DebugTable.putSubprogram_types]
      exact hr
    · intro g hg
      rcases List.mem_append.mp hg with hg | hg
      · obtain ⟨line, sp, hdesc⟩ := hm.functions g hg
        exact ⟨line, sp, hext.describes hdesc⟩
      · rw [List.mem_singleton.mp hg]
        exact ⟨_, _, hnew⟩
    · exact DebugTable.putSubprogram_nodup d _ _ hm.keys
    · intro name
      rw [DebugTable.mem_putSubprogram, define_functions, List.map_append, List.mem_append,
        List.map_singleton, List.mem_singleton, hname, ← hm.support]
    · intro hnodup g hg
      rw [define_functions, List.map_append, List.map_singleton, hname, List.nodup_append] at hnodup
      obtain ⟨hold, -, hdisjoint⟩ := hnodup
      show ∃ sp, t.subprogram? g.displayName = some sp ∧ _
      rw [DebugTable.subprogram?_putSubprogram]
      rcases List.mem_append.mp hg with hg | hg
      · have hne : g.displayName ≠ f.displayName :=
          hdisjoint _ (List.mem_map_of_mem hg) _ (List.mem_singleton.mpr rfl)
        rw [if_neg hne]
        exact hm.own hold g hg
      · rw [List.mem_singleton.mp hg, hname, if_pos rfl]
        exact ⟨_, rfl, hnew.attached⟩
  off := by
    intro hd'
    rw [install_debug] at hd'
    have hd : c.debug = none := Option.map_eq_none_iff.mp hd'
    obtain ⟨hdefs, hfuncs⟩ := h.off hd
    rw [install_of_none f signature hd]
    refine ⟨hdefs, fun g hg => ?_⟩
    rcases List.mem_append.mp hg with hg | hg
    · exact hfuncs g hg
    · rw [List.mem_singleton.mp hg]
      exact hf

end Install
/-! ## Moves -/

/-- Code is built without metadata. -/
theorem attachmentsOf_code {body : Body} {result : Ty} {params : List Ty} {code : Code}
    (h : body.code result params = .ok code) : ∀ i ∈ code.insts, attachmentsOf i = [] := by
  cases body with
  | invalid => cases h
  | unknown => cases h
  | const value =>
    cases value with
    | none => cases h
    | some wv =>
      simp only [Body.code] at h
      split at h
      · cases h
        simp
      · cases h
  | intAdd =>
    simp only [Body.code] at h
    split at h
    · cases h
      simp [attachmentsOf]
    · cases h
  | field op helper =>
    cases helper with
    | none => cases h
    | some helper =>
      simp only [Body.code] at h
      split at h
      · cases h
      · split at h
        · cases h
        · cases h
          cases op <;> simp [Code.field, Code.widen, Code.callHelper, attachmentsOf]
  | reduce =>
    simp only [Body.code] at h
    split at h
    · split at h
      · cases h
      · cases h
        simp [Code.reduce, attachmentsOf]
    · cases h
    · cases h

theorem buildFunction_unmarked (name : Text) {result : Slot} {params : List Slot} {body : Body}
    {code : Code} (h : body.code result.type.ty (params.map fun p => p.type.ty) = .ok code) :
    (buildFunction name result params code).Unmarked := by
  have hinsts : (buildFunction name result params code).insts = code.insts := by
    simp [Function.insts, buildFunction]
  refine ⟨rfl, ?_⟩
  rw [hinsts]
  exact attachmentsOf_code h

/-- Debug types found under the keys of registered types have their widths. -/
theorem Mirrored.signature {c : Compiler} {d : DebugTable} (h : c.Mirrored d) {slots : List Slot}
    {refs : List NodeRef} (hslots : ∀ s ∈ slots, s ∈ c.registry.entries)
    (hsig : slots.map (fun s => d.type? s.key) = refs.map some) :
    List.Forall₂ c.module.Sizes refs (slots.map fun s => s.type.ty) := by
  induction slots generalizing refs with
  | nil =>
    cases refs with
    | nil => exact .nil
    | cons r refs => cases hsig
  | cons s slots ih =>
    cases refs with
    | nil => cases hsig
    | cons r refs =>
      rw [List.map_cons, List.map_cons, List.cons.injEq] at hsig
      obtain ⟨r', hr', hsizes⟩ := h.types s (hslots s List.mem_cons_self)
      rw [hsig.1, Option.some.injEq] at hr'
      subst hr'
      exact .cons hsizes (ih (fun s hs => hslots s (List.mem_cons_of_mem _ hs)) hsig.2)

theorem lower_mirror {c : Compiler} {name : Text} {result : Slot} {params : List Slot} {body : Body}
    {done : Lowered} (hm : c.Mirror) (hslots : ∀ s ∈ result :: params, c.registry.Holds s)
    (h : c.lower name result params body = .ok done) : done.compiler.Mirror := by
  obtain ⟨signature, code, -, hsig, hcode, rfl⟩ := lower_eq_ok_iff.mp h
  refine hm.install rfl (buildFunction_unmarked name hcode) fun hon => ?_
  obtain ⟨d, hd⟩ := Option.isSome_iff_exists.mp hon
  have hentries : ∀ s ∈ result :: params, s ∈ c.registry.entries :=
    fun s hs => (Registry.mem_of_lookup? (hslots s hs)).1
  rw [buildFunction_eq, Code.function_params]
  exact (hm.on d hd).signature hentries ((debugSignature_eq_ok_iff hd).mp hsig)

theorem Move.mirror {c c' : Compiler} (h : Move c c') (hp : c.Paired) (hm : c.Mirror) : c'.Mirror := by
  have hbuiltin : ∀ (d : Declaration) (builtin : Text) (type : Handle),
      c.registry.has d.id.key = false → (c.addBuiltin d builtin type).Mirror := by
    intro d builtin type hfree
    have hdescribe := hm.describe hp hfree d.id.name (fun _ => (rfl : type.ty.size = type.ty.size))
    exact hdescribe.congr rfl rfl (Registry.entries_addName _ _ _)
  cases h with
  | line line => exact hm.congr rfl rfl rfl
  | type h =>
    obtain ⟨hcheck, h⟩ := declareType_eq_ok_iff.mp h
    obtain ⟨hfree, -⟩ := checkType_eq_ok_iff.mp hcheck
    rcases h with ⟨-, rfl⟩ | ⟨w, -, rfl⟩ | ⟨inner, slot, -, hslot, rfl⟩
    · exact hbuiltin _ _ _ hfree
    · exact hbuiltin _ _ _ hfree
    · refine hm.describe hp hfree _ fun hon => ?_
      obtain ⟨d, hd⟩ := Option.isSome_iff_exists.mp hon
      exact (hm.on d hd).debugSize hd (Registry.mem_of_lookup? hslot).1
  | wide h =>
    refine hm.describe hp ?_ _ fun _ => rfl
    exact Registry.has_eq_false_iff.mpr (Registry.lookup?_eq_none_iff.mp h)
  | function hslots _ h => exact lower_mirror hm hslots h
  | helper _ hfelt hwide h =>
    refine (lower_mirror hm (fun s hs => ?_) h).congr rfl rfl rfl
    rcases List.mem_pair.mp hs with rfl | rfl
    · exact Registry.holds_of_lookupName? hfelt
    · exact Registry.holds_of_lookup? hwide

theorem new_mirror (o : Options) : (new o).Mirror := by
  unfold new
  cases o.debugInfo with
  | true =>
    refine ⟨fun d hd => ?_, nofun⟩
    cases hd
    exact ⟨rfl, nofun, nofun, .nil, fun name => Iff.rfl, nofun⟩
  | false => exact ⟨nofun, fun _ => ⟨rfl, nofun⟩⟩

theorem Reaches.mirror {o : Options} {c : Compiler} (h : Reaches (new o) c) : c.Mirror := by
  have hboth : c.Paired ∧ c.Mirror :=
    h.induction (P := fun c => c.Paired ∧ c.Mirror)
      (fun hmove hc => ⟨hmove.paired hc.1, hmove.mirror hc.1 hc.2⟩) ⟨new_paired o, new_mirror o⟩
  exact hboth.2

end Compiler
end Lowering
end FeltLowering
