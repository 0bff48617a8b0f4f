import FeltLowering.Proofs.Ir.Evaluation
import FeltLowering.Proofs.Lowering.Calls
import FeltLowering.Proofs.Lowering.Registry

/-
What the compiler's own insertions change.

`define` is the only source of metadata nodes and numbers them without gaps, so a node
that has been defined stays what it is.  The rest of the file lists, for the insertion of
a type and of a function, what becomes of every part of the compiler.
-/
namespace FeltLowering

namespace Ir

/-- The definitions of a module are numbered from zero, without gaps. -/
def Module.Dense (m : Module) (n : Nat) : Prop :=
  m.definitions.map Definition.ref = (List.range n).map NodeRef.node

/-- Everything defined in one module is defined the same way in the other. -/
def Module.Extends (m m' : Module) : Prop :=
  ∀ r node, m.node? r = some node → m'.node? r = some node

theorem Module.Dense.node?_of_mem {m : Module} {n : Nat} (h : m.Dense n) {d : Definition}
    (hd : d ∈ m.definitions) : m.node? d.ref = some d.node := by
  have hn : (m.definitions.map Definition.ref).Nodup := by
    rw [h]
    exact List.nodup_range.map fun _ _ => NodeRef.node.inj
  unfold node?
  rw [Lowering.find?_key_of_mem hn hd]
  rfl

end Ir

namespace Lowering

open Ir

namespace Compiler

theorem debug_eq_none_iff {c : Compiler} : c.debug = none ↔ c.debugInfo = false := by
  rw [debugInfo, Option.isSome_eq_false_iff, Option.isNone_iff_eq_none]

/-! ## Definitions -/

section Define

variable (c : Compiler) (d : DebugTable) (nodes : List Node)

@[simp] theorem define_registry : (c.define d nodes).registry = c.registry := rfl

@[simp] theorem define_debug :
    (c.define d nodes).debug = some { d with nextId := d.nextId + nodes.length } := rfl

@[simp] theorem define_table : (c.define d nodes).table = c.table := rfl

@[simp] theorem define_helper : (c.define d nodes).helper = c.helper := rfl

@[simp] theorem define_line : (c.define d nodes).line = c.line := rfl

@[simp] theorem define_functions :
    (c.define d nodes).module.functions = c.module.functions := rfl

@[simp] theorem define_unlisted : (c.define d nodes).module.unlisted = c.module.unlisted := rfl

@[simp] theorem define_definitions :
    (c.define d nodes).module.definitions =
      c.module.definitions ++ nodes.mapIdx fun i n => ⟨.node (d.nextId + i), n⟩ := rfl

theorem define_extends : c.module.Extends (c.define d nodes).module := by
  intro r node h
  unfold Module.node? at h ⊢
  obtain ⟨def', hfind, rfl⟩ := Option.map_eq_some_iff.mp h
  rw [define_definitions, List.find?_append, hfind]
  rfl

variable {c d}

theorem define_dense (h : c.module.Dense d.nextId) :
    (c.define d nodes).module.Dense (d.nextId + nodes.length) := by
  unfold Module.Dense at h ⊢
  rw [define_definitions, List.map_append, h, List.range_add, List.map_append]
  congr 1
  apply List.ext_getElem?
  intro i
  simp only [List.getElem?_map, List.getElem?_mapIdx, Option.map_map]
  rcases Nat.lt_or_ge i nodes.length with hi | hi
  · rw [List.getElem?_eq_getElem hi, List.getElem?_range hi]
    rfl
  · rw [List.getElem?_eq_none hi, List.getElem?_eq_none (by simpa using hi)]
    rfl

/-- A new node is found under the number it was given. -/
theorem node?_define_new (h : c.module.Dense d.nextId) {nodes : List Node} {i : Nat} {n : Node}
    (hi : nodes[i]? = some n) :
    (c.define d nodes).module.node? (.node (d.nextId + i)) = some n := by
  have hmem : (⟨.node (d.nextId + i), n⟩ : Definition) ∈ (c.define d nodes).module.definitions := by
    rw [define_definitions]
    refine List.mem_append_right _ (List.mem_iff_getElem?.mpr ⟨i, ?_⟩)
    rw [List.getElem?_mapIdx, hi]
    rfl
  exact (define_dense nodes h).node?_of_mem hmem

end Define

/-! ## Types -/

section DescribeType

variable (c : Compiler) (key name : Text) (size : Nat)

@[simp] theorem describeType_registry : (c.describeType key name size).registry = c.registry := by
  unfold describeType
  split <;> rfl

@[simp] theorem describeType_table : (c.describeType key name size).table = c.table := by
  unfold describeType
  split <;> rfl

@[simp] theorem describeType_helper : (c.describeType key name size).helper = c.helper := by
  unfold describeType
  split <;> rfl

@[simp] theorem describeType_line : (c.describeType key name size).line = c.line := by
  unfold describeType
  split <;> rfl

@[simp] theorem describeType_functions :
    (c.describeType key name size).module.functions = c.module.functions := by
  unfold describeType
  split <;> rfl

@[simp] theorem describeType_unlisted :
    (c.describeType key name size).module.unlisted = c.module.unlisted := by
  unfold describeType
  split <;> rfl

variable {c} in
theorem describeType_of_none (h : c.debug = none) : c.describeType key name size = c := by
  unfold describeType
  rw [h]

variable {c} in
theorem describeType_of_some {d : DebugTable} (h : c.debug = some d) :
    c.describeType key name size =
      c.define { d with types := d.types ++ [(key, .node d.nextId)] } [.basicType name size] := by
  unfold describeType
  rw [h]

theorem describeType_debug :
    (c.describeType key name size).debug = c.debug.map fun d =>
      { d with nextId := d.nextId + 1, types := d.types ++ [(key, .node d.nextId)] } := by
  unfold describeType
  cases hd : c.debug with
  | none => exact hd
  | some d => rfl

theorem describeType_debugInfo : (c.describeType key name size).debugInfo = c.debugInfo := by
  rw [debugInfo, describeType_debug, Option.isSome_map]
  rfl

theorem describeType_named :
    (c.describeType key name size).module.named = c.module.named := by
  unfold describeType
  split <;> rfl

end DescribeType

/-! ## Functions -/

end Compiler

namespace DebugTable

variable (d : DebugTable) (name : Text) (r : NodeRef)

@[simp] theorem putSubprogram_nextId : (d.putSubprogram name r).nextId = d.nextId := by
  unfold putSubprogram
  split <;> rfl

@[simp] theorem putSubprogram_types : (d.putSubprogram name r).types = d.types := by
  unfold putSubprogram
  split <;> rfl

theorem any_subprograms_iff :
    d.subprograms.any (fun s => decide (s.1 = name)) = true ↔ name ∈ d.subprograms.map Prod.fst := by
  rw [List.any_eq_true, List.mem_map]
  simp only [decide_eq_true_eq]

theorem fst_replace (s : Text × NodeRef) : (if s.1 = name then (name, r) else s).1 = s.1 := by
  by_cases hs : s.1 = name
  · rw [if_pos hs, hs]
  · rw [if_neg hs]

theorem putSubprogram_keys :
    (d.putSubprogram name r).subprograms.map Prod.fst =
      if name ∈ d.subprograms.map Prod.fst then d.subprograms.map Prod.fst
      else d.subprograms.map Prod.fst ++ [name] := by
  unfold putSubprogram
  by_cases hmem : name ∈ d.subprograms.map Prod.fst
  · rw [if_pos ((d.any_subprograms_iff name).mpr hmem), if_pos hmem, List.map_map]
    exact List.map_congr_left fun s _ => fst_replace name r s
  · rw [if_neg (fun h => hmem ((d.any_subprograms_iff name).mp h)), if_neg hmem, List.map_append]
    rfl

theorem mem_putSubprogram (k : Text) :
    k ∈ (d.putSubprogram name r).subprograms.map Prod.fst ↔
      k ∈ d.subprograms.map Prod.fst ∨ k = name := by
  rw [putSubprogram_keys]
  by_cases hmem : name ∈ d.subprograms.map Prod.fst
  · rw [if_pos hmem]
    exact ⟨Or.inl, fun h => h.elim id fun hk => hk ▸ hmem⟩
  · rw [if_neg hmem, List.mem_append, List.mem_singleton]

theorem putSubprogram_nodup (h : (d.subprograms.map Prod.fst).Nodup) :
    ((d.putSubprogram name r).subprograms.map Prod.fst).Nodup := by
  rw [putSubprogram_keys]
  by_cases hmem : name ∈ d.subprograms.map Prod.fst
  · rw [if_pos hmem]
    exact h
  · rw [if_neg hmem]
    rw [← List.concat_eq_append]
    exact h.concat hmem

theorem subprogram?_putSubprogram (k : Text) :
    (d.putSubprogram name r).subprogram? k = if k = name then some r else d.subprogram? k := by
  unfold putSubprogram subprogram?
  by_cases hmem : name ∈ d.subprograms.map Prod.fst
  · rw [if_pos ((d.any_subprograms_iff name).mpr hmem)]
    have hkey : ((fun s : Text × NodeRef => decide (s.1 = k)) ∘
        fun s => if s.1 = name then (name, r) else s) = fun s => decide (s.1 = k) := by
      funext s
      rw [Function.comp, fst_replace]
    rw [List.find?_map, hkey, Option.map_map]
    by_cases hk : k = name
    · rw [if_pos hk, hk]
      obtain ⟨s, hs⟩ := Option.isSome_iff_exists.mp (find?_key_isSome_iff.mpr hmem)
      rw [hs, Option.map_some, Function.comp, if_pos (mem_of_find?_key hs).2]
    · rw [if_neg hk]
      cases hs : d.subprograms.find? fun s => decide (s.1 = k) with
      | none => rfl
      | some s =>
        rw [Option.map_some, Option.map_some, Function.comp,
          if_neg (by rw [(mem_of_find?_key hs).2]; exact hk)]
  · rw [if_neg (fun h => hmem ((d.any_subprograms_iff name).mp h)), List.find?_append]
    by_cases hk : k = name
    · rw [if_pos hk, hk, find?_key_eq_none_iff.mpr hmem]
      simp
    · rw [if_neg hk]
      have hlast : [(name, r)].find? (fun s => decide (s.1 = k)) = none := by
        simp [Ne.symm hk]
      rw [hlast, Option.or_none]

end DebugTable

namespace Compiler

theorem locateCalls_map_bare (id : Nat) (insts : List Inst) :
    (locateCalls id insts).map Inst.bare = insts.map Inst.bare := by
  induction insts generalizing id with
  | nil => rfl
  | cons i rest ih =>
    cases i with
    | call name result callee args attachments =>
      simp only [locateCalls, List.map_cons, ih]
      rfl
    | _ =>
      simp only [locateCalls, List.map_cons, ih]

theorem locate_bare (id : Nat) (f : Function) : (locate id f).bare = f.bare := by
  simp only [Function.bare, locate, List.map_map]
  congr 1
  apply List.map_congr_left
  intro b _
  simp only [Function.comp, Block.bare, locateCalls_map_bare]

def described (c : Compiler) (f : Function) : Function :=
  match c.debug with
  | none => f
  | some d =>
    { locate (d.nextId + 3) f with
      attachments := f.attachments ++ [⟨"dbg", .node (d.nextId + 2)⟩] }

theorem described_bare (c : Compiler) (f : Function) : (c.described f).bare = f.bare := by
  unfold described
  split
  · rfl
  · exact locate_bare _ f

theorem described_name (c : Compiler) (f : Function) : (c.described f).name = f.name := by
  unfold described
  split <;> rfl

theorem described_params (c : Compiler) (f : Function) : (c.described f).params = f.params := by
  unfold described
  split <;> rfl

theorem described_result (c : Compiler) (f : Function) : (c.described f).result = f.result := by
  unfold described
  split <;> rfl

def subprogramNodes (c : Compiler) (next : Nat) (f : Function) (signature : List NodeRef) :
    List Node :=
  [.tuple signature, .subroutine (some (.node next)),
      .subprogram f.displayName DebugTable.unit DebugTable.file c.line (some (.node (next + 1)))] ++
    f.calls.map fun _ => .location c.line (.node (next + 2))

section Install

variable (c : Compiler) (f : Function) (signature : List NodeRef)

variable {c} in
theorem install_of_none (h : c.debug = none) : c.install f signature = c.appendFunction f := by
  have hdebug : (c.appendFunction f).debug = none := h
  unfold install attachSubprogram
  rw [hdebug]

variable {c} in
theorem install_of_some {d : DebugTable} (h : c.debug = some d) :
    c.install f signature =
      { c with
        module := { c.module with functions := c.module.functions ++ [c.described f] }
        table := c.table ++ [(f.name, c.module.functions.length)] }.define
      (d.putSubprogram f.displayName (.node (d.nextId + 2)))
      (c.subprogramNodes d.nextId f signature) := by
  have hdebug : (c.appendFunction f).debug = some d := h
  unfold install attachSubprogram
  rw [hdebug]
  unfold replaceLast appendFunction described
  rw [h, List.dropLast_concat]
  rfl

/-- Whatever metadata makes no difference to shows a function in its place and in the table. -/
theorem install_shows {α : Type} (view : Compiler → α)
    (hview : ∀ c d nodes, view (define c d nodes) = view c) :
    view (c.install f signature) = view { c with
      module := { c.module with functions := c.module.functions ++ [c.described f] }
      table := c.table ++ [(f.name, c.module.functions.length)] } := by
  cases h : c.debug with
  | none =>
    rw [install_of_none f signature h, described, h]
    unfold appendFunction
    rw [h]
  | some d => rw [install_of_some f signature h, hview, h]

@[simp] theorem install_functions :
    (c.install f signature).module.functions = c.module.functions ++ [c.described f] :=
  c.install_shows f signature (fun c => c.module.functions) fun _ _ _ => rfl

@[simp] theorem install_table :
    (c.install f signature).table = c.table ++ [(f.name, c.module.functions.length)] :=
  c.install_shows f signature table fun _ _ _ => rfl

@[simp] theorem install_registry : (c.install f signature).registry = c.registry :=
  c.install_shows f signature registry fun _ _ _ => rfl

@[simp] theorem install_helper : (c.install f signature).helper = c.helper :=
  c.install_shows f signature helper fun _ _ _ => rfl

@[simp] theorem install_line : (c.install f signature).line = c.line :=
  c.install_shows f signature line fun _ _ _ => rfl

@[simp] theorem install_unlisted :
    (c.install f signature).module.unlisted = c.module.unlisted :=
  c.install_shows f signature (fun c => c.module.unlisted) fun _ _ _ => rfl

theorem install_named : (c.install f signature).module.named = c.module.named :=
  c.install_shows f signature (fun c => c.module.named) fun _ _ _ => rfl

theorem install_debug :
    (c.install f signature).debug = c.debug.map fun d =>
      { d.putSubprogram f.displayName (.node (d.nextId + 2)) with
        nextId := d.nextId + (3 + f.calls.length) } := by
  cases hd : c.debug with
  | none =>
    rw [install_of_none f signature hd]
    exact hd
  | some d =>
    rw [install_of_some f signature hd]
    simp only [define_debug, subprogramNodes, Option.map_some, DebugTable.putSubprogram_nextId,
      List.length_append, List.length_map, List.length_cons, List.length_nil]

theorem install_debugInfo : (c.install f signature).debugInfo = c.debugInfo := by
  rw [debugInfo, install_debug, Option.isSome_map]
  rfl

end Install

end Compiler
end Lowering
end FeltLowering
