import FeltLowering.Proofs.Lowering.Mirror
import FeltLowering.Proofs.Lowering.Requests

/-
The metadata of a module as a graph.

Nodes are numbered in the order of their definition, without gaps, and a node refers to
nodes with smaller numbers only.  So every reference leads to a definition and no chain of
references comes back to where it started.  What is attached to functions and calls, and
what the named metadata lists, is defined as well.

The invariant `Numbered` is about what has been defined so far.  A new type is one node
without references, and a new function the nodes of `subprogramNodes`, whose references
are to debug types, to the unit and to each other.  The debug types of a signature are
found under the keys of its slots and in no other way, so the slots need not be those of
the registry: `metadata_forms_graph` holds for every sequence of requests.
-/
namespace FeltLowering

namespace Ir

open Lowering

def Node.refs : Node → List NodeRef
  | .file _ _ => []
  | .unit inFile _ => [inFile]
  | .flag _ _ => []
  | .basicType _ _ => []
  | .tuple fields => fields
  | .subroutine types => types.toList
  | .subprogram _ inUnit inFile _ type => inUnit :: inFile :: type.toList
  | .location _ scope => [scope]

def Function.marks (f : Function) : List NodeRef :=
  f.attachments.map Attachment.ref ++
    f.calls.flatMap fun i => (Compiler.attachmentsOf i).map Attachment.ref

def NodeRef.Below (n : Nat) (r : NodeRef) : Prop := ∃ j < n, r = .node j

theorem NodeRef.Below.mono {m n : Nat} {r : NodeRef} (h : r.Below m) (hle : m ≤ n) : r.Below n := by
  obtain ⟨j, hj, rfl⟩ := h
  exact ⟨j, Nat.lt_of_lt_of_le hj hle, rfl⟩

/-- Every node refers to nodes defined before it. -/
def Module.Backward (m : Module) : Prop :=
  ∀ (i : Nat) (d : Definition), m.definitions[i]? = some d → ∀ r ∈ d.node.refs, r.Below i

theorem Module.Dense.length {m : Module} {n : Nat} (h : m.Dense n) : m.definitions.length = n := by
  have hlen := congrArg List.length h
  rwa [List.length_map, List.length_map, List.length_range] at hlen

theorem Module.Dense.ref_eq {m : Module} {n i : Nat} (h : m.Dense n) {d : Definition}
    (hd : m.definitions[i]? = some d) : d.ref = .node i := by
  have hi : i < n := by
    rw [← h.length]
    exact (List.getElem?_eq_some_iff.mp hd).1
  have href := congrArg (fun l => l[i]?) h
  simp only [List.getElem?_map, hd, List.getElem?_range hi, Option.map_some, Option.some.injEq] at href
  exact href

theorem Module.Dense.mem_of_below {m : Module} {n : Nat} (h : m.Dense n) {r : NodeRef}
    (hr : r.Below n) : r ∈ m.definitions.map Definition.ref := by
  obtain ⟨j, hj, rfl⟩ := hr
  rw [h]
  exact List.mem_map_of_mem (List.mem_range.mpr hj)

theorem Function.calls_bare (f : Function) : f.bare.calls = f.calls.map Inst.bare := by
  have hcall : Inst.isCall ∘ Inst.bare = Inst.isCall := by
    funext i
    cases i <;> rfl
  unfold calls
  rw [insts_bare, List.filter_map, hcall]

end Ir

namespace Lowering

open Ir

namespace Compiler

theorem calls_described_length (c : Compiler) (f : Function) :
    (c.described f).calls.length = f.calls.length := by
  have hbare := congrArg (fun g => g.calls.length) (c.described_bare f)
  simpa only [Function.calls_bare, List.length_map] using hbare

/-- New nodes that refer to nodes before them. -/
theorem define_backward {c : Compiler} {d : DebugTable} {nodes : List Node}
    (hdense : c.module.Dense d.nextId) (h : c.module.Backward)
    (hnodes : ∀ (i : Nat) (n : Node), nodes[i]? = some n → ∀ r ∈ n.refs, r.Below (d.nextId + i)) :
    (c.define d nodes).module.Backward := by
  intro i e he r hr
  have hlen := hdense.length
  rw [define_definitions] at he
  rcases Nat.lt_or_ge i d.nextId with hi | hi
  · rw [List.getElem?_append_left (by omega)] at he
    exact h i e he r hr
  · rw [List.getElem?_append_right (by omega), List.getElem?_mapIdx] at he
    obtain ⟨n, hn, rfl⟩ := Option.map_eq_some_iff.mp he
    have hpos : d.nextId + (i - c.module.definitions.length) = i := by omega
    exact hpos ▸ hnodes _ n hn r hr

structure Numbered (c : Compiler) (d : DebugTable) : Prop where
  dense : c.module.Dense d.nextId
  backward : c.module.Backward
  types : ∀ t ∈ d.types, t.2.Below d.nextId
  marks : ∀ f ∈ c.module.functions, ∀ r ∈ f.marks, r.Below d.nextId
  named : ∀ entry ∈ c.module.named, ∀ r ∈ entry.2, r.Below d.nextId
  /-- Four nodes for the module, one for each type, three for each function and one for each
  call. -/
  count : d.nextId = 4 + c.registry.entries.length + 3 * c.module.functions.length +
    (c.module.functions.flatMap Function.calls).length

def IsNumbered (c : Compiler) : Prop := ∀ d, c.debug = some d → c.Numbered d

theorem IsNumbered.congr {c c' : Compiler} (h : c.IsNumbered) (hm : c'.module = c.module)
    (hd : c'.debug = c.debug) (hr : c'.registry.entries = c.registry.entries) : c'.IsNumbered := by
  intro d hd'
  obtain ⟨dense, backward, types, marks, named, count⟩ := h d (hd ▸ hd')
  rw [← hm] at dense backward marks named count
  rw [← hr] at count
  exact ⟨dense, backward, types, marks, named, count⟩

/-! ## Types -/

theorem IsNumbered.describe {c : Compiler} (h : c.IsNumbered) (key name : Text) (size : Nat)
    (type : Handle) :
    ({ c with registry := c.registry.add key type }.describeType key name size).IsNumbered := by
  intro d' hd'
  rw [describeType_debug] at hd'
  obtain ⟨d, hd, rfl⟩ := Option.map_eq_some_iff.mp hd'
  have hd : c.debug = some d := hd
  have hn := h d hd
  let b : Compiler := { c with registry := c.registry.add key type }
  let t : DebugTable := { d with types := d.types ++ [(key, .node d.nextId)] }
  rw [describeType_of_some key name size (c := b) hd]
  have hnodes : ∀ (i : Nat) (n : Node), [Node.basicType name size][i]? = some n →
      ∀ r ∈ n.refs, r.Below (d.nextId + i) := by
    intro i n hi r hr
    have hn : n = .basicType name size := List.mem_singleton.mp (List.mem_of_getElem? hi)
    rw [hn] at hr
    exact absurd hr List.not_mem_nil
  have hcount := hn.count
  refine ⟨define_dense (c := b) (d := t) _ hn.dense,
    define_backward (c := b) (d := t) hn.dense hn.backward hnodes, ?_, ?_, ?_, ?_⟩
  · intro t ht
    rcases List.mem_append.mp ht with ht | ht
    · exact (hn.types t ht).mono (Nat.le_succ _)
    · rw [List.mem_singleton.mp ht]
      exact ⟨d.nextId, Nat.lt_succ_self _, rfl⟩
  · exact fun f hf r hr => (hn.marks f hf r hr).mono (Nat.le_succ _)
  · exact fun entry he r hr => (hn.named entry he r hr).mono (Nat.le_succ _)
  · show d.nextId + 1 = 4 + (c.registry.add key type).entries.length +
      3 * c.module.functions.length + (c.module.functions.flatMap Function.calls).length
    rw [Registry.entries_add, List.length_append, List.length_singleton]
    omega

/-! ## Functions -/

section Install

variable {c : Compiler} {d : DebugTable} {f : Function} {signature : List NodeRef}

/-- The nodes of a function refer to its debug types, to the unit and the file, and to one
another. -/
theorem subprogramNodes_below (hsig : ∀ r ∈ signature, r.Below d.nextId) (i : Nat) (n : Node)
    (hi : (c.subprogramNodes d.nextId f signature)[i]? = some n) :
    ∀ r ∈ n.refs, r.Below (d.nextId + i) := by
  intro r hr
  unfold subprogramNodes at hi
  match i with
  | 0 =>
    cases hi
    exact hsig r hr
  | 1 =>
    cases hi
    rw [List.mem_singleton.mp hr]
    exact ⟨d.nextId, Nat.lt_succ_self _, rfl⟩
  | 2 =>
    cases hi
    rcases List.mem_cons.mp hr with rfl | hr
    · exact ⟨1, by omega, rfl⟩
    · rcases List.mem_cons.mp hr with rfl | hr
      · exact ⟨0, by omega, rfl⟩
      · rw [List.mem_singleton.mp hr]
        exact ⟨d.nextId + 1, by omega, rfl⟩
  | k + 3 =>
    rw [List.getElem?_append_right (by simp), List.getElem?_map] at hi
    obtain ⟨call, -, rfl⟩ := Option.map_eq_some_iff.mp hi
    rw [List.mem_singleton.mp hr]
    exact ⟨d.nextId + 2, by omega, rfl⟩

/-- A new function and its calls carry the nodes that have been defined for them. -/
theorem described_marks {b : Block} (hd : c.debug = some d) (hblocks : f.blocks = [b])
    (hf : f.Unmarked) :
    ∀ r ∈ (c.described f).marks, r.Below (d.nextId + (3 + f.calls.length)) := by
  have hlocated : (c.described f).insts = locateCalls (d.nextId + 3) f.insts := by
    simp [described, hd, locate, Function.insts, hblocks]
  intro r hr
  rcases List.mem_append.mp hr with hr | hr
  · have hatt : (c.described f).attachments = [⟨"dbg", .node (d.nextId + 2)⟩] := by
      simp only [described, hd, hf.1, List.nil_append]
    rw [hatt] at hr
    rw [List.mem_singleton.mp hr]
    exact ⟨d.nextId + 2, by omega, rfl⟩
  · obtain ⟨i, hi, hr⟩ := List.mem_flatMap.mp hr
    obtain ⟨hmem, hcall⟩ := List.mem_filter.mp hi
    rw [hlocated] at hmem
    obtain ⟨k, hk, hatt⟩ := attachmentsOf_locateCalls hf.2 _ hmem hcall
    have hk : k < f.calls.length := hk
    rw [hatt] at hr
    rw [List.mem_singleton.mp hr]
    exact ⟨d.nextId + 3 + k, by omega, rfl⟩

theorem IsNumbered.install {b : Block} (h : c.IsNumbered) (hblocks : f.blocks = [b])
    (hf : f.Unmarked)
    (hsig : ∀ d, c.debug = some d → ∀ r ∈ signature, r.Below d.nextId) :
    (c.install f signature).IsNumbered := by
  intro d' hd'
  rw [install_debug] at hd'
  obtain ⟨d, hd, rfl⟩ := Option.map_eq_some_iff.mp hd'
  have hn := h d hd
  have hcount := hn.count
  have hgrow : d.nextId ≤ d.nextId + (3 + f.calls.length) := Nat.le_add_right _ _
  rw [install_of_some f signature hd]
  let base : Compiler :=
    { c with
      module := { c.module with functions := c.module.functions ++ [c.described f] }
      table := c.table ++ [(f.name, c.module.functions.length)] }
  let t := d.putSubprogram f.displayName (.node (d.nextId + 2))
  let nodes := c.subprogramNodes d.nextId f signature
  have hnext : t.nextId = d.nextId := DebugTable.putSubprogram_nextId ..
  have hlen : nodes.length = 3 + f.calls.length := by
    simp only [nodes, subprogramNodes, List.length_append, List.length_map, List.length_cons,
      List.length_nil]
  have hdense : base.module.Dense t.nextId := by
    rw [hnext]
    exact hn.dense
  have hnodes : ∀ (i : Nat) (n : Node), nodes[i]? = some n →
      ∀ r ∈ n.refs, r.Below (t.nextId + i) := by
    rw [hnext]
    exact subprogramNodes_below (hsig d hd)
  refine ⟨?_, define_backward hdense hn.backward hnodes, ?_, ?_, ?_, ?_⟩
  · have hnew := define_dense nodes hdense
    rwa [hnext, hlen] at hnew
  · intro e he
    rw [DebugTable.putSubprogram_types] at he
    exact (hn.types e he).mono hgrow
  · intro g hg r hr
    rcases List.mem_append.mp hg with hg | hg
    · exact (hn.marks g hg r hr).mono hgrow
    · rw [List.mem_singleton.mp hg] at hr
      exact described_marks hd hblocks hf r hr
  · exact fun entry he r hr => (hn.named entry he r hr).mono hgrow
  · show d.nextId + (3 + f.calls.length) = 4 + c.registry.entries.length +
      3 * (c.module.functions ++ [c.described f]).length +
      ((c.module.functions ++ [c.described f]).flatMap Function.calls).length
    rw [List.length_append, List.flatMap_append, List.length_append, List.flatMap_singleton,
      calls_described_length, List.length_singleton]
    omega

end Install

/-! ## Moves and requests -/

/-- The debug types of a signature have been defined, whatever the slots. -/
theorem IsNumbered.signature {c : Compiler} (h : c.IsNumbered) {name : Text} {slots : List Slot}
    {refs : List NodeRef} (hsig : c.debugSignature name slots = .ok refs) {d : DebugTable}
    (hd : c.debug = some d) : ∀ r ∈ refs, r.Below d.nextId := by
  intro r hr
  have hmem : some r ∈ slots.map fun s => d.type? s.key := by
    rw [(debugSignature_eq_ok_iff hd).mp hsig]
    exact List.mem_map_of_mem hr
  obtain ⟨s, -, hs⟩ := List.mem_map.mp hmem
  obtain ⟨t, ht, rfl⟩ := Option.map_eq_some_iff.mp hs
  exact (h d hd).types t (List.mem_of_find?_eq_some ht)

theorem lower_isNumbered {c : Compiler} {name : Text} {result : Slot} {params : List Slot}
    {body : Body} {done : Lowered} (h : c.lower name result params body = .ok done)
    (hc : c.IsNumbered) : done.compiler.IsNumbered := by
  obtain ⟨signature, code, -, hsig, hcode, rfl⟩ := lower_eq_ok_iff.mp h
  exact hc.install rfl (buildFunction_unmarked name hcode) fun d hd => hc.signature hsig hd

theorem Move.isNumbered {c c' : Compiler} (h : Move c c') (hc : c.IsNumbered) : c'.IsNumbered := by
  have hbuiltin : ∀ (d : Declaration) (builtin : Text) (type : Handle),
      (c.addBuiltin d builtin type).IsNumbered := by
    intro d builtin type
    exact (hc.describe d.id.key d.id.name type.ty.size type).congr rfl rfl
      (Registry.entries_addName _ _ _)
  cases h with
  | line line => exact hc.congr rfl rfl rfl
  | type h =>
    rcases (declareType_eq_ok_iff.mp h).2 with ⟨-, rfl⟩ | ⟨w, -, rfl⟩ | ⟨inner, slot, -, -, rfl⟩
    · exact hbuiltin _ _ _
    · exact hbuiltin _ _ _
    · exact hc.describe _ _ _ _
  | wide h => exact hc.describe _ _ _ _
  | function _ _ h => exact lower_isNumbered h hc
  | helper _ _ _ h => exact (lower_isNumbered h hc).congr rfl rfl rfl

theorem new_isNumbered (o : Options) : (new o).IsNumbered := by
  unfold new
  cases o.debugInfo with
  | false => exact nofun
  | true =>
    intro d hd
    cases hd
    refine ⟨rfl, ?_, nofun, nofun, ?_, rfl⟩
    · intro i e he r hr
      match i with
      | 0 => cases he; exact absurd hr List.not_mem_nil
      | 1 => cases he; exact ⟨0, Nat.one_pos, List.mem_singleton.mp hr⟩
      | 2 => cases he; exact absurd hr List.not_mem_nil
      | 3 => cases he; exact absurd hr List.not_mem_nil
      | k + 4 => cases he
    · intro entry he r hr
      rcases List.mem_pair.mp he with rfl | rfl
      · exact ⟨1, (by decide : 1 < 4), List.mem_singleton.mp hr⟩
      · rcases List.mem_pair.mp hr with rfl | rfl
        · exact ⟨2, (by decide : 2 < 4), rfl⟩
        · exact ⟨3, (by decide : 3 < 4), rfl⟩

theorem Reaches.isNumbered {o : Options} {c : Compiler} (h : Reaches (new o) c) : c.IsNumbered :=
  h.induction (fun hmove => hmove.isNumbered) (new_isNumbered o)

/-- The metadata of a compiler with debug info.  Definition `i` has the number `i` and refers
to definitions with smaller numbers; all that is attached or listed is defined; and the
number of definitions, which is also the next number, counts types, functions and calls. -/
structure MetadataGraph (c : Compiler) : Prop where
  numbered : ∀ (i : Nat) (d : Definition), c.module.definitions[i]? = some d → d.ref = .node i
  next : c.debug.map DebugTable.nextId = some c.module.definitions.length
  backward : ∀ (i : Nat) (d : Definition), c.module.definitions[i]? = some d →
    ∀ r ∈ d.node.refs, ∃ j < i, ∃ e, c.module.definitions[j]? = some e ∧ e.ref = r
  attached : ∀ f ∈ c.module.listed, ∀ r ∈ f.marks, r ∈ c.module.definitions.map Definition.ref
  named : ∀ entry ∈ c.module.named, ∀ r ∈ entry.2, r ∈ c.module.definitions.map Definition.ref
  count : c.module.definitions.length = 4 + c.registry.entries.length +
    3 * c.module.listed.length + (c.module.listed.flatMap Function.calls).length

theorem Numbered.metadataGraph {c : Compiler} {d : DebugTable} (h : c.Numbered d)
    (hd : c.debug = some d) (ht : c.Tabled) : c.MetadataGraph where
  numbered := fun _ _ he => h.dense.ref_eq he
  next := by rw [hd, h.dense.length, Option.map_some]
  backward := by
    intro i e he r hr
    obtain ⟨j, hj, rfl⟩ := h.backward i e he r hr
    have hi : i < c.module.definitions.length := (List.getElem?_eq_some_iff.mp he).1
    have hget := List.getElem?_eq_getElem (Nat.lt_trans hj hi)
    exact ⟨j, hj, _, hget, h.dense.ref_eq hget⟩
  attached := by
    rw [ht.listed_eq]
    exact fun f hf r hr => h.dense.mem_of_below (h.marks f hf r hr)
  named := fun entry he r hr => h.dense.mem_of_below (h.named entry he r hr)
  count := by
    rw [ht.listed_eq, h.dense.length]
    exact h.count

theorem IsNumbered.metadataGraph {c : Compiler} (h : c.IsNumbered) (ht : c.Tabled)
    (hon : c.debugInfo = true) : c.MetadataGraph := by
  obtain ⟨d, hd⟩ := Option.isSome_iff_exists.mp hon
  exact (h d hd).metadataGraph hd ht

end Compiler

/-- Requests neither turn debug info on nor off. -/
theorem Session.serveAll_debugInfo (s : Session) (requests : List Request) :
    (s.serveAll requests).compiler.debugInfo = s.compiler.debugInfo := by
  refine serveAll_preserves (P := fun c => c.debugInfo = s.compiler.debugInfo)
    (fun hmove hc => hmove.debugInfo_eq.trans hc) (fun h hc => ?_) requests rfl
  obtain ⟨signature, code, -, -, -, rfl⟩ := Compiler.lower_eq_ok_iff.mp h
  rw [Compiler.install_debugInfo, hc]

/-- With debug info the metadata is closed, acyclic and numbered without gaps, after every
sequence of requests and for every program that is lowered. -/
theorem metadata_forms_graph {o : Options} (hon : o.debugInfo = true) :
    (∀ requests, ((Session.start o).serveAll requests).compiler.MetadataGraph) ∧
      ∀ env journal p c, (lowerProgram env journal p o).2 = .ok c → c.MetadataGraph := by
  constructor
  · intro requests
    have hstart : (Session.start o).compiler = .new o := rfl
    have hnumbered : ((Session.start o).serveAll requests).compiler.IsNumbered :=
      Session.serveAll_preserves (fun hmove => hmove.isNumbered)
        (fun h => Compiler.lower_isNumbered h) requests (Compiler.new_isNumbered o)
    refine hnumbered.metadataGraph (Session.serveAll_tabled requests (Compiler.new_tabled o)) ?_
    rw [Session.serveAll_debugInfo, hstart, Compiler.new_debugInfo, hon]
  · intro env journal p c h
    have hreach : Compiler.Reaches (.new o) c :=
      Compiler.lowerDecls_reaches (lowerDecls_of_lowerProgram h)
    exact hreach.isNumbered.metadataGraph hreach.tabled (hreach.debugInfo_eq.trans hon)

/-- A type, the helper and its wide type, a failed declaration, and a product of slots that no
registry answers with: the key is known, the type is not the one under it. -/
def strangerRequests : List Request :=
  [.operation (.declareType ⟨⟨0, "felt"⟩, "felt252", none⟩), .operation .declareHelper,
    .operation (.declareType ⟨⟨1, "unit"⟩, "NonZero", none⟩),
    .lower "product" ⟨"0", ⟨.int 8, 0⟩⟩ [⟨"0", ⟨.int Felt.width, 7⟩⟩, ⟨wideKey, ⟨.int Felt.width, 7⟩⟩]
      (.field .mul (some ⟨0⟩))]

theorem strangerRequests_graph :
    ((Session.start { debugInfo := true }).serveAll strangerRequests).compiler.MetadataGraph ∧
      ((Session.start { debugInfo := true }).serveAll strangerRequests).compiler.module.definitions.length
        = 4 + 2 + 3 * 2 + 1 := by
  refine ⟨(metadata_forms_graph rfl).1 strangerRequests, ?_⟩
  decide +kernel

end Lowering
end FeltLowering
