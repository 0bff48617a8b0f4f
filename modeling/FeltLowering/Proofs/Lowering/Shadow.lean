import FeltLowering.Proofs.Lowering.Mirror
import FeltLowering.Proofs.Lowering.Requests

/-
The debug table follows the compiler through every sequence of calls.

`Mirror` says that every type and every function is described.  Here the description is
shown to be exact.  The table has the keys of the registry and no others, every type is
an integer type, so the sizes in a signature are widths, and no two functions share a
subprogram: a subprogram is a node, nodes are numbered without gaps, and a new function
gets a number that was not given before.  All of it is one invariant, `Kept`, which a
lowering over registered slots preserves whatever its body, and every other call because
it is a series of moves.
-/
namespace FeltLowering

namespace Ir

/-- The result and the parameters are integers. -/
def Function.Integral (f : Function) : Prop :=
  ∀ ty ∈ f.result :: f.params.map Param.ty, ∃ w, ty = .int w

/-- Nothing is defined from the next number on. -/
theorem Module.Dense.lt_of_node? {m : Module} {n k : Nat} {node : Node} (h : m.Dense n)
    (hk : m.node? (.node k) = some node) : k < n := by
  obtain ⟨d, hd, -⟩ := Option.map_eq_some_iff.mp hk
  have hmem : NodeRef.node k ∈ m.definitions.map Definition.ref := by
    obtain ⟨hd, href⟩ := Lowering.mem_of_find?_key hd
    exact href ▸ List.mem_map_of_mem hd
  rw [h] at hmem
  obtain ⟨i, hi, href⟩ := List.mem_map.mp hmem
  cases href
  exact List.mem_range.mp hi

end Ir

namespace Lowering

open Ir

namespace Compiler

/-- What `Mirror` leaves open. -/
structure Exact (c : Compiler) : Prop where
  types : ∀ s ∈ c.registry.entries, ∃ w, s.type.ty = .int w
  functions : ∀ f ∈ c.module.functions, f.Integral
  /-- No two functions share a subprogram. -/
  distinct : c.debugInfo = true → (c.module.functions.map Function.attachments).Nodup
  named : c.debugInfo = false → c.module.named = []

theorem Exact.congr {c c' : Compiler} (h : c.Exact) (hm : c'.module = c.module)
    (hd : c'.debugInfo = c.debugInfo) (hr : c'.registry.entries = c.registry.entries) :
    c'.Exact where
  types := hr ▸ h.types
  functions := hm ▸ h.functions
  distinct := by
    rw [hm, hd]
    exact h.distinct
  named := by
    rw [hm, hd]
    exact h.named

theorem Exact.describe {c : Compiler} (h : c.Exact) (key name : Text) (size : Nat) {type : Handle}
    (hty : ∃ w, type.ty = .int w) :
    ({ c with registry := c.registry.add key type }.describeType key name size).Exact where
  types := by
    intro s hs
    rw [describeType_registry, Registry.entries_add] at hs
    rcases List.mem_append.mp hs with hs | hs
    · exact h.types s hs
    · rw [List.mem_singleton.mp hs]
      exact hty
  functions := by
    rw [describeType_functions]
    exact h.functions
  distinct := by
    rw [describeType_debugInfo, describeType_functions]
    exact h.distinct
  named := by
    rw [describeType_debugInfo, describeType_named]
    exact h.named

/-- The subprogram of a new function is a node that nothing has been attached to. -/
theorem Exact.install {c : Compiler} (h : c.Exact) (hm : c.Mirror) {f : Function}
    (hf : f.Integral) (hbare : f.attachments = []) (signature : List NodeRef) :
    (c.install f signature).Exact where
  types := by
    rw [install_registry]
    exact h.types
  functions := by
    intro g hg
    rw [install_functions] at hg
    rcases List.mem_append.mp hg with hg | hg
    · exact h.functions g hg
    · rw [List.mem_singleton.mp hg, Function.Integral, described_result, described_params]
      exact hf
  distinct := by
    intro hon
    rw [install_debugInfo] at hon
    obtain ⟨d, hd⟩ := Option.isSome_iff_exists.mp hon
    have hmir := hm.on d hd
    have hnew : (c.described f).attachments = [⟨"dbg", .node (d.nextId + 2)⟩] := by
      simp only [described, hd, hbare, List.nil_append]
    rw [install_functions]
    refine nodup_map_append_singleton (h.distinct hon) fun hmem => ?_
    obtain ⟨g, hg, hsame⟩ := List.mem_map.mp hmem
    obtain ⟨line, sp, hdesc⟩ := hmir.functions g hg
    obtain ⟨type, types, fields, hsp, -⟩ := hdesc.signature
    have hsp' : sp = .node (d.nextId + 2) := by
      have heq := hdesc.attached.symm.trans (hsame.trans hnew)
      simpa using heq
    rw [hsp'] at hsp
    have hlt := hmir.dense.lt_of_node? hsp
    omega
  named := by
    rw [install_debugInfo, install_named]
    exact h.named

/-! ## One call -/

/-- All that is known of a compiler made with the given options. -/
structure Kept (o : Options) (c : Compiler) : Prop where
  registry : c.registry.Sound
  tabled : c.Tabled
  paired : c.Paired
  mirror : c.Mirror
  exact : c.Exact
  debugInfo : c.debugInfo = o.debugInfo

theorem lower_exact {c : Compiler} {name : Text} {result : Slot} {params : List Slot} {body : Body}
    {done : Lowered} (he : c.Exact) (hm : c.Mirror)
    (hslots : ∀ s ∈ result :: params, c.registry.Holds s)
    (h : c.lower name result params body = .ok done) : done.compiler.Exact := by
  obtain ⟨signature, code, -, -, -, rfl⟩ := lower_eq_ok_iff.mp h
  have htypes : ∀ s ∈ result :: params, ∃ w, s.type.ty = .int w :=
    fun s hs => he.types s (Registry.mem_of_lookup? (hslots s hs)).1
  refine he.install hm (fun ty hty => ?_) rfl signature
  rw [buildFunction_eq, Code.function_params] at hty
  obtain ⟨s, hs, rfl⟩ := List.mem_map.mp
    (show ty ∈ (result :: params).map fun s => s.type.ty from hty)
  exact htypes s hs

theorem lower_kept {o : Options} {c : Compiler} {name : Text} {result : Slot} {params : List Slot}
    {body : Body} {done : Lowered} (hslots : ∀ s ∈ result :: params, c.registry.Holds s)
    (h : c.lower name result params body = .ok done) (hc : c.Kept o) : done.compiler.Kept o := by
  have htabled := lower_tabled h hc.tabled
  have hmirror := lower_mirror hc.mirror hslots h
  have hexact := lower_exact hc.exact hc.mirror hslots h
  obtain ⟨signature, code, -, -, -, rfl⟩ := lower_eq_ok_iff.mp h
  refine ⟨?_, htabled, hc.paired.install _ _, hmirror, hexact, ?_⟩
  · rw [install_registry]
    exact hc.registry
  · rw [install_debugInfo]
    exact hc.debugInfo

theorem Move.exact {c c' : Compiler} (h : Move c c') (hm : c.Mirror) (he : c.Exact) : c'.Exact := by
  have hbuiltin : ∀ (d : Declaration) (builtin : Text) (type : Handle),
      (∃ w, type.ty = .int w) → (c.addBuiltin d builtin type).Exact := by
    intro d builtin type hty
    exact (he.describe d.id.key d.id.name type.ty.size hty).congr rfl rfl
      (Registry.entries_addName _ _ _)
  cases h with
  | line line => exact he.congr rfl rfl rfl
  | type h =>
    rcases (declareType_eq_ok_iff.mp h).2 with ⟨-, rfl⟩ | ⟨w, -, rfl⟩ | ⟨inner, slot, -, hslot, rfl⟩
    · exact hbuiltin _ _ _ ⟨_, rfl⟩
    · exact hbuiltin _ _ _ ⟨w, rfl⟩
    -- A wrapper has the type it wraps, which is an integer whatever it wraps itself.
    · exact he.describe _ _ _ (he.types slot (Registry.mem_of_lookup? hslot).1)
  | wide h => exact he.describe _ _ _ ⟨_, rfl⟩
  | function hslots _ h => exact lower_exact he hm hslots h
  | helper _ hfelt hwide h =>
    refine (lower_exact he hm (fun s hs => ?_) h).congr rfl rfl rfl
    rcases List.mem_pair.mp hs with rfl | rfl
    · exact Registry.holds_of_lookupName? hfelt
    · exact Registry.holds_of_lookup? hwide

theorem Move.kept {o : Options} {c c' : Compiler} (h : Move c c') (hc : c.Kept o) : c'.Kept o where
  registry := h.registry_sound hc.registry
  tabled := h.tabled hc.tabled
  paired := h.paired hc.paired
  mirror := h.mirror hc.paired hc.mirror
  exact := h.exact hc.mirror hc.exact
  debugInfo := h.debugInfo_eq.trans hc.debugInfo

theorem new_exact (o : Options) : (new o).Exact := by
  unfold new
  cases o.debugInfo with
  | true => exact ⟨nofun, nofun, fun _ => .nil, nofun⟩
  | false => exact ⟨nofun, nofun, nofun, fun _ => rfl⟩

theorem new_kept (o : Options) : (new o).Kept o where
  registry := new_registry_sound o
  tabled := new_tabled o
  paired := new_paired o
  mirror := new_mirror o
  exact := new_exact o
  debugInfo := new_debugInfo o

end Compiler

/-! ## Every sequence of calls -/

theorem Session.serveAll_kept {o : Options} {requests : List Request}
    (h : (Session.start o).Registered requests) :
    ((Session.start o).serveAll requests).compiler.Kept o :=
  serveAll_induction (fun hmove => hmove.kept) (fun hslots hdone => Compiler.lower_kept hslots hdone)
    h (Compiler.new_kept o)

/-- The table describes the types and the functions of the compiler, all of them and
nothing else. -/
structure Compiler.Shadows (c : Compiler) (d : DebugTable) : Prop where
  keys : d.types.map Prod.fst = c.registry.entries.map Slot.key
  unique : (d.types.map Prod.fst).Nodup
  sizes : ∀ s ∈ c.registry.entries, ∃ w r name,
    s.type.ty = .int w ∧ d.type? s.key = some r ∧ c.module.node? r = some (.basicType name w)
  functions : ∀ f ∈ c.module.listed, f.Integral ∧ ∃ line sp, c.module.Describes line sp f
  distinct : (c.module.listed.map Function.attachments).Nodup

theorem Compiler.Kept.shadows {o : Options} {c : Compiler} (h : c.Kept o) {d : DebugTable}
    (hd : c.debug = some d) : c.Shadows d where
  keys := h.paired d hd
  unique := by
    rw [h.paired d hd]
    exact h.registry.keys
  sizes := by
    intro s hs
    obtain ⟨w, hw⟩ := h.exact.types s hs
    obtain ⟨r, hr, name, hname⟩ := (h.mirror.on d hd).types s hs
    rw [hw] at hname
    exact ⟨w, r, name, hw, hr, hname⟩
  functions := by
    intro f hf
    rw [h.tabled.listed_eq] at hf
    exact ⟨h.exact.functions f hf, (h.mirror.on d hd).functions f hf⟩
  distinct := by
    rw [h.tabled.listed_eq]
    refine h.exact.distinct ?_
    rw [Compiler.debugInfo, hd]
    rfl

/-- After every sequence of calls over registered slots the debug table is a faithful
picture of the compiler, and without debug info there is no metadata. -/
theorem debugTable_shadows (o : Options) {requests : List Request}
    (h : (Session.start o).Registered requests) :
    let c := ((Session.start o).serveAll requests).compiler
    (o.debugInfo = true → ∃ d, c.debug = some d ∧ c.Shadows d) ∧
      (o.debugInfo = false → c.debug = none ∧ c.module.definitions = [] ∧ c.module.named = [] ∧
        ∀ f ∈ c.module.listed, f.Unmarked) := by
  intro c
  have hkept : c.Kept o := Session.serveAll_kept h
  constructor
  · intro hon
    obtain ⟨d, hd⟩ := Option.isSome_iff_exists.mp (hkept.debugInfo.trans hon)
    exact ⟨d, hd, hkept.shadows hd⟩
  · intro hoff
    have hinfo : c.debugInfo = false := hkept.debugInfo.trans hoff
    have hnone : c.debug = none := Compiler.debug_eq_none_iff.mpr hinfo
    obtain ⟨hdefs, hfuncs⟩ := hkept.mirror.off hnone
    refine ⟨hnone, hdefs, hkept.exact.named hinfo, ?_⟩
    rw [hkept.tabled.listed_eq]
    exact hfuncs

/-- A wrapper of a wrapper, a type declared twice, the helper, and a function of wrappers on
a line of its own. -/
def wrapperRequests : List Request :=
  [.operation (.declareType ⟨⟨0, "felt"⟩, "felt252", none⟩),
    .operation (.declareType ⟨⟨1, "unit"⟩, "NonZero", some [{ type := some ⟨0, []⟩ }]⟩),
    .operation (.declareType ⟨⟨2, "units"⟩, "NonZero", some [{ type := some ⟨1, []⟩ }]⟩),
    .operation (.declareType ⟨⟨0, "felt"⟩, "felt252", none⟩),
    .operation .declareHelper,
    .operation (.setLine 9),
    .lower "sum" ⟨"2", ⟨.int Felt.width, 1⟩⟩ [⟨"1", ⟨.int Felt.width, 1⟩⟩, ⟨"2", ⟨.int Felt.width, 1⟩⟩]
      (.field .add (some ⟨0⟩))]

theorem wrapperRequests_shadowed :
    (Session.start { debugInfo := true }).Registered wrapperRequests ∧
      ∃ d, ((Session.start { debugInfo := true }).serveAll wrapperRequests).compiler.debug = some d ∧
        ((Session.start { debugInfo := true }).serveAll wrapperRequests).compiler.Shadows d ∧
        d.types.map Prod.fst = [Text.ofString "0", "1", "2", wideKey] ∧
        ((Session.start { debugInfo := true }).serveAll wrapperRequests).compiler.module.listed.length
          = 2 := by
  have hreg : (Session.start { debugInfo := true }).Registered wrapperRequests := by
    refine ⟨trivial, trivial, trivial, trivial, trivial, trivial, ?_, trivial⟩
    show ∀ s ∈ _, Registry.lookup? _ s.key = some s
    decide +kernel
  obtain ⟨d, hd, hshadows⟩ := (debugTable_shadows { debugInfo := true } hreg).1 rfl
  refine ⟨hreg, d, hd, hshadows, ?_, by decide +kernel⟩
  rw [hshadows.keys]
  decide +kernel

end Lowering
end FeltLowering
