import FeltLowering.Proofs.Lowering.Moves

/-
What holds of the registry and of the function table after any series of moves.

Keys of types and names of functions are unique, the name of a builtin leads to a type of
its width, and the table gives the position of every function.  Each fact is shown for
one move; `Reaches` carries it to every compiler that can come about.
-/
namespace FeltLowering
namespace Lowering

open Ir

/-! ## The registry -/

def BuiltinTy (name : Text) (ty : Ty) : Prop :=
  (name = Text.ofString "felt" ∧ ty = .int Felt.width) ∨
    ∃ w ∈ intWidths, name = intName w ∧ ty = .int w

theorem BuiltinTy.felt {ty : Ty} (h : BuiltinTy (Text.ofString "felt") ty) : ty = .int Felt.width := by
  rcases h with ⟨-, h⟩ | ⟨w, hw, hname, -⟩
  · exact h
  · exact absurd hname.symm (intName_ne w hw).1

theorem BuiltinTy.int {w : Nat} {ty : Ty} (hw : w ∈ intWidths) (h : BuiltinTy (intName w) ty) :
    ty = .int w := by
  rcases h with ⟨hname, -⟩ | ⟨v, hv, hname, h⟩
  · exact absurd hname (intName_ne w hw).1
  · rw [h, intName_inj w hw v hv hname]

structure Registry.Sound (r : Registry) : Prop where
  keys : (r.entries.map Slot.key).Nodup
  /-- The name of a builtin leads to an entry of its type. -/
  names : ∀ n ∈ r.names, ∃ s, r.lookup? n.2 = some s ∧ BuiltinTy n.1 s.type.ty
  wide : ∀ s, r.lookup? wideKey = some s → s.type.ty = .int Felt.wideWidth

namespace Registry

theorem Sound.add {r : Registry} (h : r.Sound) {key : Text} {type : Handle}
    (hfree : r.has key = false) (hwide : key = wideKey → type.ty = .int Felt.wideWidth) :
    (r.add key type).Sound where
  keys := by
    rw [entries_add]
    exact nodup_map_append_singleton h.keys (has_eq_false_iff.mp hfree)
  names := by
    intro n hn
    obtain ⟨s, hs, hty⟩ := h.names n hn
    exact ⟨s, lookup?_add_of_some hs key type, hty⟩
  wide := by
    intro s hs
    cases hold : r.lookup? wideKey with
    | some s' =>
      rw [lookup?_add_of_some hold key type] at hs
      cases hs
      exact h.wide s hold
    | none =>
      obtain ⟨hmem, hkey⟩ := mem_of_lookup? hs
      rw [entries_add] at hmem
      rcases List.mem_append.mp hmem with hmem | hmem
      · exact absurd (hkey ▸ List.mem_map_of_mem hmem) (lookup?_eq_none_iff.mp hold)
      · rw [List.mem_singleton] at hmem
        subst hmem
        exact hwide hkey

theorem Sound.addName {r : Registry} (h : r.Sound) {generic key : Text} {s : Slot}
    (hs : r.lookup? key = some s) (hty : BuiltinTy generic s.type.ty) :
    (r.addName generic key).Sound where
  keys := by
    rw [entries_addName]
    exact h.keys
  names := by
    intro n hn
    rw [lookup?_addName]
    rcases mem_names_addName hn with hn | rfl
    · exact h.names n hn
    · exact ⟨s, hs, hty⟩
  wide := by
    intro s
    rw [lookup?_addName]
    exact h.wide s

theorem Sound.builtinTy {r : Registry} (h : r.Sound) {generic : Text} {s : Slot}
    (hs : r.lookupName? generic = some s) : BuiltinTy generic s.type.ty := by
  obtain ⟨key, hmem, hlookup⟩ := exists_of_lookupName? hs
  obtain ⟨s', hs', hty⟩ := h.names _ hmem
  rw [hlookup] at hs'
  cases hs'
  exact hty

theorem Sound.lookupName?_isSome_iff {r : Registry} (h : r.Sound) (generic : Text) :
    (r.lookupName? generic).isSome = true ↔ generic ∈ r.names.map Prod.fst := by
  refine Registry.lookupName?_isSome_iff (fun n hn => ?_) generic
  obtain ⟨s, hs, -⟩ := h.names n hn
  exact lookup?_isSome_iff.mp (Option.isSome_of_eq_some hs)

end Registry

/-- A number is never the key of the wide type. -/
theorem Ident.key_ne_wideKey (i : Ident) : i.key ≠ wideKey := by
  intro h
  have hd := Text.ofNat_digits i.id.toNat
  rw [show Text.ofNat i.id.toNat = wideKey from h] at hd
  exact absurd (hd.2 0x24 (by decide)) (by decide)

namespace Compiler

theorem insertType_registry (c : Compiler) (key name : Text) (type : Handle) :
    (c.insertType key name type).registry = c.registry.add key type :=
  describeType_registry _ _ _ _

theorem aliasType_registry (c : Compiler) (key name : Text) (inner : Slot) :
    (c.aliasType key name inner).registry = c.registry.add key inner.type :=
  describeType_registry _ _ _ _

theorem addBuiltin_registry (c : Compiler) (d : Declaration) (builtin : Text) (type : Handle) :
    (c.addBuiltin d builtin type).registry =
      (c.registry.add d.id.key type).addName builtin d.id.key := by
  show (c.insertType d.id.key d.id.name type).registry.addName builtin d.id.key = _
  rw [insertType_registry]

/-- A move enters one type, perhaps with the name of a builtin, or none. -/
theorem Move.registry_sound {c c' : Compiler} (h : Move c c') (hc : c.registry.Sound) :
    c'.registry.Sound := by
  have hbuiltin : ∀ (d : Declaration) (builtin : Text) (type : Handle),
      c.registry.has d.id.key = false → BuiltinTy builtin type.ty →
        (c.addBuiltin d builtin type).registry.Sound := by
    intro d builtin type hfree hty
    rw [addBuiltin_registry]
    have hadd : (c.registry.add d.id.key type).Sound :=
      hc.add hfree fun he => absurd he (Ident.key_ne_wideKey d.id)
    exact hadd.addName (Registry.lookup?_add_self hfree type) hty
  cases h with
  | line line => exact hc
  | type h =>
    obtain ⟨hcheck, h⟩ := declareType_eq_ok_iff.mp h
    obtain ⟨hfree, -⟩ := checkType_eq_ok_iff.mp hcheck
    rcases h with ⟨-, rfl⟩ | ⟨w, ⟨hw, -⟩, rfl⟩ | ⟨inner, slot, -, -, rfl⟩
    · exact hbuiltin _ _ _ hfree (Or.inl ⟨rfl, rfl⟩)
    · exact hbuiltin _ _ _ hfree (Or.inr ⟨w, hw, rfl, rfl⟩)
    · rw [aliasType_registry]
      exact hc.add hfree fun he => absurd he (Ident.key_ne_wideKey _)
  | wide h =>
    rw [insertType_registry]
    refine hc.add ?_ fun _ => rfl
    exact Registry.has_eq_false_iff.mpr (Registry.lookup?_eq_none_iff.mp h)
  | function _ _ h =>
    obtain ⟨signature, code, -, -, -, rfl⟩ := lower_eq_ok_iff.mp h
    rw [install_registry]
    exact hc
  | helper _ _ _ h =>
    obtain ⟨signature, code, -, -, -, rfl⟩ := lower_eq_ok_iff.mp h
    show (c.install _ _).registry.Sound
    rw [install_registry]
    exact hc

/-! ## The function table -/

/-- Functions are listed under their names, which are unique and not empty. -/
structure Tabled (c : Compiler) : Prop where
  table : c.table = c.module.functions.mapIdx fun i f => (f.name, i)
  names : (c.module.functions.map Function.name).Nodup
  named : ∀ f ∈ c.module.functions, f.name ≠ []
  unlisted : c.module.unlisted = []

namespace Tabled

variable {c : Compiler}

theorem table_names (h : c.Tabled) : c.table.map Prod.fst = c.module.functions.map Function.name := by
  rw [h.table]
  apply List.ext_getElem?
  intro i
  simp only [List.getElem?_map, List.getElem?_mapIdx, Option.map_map]
  rfl

theorem position?_eq_none_iff (h : c.Tabled) (name : Text) :
    c.position? name = none ↔ name ∉ c.module.functions.map Function.name := by
  unfold position?
  rw [Option.map_eq_none_iff, find?_key_eq_none_iff, h.table_names]

theorem listed_eq (h : c.Tabled) : c.module.listed = c.module.functions := by
  rw [Module.listed, h.unlisted, List.filter_eq_self.mpr, List.zipIdx_map_fst]
  exact fun _ _ => rfl

/-- The table leads to the function of a name. -/
theorem func?_eq (h : c.Tabled) (name : Text) :
    c.func? name = c.module.functions.find? fun f => decide (f.name = name) := by
  cases hfind : c.module.functions.find? fun f => decide (f.name = name) with
  | none =>
    have hpos : c.position? name = none :=
      (h.position?_eq_none_iff name).mpr (find?_key_eq_none_iff.mp hfind)
    rw [func?, hpos]
    rfl
  | some f =>
    obtain ⟨hmem, rfl⟩ := mem_of_find?_key hfind
    obtain ⟨i, hi⟩ := List.mem_iff_getElem?.mp hmem
    have hentry : (f.name, i) ∈ c.table := by
      rw [h.table]
      refine List.mem_iff_getElem?.mpr ⟨i, ?_⟩
      rw [List.getElem?_mapIdx, hi]
      rfl
    have hnodup : (c.table.map Prod.fst).Nodup := h.table_names ▸ h.names
    have hpos : c.position? f.name = some i := by
      unfold position?
      rw [find?_key_of_mem hnodup hentry]
      rfl
    rw [func?, hpos, Option.bind_some, hi]

theorem install (h : c.Tabled) {f : Function} (hname : f.name ≠ [])
    (hfree : c.position? f.name = none) (signature : List NodeRef) :
    (c.install f signature).Tabled where
  table := by
    rw [install_table, install_functions, List.mapIdx_append, h.table]
    simp [described_name]
  names := by
    rw [install_functions]
    refine nodup_map_append_singleton h.names ?_
    rw [described_name]
    exact (h.position?_eq_none_iff _).mp hfree
  named := by
    intro g hg
    rw [install_functions] at hg
    rcases List.mem_append.mp hg with hg | hg
    · exact h.named g hg
    · rw [List.mem_singleton] at hg
      rw [hg, described_name]
      exact hname
  unlisted := by
    rw [install_unlisted]
    exact h.unlisted

end Tabled

theorem insertType_frame (c : Compiler) (key name : Text) (type : Handle) :
    (c.insertType key name type).module.functions = c.module.functions ∧
      (c.insertType key name type).module.unlisted = c.module.unlisted ∧
      (c.insertType key name type).table = c.table := by
  simp [insertType]

theorem declareType_frame {c c' : Compiler} {d : Declaration} (h : c.declareType d = .ok c') :
    c'.module.functions = c.module.functions ∧ c'.module.unlisted = c.module.unlisted ∧
      c'.table = c.table := by
  rcases (declareType_eq_ok_iff.mp h).2 with ⟨-, rfl⟩ | ⟨w, -, rfl⟩ | ⟨inner, slot, -, -, rfl⟩
  · exact c.insertType_frame _ _ _
  · exact c.insertType_frame _ _ _
  · simp [aliasType]

theorem declareType_helper {c c' : Compiler} {d : Declaration} (h : c.declareType d = .ok c') :
    c'.helper = c.helper := by
  rcases (declareType_eq_ok_iff.mp h).2 with ⟨-, rfl⟩ | ⟨w, -, rfl⟩ | ⟨inner, slot, -, -, rfl⟩
  · exact describeType_helper _ _ _ _
  · exact describeType_helper _ _ _ _
  · exact describeType_helper _ _ _ _

theorem lower_tabled {c : Compiler} {name : Text} {result : Slot} {params : List Slot} {body : Body}
    {done : Lowered} (h : c.lower name result params body = .ok done) (hc : c.Tabled) :
    done.compiler.Tabled := by
  obtain ⟨signature, code, hcheck, -, -, rfl⟩ := lower_eq_ok_iff.mp h
  obtain ⟨-, hname, hfree, -⟩ := checkBody_eq_ok_iff.mp hcheck
  exact hc.install hname hfree signature

theorem Move.tabled {c c' : Compiler} (h : Move c c') (hc : c.Tabled) : c'.Tabled := by
  have hframe : ∀ {b : Compiler}, b.module.functions = c.module.functions ∧
      b.module.unlisted = c.module.unlisted ∧ b.table = c.table → b.Tabled := by
    rintro b ⟨hf, hu, ht⟩
    refine ⟨?_, ?_, ?_, ?_⟩
    · rw [ht, hf]; exact hc.table
    · rw [hf]; exact hc.names
    · rw [hf]; exact hc.named
    · rw [hu]; exact hc.unlisted
  cases h with
  | line line => exact hframe ⟨rfl, rfl, rfl⟩
  | type h => exact hframe (declareType_frame h)
  | wide h => exact hframe (c.insertType_frame _ _ _)
  | function _ _ h => exact lower_tabled h hc
  | helper _ _ _ h =>
    obtain ⟨htable, hnames, hnamed, hunlisted⟩ := lower_tabled h hc
    exact ⟨htable, hnames, hnamed, hunlisted⟩

/-! ## The debug types -/

/-- With debug info, types are described under the keys they are registered by. -/
def Paired (c : Compiler) : Prop :=
  ∀ d, c.debug = some d → d.types.map Prod.fst = c.registry.entries.map Slot.key

theorem Paired.describe {c : Compiler} (hc : c.Paired) (key name : Text) (size : Nat)
    (type : Handle) :
    ({ c with registry := c.registry.add key type }.describeType key name size).Paired := by
  intro d hd
  rw [describeType_debug] at hd
  obtain ⟨d', hd', rfl⟩ := Option.map_eq_some_iff.mp hd
  rw [describeType_registry, Registry.entries_add, List.map_append, List.map_append, hc d' hd']
  rfl

theorem Paired.install {c : Compiler} (hc : c.Paired) (f : Function) (signature : List NodeRef) :
    (c.install f signature).Paired := by
  intro d hd
  rw [install_debug] at hd
  obtain ⟨d', hd', rfl⟩ := Option.map_eq_some_iff.mp hd
  rw [install_registry, ← hc d' hd']
  simp only [DebugTable.putSubprogram_types]

theorem Move.paired {c c' : Compiler} (h : Move c c') (hc : c.Paired) : c'.Paired := by
  have hbuiltin : ∀ (d : Declaration) (builtin : Text) (type : Handle),
      (c.addBuiltin d builtin type).Paired := by
    intro d builtin type table htable
    have hp := hc.describe d.id.key d.id.name type.ty.size type table htable
    rw [describeType_registry] at hp
    rw [hp, addBuiltin_registry, Registry.entries_addName]
  cases h with
  | line line => exact hc
  | type h =>
    rcases (declareType_eq_ok_iff.mp h).2 with ⟨-, rfl⟩ | ⟨w, -, rfl⟩ | ⟨inner, slot, -, -, rfl⟩
    · exact hbuiltin _ _ _
    · exact hbuiltin _ _ _
    · exact hc.describe _ _ _ _
  | wide h => exact hc.describe _ _ _ _
  | function _ _ h =>
    obtain ⟨signature, code, -, -, -, rfl⟩ := lower_eq_ok_iff.mp h
    exact hc.install _ _
  | helper _ _ _ h =>
    obtain ⟨signature, code, -, -, -, rfl⟩ := lower_eq_ok_iff.mp h
    exact hc.install (buildFunction helperName _ _ code) signature

/-- Registered types have debug types, so a signature made of them resolves. -/
theorem Paired.debugSignature {c : Compiler} (hc : c.Paired) (name : Text) {slots : List Slot}
    (hslots : ∀ s ∈ slots, c.registry.Holds s) : ∃ refs, c.debugSignature name slots = .ok refs := by
  cases hd : c.debug with
  | none => exact ⟨[], debugSignature_of_none hd name slots⟩
  | some d =>
    have htype : ∀ s ∈ slots, ∃ r, d.type? s.key = some r := by
      intro s hs
      have hkey : s.key ∈ d.types.map Prod.fst := by
        rw [hc d hd]
        exact List.mem_map_of_mem (Registry.mem_of_lookup? (hslots s hs)).1
      obtain ⟨t, ht⟩ := Option.isSome_iff_exists.mp (find?_key_isSome_iff.mpr hkey)
      exact ⟨t.2, by rw [DebugTable.type?, ht]; rfl⟩
    refine ⟨slots.map fun s => (d.type? s.key).getD DebugTable.file, ?_⟩
    rw [debugSignature_eq_ok_iff hd, List.map_map]
    refine List.map_congr_left fun s hs => ?_
    obtain ⟨r, hr⟩ := htype s hs
    simp [hr]

/-- Moves neither turn debug info on nor off. -/
theorem Move.debugInfo_eq {c c' : Compiler} (h : Move c c') : c'.debugInfo = c.debugInfo := by
  cases h with
  | line line => rfl
  | type h =>
    rcases (declareType_eq_ok_iff.mp h).2 with ⟨-, rfl⟩ | ⟨w, -, rfl⟩ | ⟨inner, slot, -, -, rfl⟩
    · exact describeType_debugInfo _ _ _ _
    · exact describeType_debugInfo _ _ _ _
    · exact describeType_debugInfo _ _ _ _
  | wide h => exact describeType_debugInfo _ _ _ _
  | function _ _ h =>
    obtain ⟨signature, code, -, -, -, rfl⟩ := lower_eq_ok_iff.mp h
    exact install_debugInfo _ _ _
  | helper _ _ _ h =>
    obtain ⟨signature, code, -, -, -, rfl⟩ := lower_eq_ok_iff.mp h
    exact install_debugInfo c (buildFunction helperName _ _ code) signature

/-! ## Fresh compilers -/

theorem new_registry (o : Options) : (new o).registry = {} := by
  unfold new
  split <;> rfl

theorem new_tabled (o : Options) : (new o).Tabled := by
  unfold new
  split <;> exact ⟨rfl, .nil, nofun, rfl⟩

theorem new_registry_sound (o : Options) : (new o).registry.Sound := by
  rw [new_registry]
  exact ⟨.nil, nofun, nofun⟩

theorem new_paired (o : Options) : (new o).Paired := by
  intro d hd
  rw [new_registry]
  unfold new at hd
  split at hd
  · cases hd
    rfl
  · cases hd

theorem new_debugInfo (o : Options) : (new o).debugInfo = o.debugInfo := by
  unfold new
  cases o.debugInfo <;> rfl

theorem Reaches.registry_sound {o : Options} {c : Compiler} (h : Reaches (new o) c) :
    c.registry.Sound :=
  h.induction (fun hmove => hmove.registry_sound) (new_registry_sound o)

theorem Reaches.tabled {o : Options} {c : Compiler} (h : Reaches (new o) c) : c.Tabled :=
  h.induction (fun hmove => hmove.tabled) (new_tabled o)

theorem Reaches.paired {o : Options} {c : Compiler} (h : Reaches (new o) c) : c.Paired :=
  h.induction (fun hmove => hmove.paired) (new_paired o)

theorem Reaches.debugInfo_eq {o : Options} {c : Compiler} (h : Reaches (new o) c) :
    c.debugInfo = o.debugInfo :=
  h.induction (P := fun c => c.debugInfo = o.debugInfo)
    (fun hmove hc => hmove.debugInfo_eq.trans hc) (new_debugInfo o)

end Compiler
end Lowering
end FeltLowering
