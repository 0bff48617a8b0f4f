import FeltLowering.Proofs.Lowering.Invariant
import FeltLowering.Proofs.Text.Normal

/-
Which programs are accepted.

The two loops over declarations have one lemma, `declareEach_ok_iff`: given what the
compiler knows after a list of declarations and when it takes one more, it says when the
whole list is taken.  Types and libfuncs are its two instances, with `Typed` and `Filled`
for what the compiler knows, and the helper in between never fails.
-/
namespace FeltLowering
namespace Lowering

open Ir

theorem Ident.key_eq_iff {i j : Ident} : i.key = j.key ↔ i.id = j.id := by
  constructor
  · intro h
    exact UInt64.toNat_inj.mp (Text.ofNat_injective h)
  · intro h
    rw [Ident.key, Ident.key, h]

theorem Ident.name_ne_nil_iff {i : Ident} : i.name ≠ [] ↔ i.debugName ≠ [] :=
  not_congr (Text.normalize_eq_nil_iff _)

theorem Ident.hasName_iff {i : Ident} : i.hasName = true ↔ i.debugName ≠ [] := by
  unfold Ident.hasName
  cases i.debugName <;> simp

namespace Compiler

/-! ## Lists of declarations -/

section DeclareEach

variable {declare : Compiler → Declaration → Except LowerError Compiler}
  (Inv : List Declaration → Compiler → Prop) (Ok : List Declaration → Declaration → Prop)

theorem declareEach_inv (hline : ∀ {ds c} line, Inv ds c → Inv ds (c.setLine line))
    (hinv : ∀ {ds c d c'}, Inv ds c → declare c d = .ok c' → Inv (ds ++ [d]) c') {line : Nat}
    {earlier rest : List Declaration} {c c' : Compiler} (hc : Inv earlier c)
    (h : declareEach declare line rest c = .ok c') : Inv (earlier ++ rest) c' := by
  induction rest generalizing earlier line c with
  | nil =>
    cases h
    rw [List.append_nil]
    exact hc
  | cons d rest ih =>
    rw [declareEach] at h
    cases hd : declare (c.setLine line) d with
    | error e =>
      rw [hd] at h
      cases h
    | ok mid =>
      rw [hd] at h
      have := ih (hinv (hline line hc) hd) h
      rwa [List.append_assoc] at this

/-- A list is taken exactly if each declaration can follow the ones before it. -/
theorem declareEach_ok_iff (hline : ∀ {ds c} line, Inv ds c → Inv ds (c.setLine line))
    (hstep : ∀ {ds c d}, Inv ds c → ((∃ c', declare c d = .ok c') ↔ Ok ds d))
    (hinv : ∀ {ds c d c'}, Inv ds c → declare c d = .ok c' → Inv (ds ++ [d]) c') {line : Nat}
    {earlier rest : List Declaration} {c : Compiler} (hc : Inv earlier c) :
    (∃ c', declareEach declare line rest c = .ok c') ↔
      ∀ before d after, rest = before ++ d :: after → Ok (earlier ++ before) d := by
  induction rest generalizing earlier line c with
  | nil =>
    refine ⟨fun _ before d after h => ?_, fun _ => ⟨c, rfl⟩⟩
    exact absurd h (by simp)
  | cons d rest ih =>
    have hc' := hline line hc
    constructor
    · rintro ⟨c', h⟩ before e after heq
      rw [declareEach] at h
      cases hd : declare (c.setLine line) d with
      | error err =>
        rw [hd] at h
        cases h
      | ok mid =>
        rw [hd] at h
        cases before with
        | nil =>
          rw [List.nil_append, List.cons.injEq] at heq
          rw [List.append_nil, ← heq.1]
          exact (hstep hc').mp ⟨mid, hd⟩
        | cons b before =>
          rw [List.cons_append, List.cons.injEq] at heq
          have := (ih (hinv hc' hd)).mp ⟨c', h⟩ before e after heq.2
          rwa [heq.1, List.append_assoc] at this
    · intro h
      have hfirst : Ok earlier d := by
        have := h [] d rest rfl
        rwa [List.append_nil] at this
      obtain ⟨mid, hd⟩ := (hstep hc').mpr hfirst
      rw [declareEach, hd]
      refine (ih (hinv hc' hd)).mpr fun before e after heq => ?_
      have := h (d :: before) e after (by rw [heq, List.cons_append])
      rwa [List.append_assoc]

end DeclareEach

/-! ## Types -/

/-- What a compiler knows once it has taken a list of types and nothing else. -/
structure Typed (o : Options) (ds : List Declaration) (c : Compiler) : Prop where
  reaches : Reaches (new o) c
  keys : c.registry.entries.map Slot.key = ds.map fun d => d.id.key
  names : ∀ g, g ∈ c.registry.names.map Prod.fst ↔ ∃ d ∈ ds, d.Names g
  functions : c.module.functions = []
  helper : c.helper = none

/-- A type that can follow others: a new id, a name where debug info asks for one, and a
kind of type there is. -/
def TypeOk (o : Options) (earlier : List Declaration) (d : Declaration) : Prop :=
  (∀ e ∈ earlier, e.id.id ≠ d.id.id) ∧ (o.debugInfo = true → d.id.debugName ≠ []) ∧
    d.TypeAfter earlier

namespace Typed

variable {o : Options} {ds : List Declaration} {c : Compiler}

theorem start (o : Options) : Typed o [] (new o) where
  reaches := .refl
  keys := by rw [new_registry]; rfl
  names := by rw [new_registry]; simp
  functions := by unfold new; split <;> rfl
  helper := by unfold new; split <;> rfl

theorem setLine (h : Typed o ds c) (line : Int) : Typed o ds (c.setLine line) where
  reaches := h.reaches.tail (.line c line)
  keys := h.keys
  names := h.names
  functions := h.functions
  helper := h.helper

theorem key_mem_iff (h : Typed o ds c) (i : Ident) :
    i.key ∈ c.registry.entries.map Slot.key ↔ ∃ e ∈ ds, e.id.id = i.id := by
  rw [h.keys, List.mem_map]
  simp only [Ident.key_eq_iff]

theorem checkType_iff (h : Typed o ds c) (d : Declaration) :
    c.checkType d = .ok () ↔
      (∀ e ∈ ds, e.id.id ≠ d.id.id) ∧ (o.debugInfo = true → d.id.debugName ≠ []) := by
  rw [checkType_eq_ok_iff, Registry.has_eq_false_iff, h.key_mem_iff, h.reaches.debugInfo_eq,
    Ident.hasName_iff]
  simp only [not_exists, not_and, ne_eq]

theorem declareType_ok_iff (h : Typed o ds c) (d : Declaration) :
    (∃ c', c.declareType d = .ok c') ↔ TypeOk o ds d := by
  have hlookup : ∀ inner : Ident,
      (∃ slot, c.registry.lookup? inner.key = some slot) ↔ ∃ e ∈ ds, e.id.id = inner.id := by
    intro inner
    rw [← Option.isSome_iff_exists, Registry.lookup?_isSome_iff, h.key_mem_iff]
  constructor
  · rintro ⟨c', hc'⟩
    obtain ⟨hcheck, hkind⟩ := declareType_eq_ok_iff.mp hc'
    obtain ⟨hfree, hnamed⟩ := (h.checkType_iff d).mp hcheck
    refine ⟨hfree, hnamed, ?_⟩
    rcases hkind with ⟨hfelt, -⟩ | ⟨w, hint, -⟩ | ⟨inner, slot, hwrap, hslot, -⟩
    · exact Or.inl hfelt
    · exact Or.inr (Or.inl ⟨w, hint⟩)
    · exact Or.inr (Or.inr ⟨inner, hwrap, (hlookup inner).mp ⟨slot, hslot⟩⟩)
  · rintro ⟨hfree, hnamed, hkind⟩
    have hcheck := (h.checkType_iff d).mpr ⟨hfree, hnamed⟩
    rcases hkind with hfelt | ⟨w, hint⟩ | ⟨inner, hwrap, he⟩
    · exact ⟨_, declareType_eq_ok_iff.mpr ⟨hcheck, Or.inl ⟨hfelt, rfl⟩⟩⟩
    · exact ⟨_, declareType_eq_ok_iff.mpr ⟨hcheck, Or.inr (Or.inl ⟨w, hint, rfl⟩)⟩⟩
    · obtain ⟨slot, hslot⟩ := (hlookup inner).mpr he
      exact ⟨_, declareType_eq_ok_iff.mpr
        ⟨hcheck, Or.inr (Or.inr ⟨inner, slot, hwrap, hslot, rfl⟩)⟩⟩

theorem declareType (h : Typed o ds c) {d : Declaration} {c' : Compiler}
    (hd : c.declareType d = .ok c') : Typed o (ds ++ [d]) c' := by
  have hexists : ∀ g, (∃ e ∈ ds ++ [d], e.Names g) ↔ (∃ e ∈ ds, e.Names g) ∨ d.Names g := by
    intro g
    simp only [List.mem_append, List.mem_singleton, or_and_right, exists_or, exists_eq_left]
  have hkind := (declareType_eq_ok_iff.mp hd).2
  refine ⟨h.reaches.tail (.type hd), ?_, ?_, ?_, ?_⟩
  · rw [List.map_append, ← h.keys]
    rcases hkind with ⟨-, rfl⟩ | ⟨w, -, rfl⟩ | ⟨inner, slot, -, -, rfl⟩
    · rw [addBuiltin_registry, Registry.entries_addName, Registry.entries_add, List.map_append]
      rfl
    · rw [addBuiltin_registry, Registry.entries_addName, Registry.entries_add, List.map_append]
      rfl
    · rw [aliasType_registry, Registry.entries_add, List.map_append]
      rfl
  · intro g
    rw [hexists, ← h.names]
    rcases hkind with ⟨hfelt, rfl⟩ | ⟨w, hint, rfl⟩ | ⟨inner, slot, hwrap, -, rfl⟩
    · rw [addBuiltin_registry, Registry.names_addName_iff, Registry.names_add, hfelt.names_iff]
    · rw [addBuiltin_registry, Registry.names_addName_iff, Registry.names_add, hint.names_iff]
    · rw [aliasType_registry, Registry.names_add, or_iff_left hwrap.not_names]
  · rw [(declareType_frame hd).1, h.functions]
  · rw [declareType_helper hd, h.helper]

theorem lookupName?_isSome_iff (h : Typed o ds c) (g : Text) :
    (c.registry.lookupName? g).isSome = true ↔ ∃ d ∈ ds, d.Names g := by
  rw [h.reaches.registry_sound.lookupName?_isSome_iff, h.names]

end Typed

/-! ## The helper -/

/-- A function is lowered exactly if its name is free and its body fits, provided that the
slots are those of the registry. -/
theorem lower_ok_iff {c : Compiler} {name : Text} {result : Slot} {params : List Slot}
    {body : Body} (ht : c.Tabled) (hp : c.Paired) (hslots : ∀ s ∈ result :: params, c.registry.Holds s) :
    (∃ done, c.lower name result params body = .ok done) ↔
      params.length = body.arity ∧ name ≠ [] ∧ name ∉ c.module.functions.map Function.name ∧
        body.Complete ∧ ∃ code, body.code result.type.ty (params.map fun p => p.type.ty) = .ok code := by
  constructor
  · rintro ⟨done, hdone⟩
    obtain ⟨signature, code, hcheck, -, hcode, -⟩ := lower_eq_ok_iff.mp hdone
    obtain ⟨harity, hname, hfree, hbody⟩ := checkBody_eq_ok_iff.mp hcheck
    exact ⟨harity, hname, (ht.position?_eq_none_iff name).mp hfree, hbody, code, hcode⟩
  · rintro ⟨harity, hname, hfree, hbody, code, hcode⟩
    obtain ⟨signature, hsig⟩ := hp.debugSignature name hslots
    have hcheck := checkBody_eq_ok_iff.mpr
      ⟨harity, hname, (ht.position?_eq_none_iff name).mpr hfree, hbody⟩
    exact ⟨_, lower_eq_ok_iff.mpr ⟨signature, code, hcheck, hsig, hcode, rfl⟩⟩

theorem lower_functions {c : Compiler} {name : Text} {result : Slot} {params : List Slot}
    {body : Body} {code : Code} {done : Lowered}
    (hcode : body.code result.type.ty (params.map fun p => p.type.ty) = .ok code)
    (h : c.lower name result params body = .ok done) :
    done.compiler.module.functions.map Function.bare = c.module.functions.map Function.bare ++
      [(code.function name result.type.ty (params.map fun p => p.type.ty)).bare] := by
  obtain ⟨signature, code', -, -, hcode', rfl⟩ := lower_eq_ok_iff.mp h
  rw [hcode] at hcode'
  cases hcode'
  rw [install_functions, List.map_append, List.map_singleton, described_bare, buildFunction_eq]

theorem lower_frame {c : Compiler} {name : Text} {result : Slot} {params : List Slot} {body : Body}
    {done : Lowered} (h : c.lower name result params body = .ok done) :
    done.compiler.registry = c.registry ∧ done.compiler.helper = c.helper := by
  obtain ⟨signature, code, -, -, -, rfl⟩ := lower_eq_ok_iff.mp h
  exact ⟨install_registry c _ signature, install_helper c _ signature⟩

/-- What a compiler knows once it has taken the types of a program, the helper and a list
of libfuncs. -/
structure Filled (o : Options) (p : Program) (ds : List Declaration) (c : Compiler) : Prop where
  reaches : Reaches (new o) c
  builtins : ∀ g, (c.registry.lookupName? g).isSome = true ↔ ∃ d ∈ p.typeList, d.Names g
  helper : c.helper = if p.HasFelt then some ⟨0⟩ else none
  functions : ∃ fs, List.Forall₂ Declaration.LowersTo ds fs ∧
    c.module.functions.map Function.bare = (if p.HasFelt then [reduction] else []) ++ fs

theorem Typed.declareHelper {o : Options} {p : Program} {c : Compiler}
    (h : Typed o p.typeList c) (hfelt : p.HasFelt) :
    (∃ r, c.declareHelper.2 = .ok r) ∧ Filled o p [] c.declareHelper.1 := by
  obtain ⟨e, he, hef⟩ := hfelt
  obtain ⟨felt, hslot⟩ := Option.isSome_iff_exists.mp
    ((h.lookupName?_isSome_iff (Text.ofString "felt")).mpr ⟨e, he, Declaration.names_felt_iff.mpr hef⟩)
  obtain ⟨hreach, hwide⟩ := c.wideSlot_reaches
  obtain ⟨hhelper, hfuncs, hnames, -⟩ := c.wideSlot_frame
  have hw := h.reaches.trans hreach
  have hh := h.reaches.trans c.declareHelper_reaches
  have hfeltTy := (h.reaches.registry_sound.builtinTy hslot).felt
  have hwideTy := hw.registry_sound.wide _ hwide
  -- The only parameter is wide and the result a felt, so the body narrows.
  have hcode : Body.reduce.code felt.type.ty ([c.wideSlot.2].map fun s => s.type.ty) =
      .ok (Code.reduce Felt.wideWidth Felt.width) := by
    rw [List.map_singleton, hfeltTy, hwideTy]
    rfl
  have hslots : ∀ s ∈ [felt, c.wideSlot.2], c.wideSlot.1.registry.Holds s := by
    intro s hs
    rcases List.mem_pair.mp hs with rfl | rfl
    · exact Registry.holds_of_lookupName? (lookupName?_wideSlot hslot)
    · exact Registry.holds_of_lookup? hwide
  have hfree : helperName ∉ c.wideSlot.1.module.functions.map Function.name := by
    rw [hfuncs, h.functions]
    exact List.not_mem_nil
  have hname : helperName ≠ [] := by decide
  obtain ⟨done, hdone⟩ : ∃ done,
      c.wideSlot.1.lower helperName felt [c.wideSlot.2] .reduce = .ok done :=
    (lower_ok_iff hw.tabled hw.paired hslots).mpr ⟨rfl, hname, hfree, trivial, _, hcode⟩
  have hout : c.declareHelper =
      ({ done.compiler with helper := some ⟨0⟩ }, .ok (⟨0⟩, some done.toSummary)) := by
    rw [Compiler.declareHelper_eq, h.helper, hslot]
    simp only [hdone, hfuncs, h.functions]
    rfl
  refine ⟨⟨_, by rw [hout]⟩, hh, fun g => ?_, ?_, [], .nil, ?_⟩
  · rw [hh.registry_sound.lookupName?_isSome_iff, hout, ← h.names]
    show g ∈ done.compiler.registry.names.map Prod.fst ↔ _
    rw [(lower_frame hdone).1, hnames]
  · rw [hout, if_pos ⟨e, he, hef⟩]
  · rw [hout, if_pos ⟨e, he, hef⟩]
    show done.compiler.module.functions.map Function.bare = _
    rw [lower_functions hcode hdone, hfuncs, h.functions, List.map_singleton, hfeltTy, hwideTy]
    exact congrArg (fun f => [f]) reduction_bare

/-- The helper never stops a program. -/
theorem Typed.helperIfFelt {o : Options} {p : Program} {c : Compiler}
    (h : Typed o p.typeList c) (line : Nat) :
    ∃ c', c.helperIfFelt line = .ok c' ∧ Filled o p [] c' := by
  have hfelt : (c.registry.lookupName? (Text.ofString "felt")).isSome = true ↔ p.HasFelt := by
    rw [h.lookupName?_isSome_iff]
    simp only [Declaration.names_felt_iff]
    rfl
  unfold Compiler.helperIfFelt
  by_cases hp : p.HasFelt
  · rw [if_pos (hfelt.mpr hp)]
    obtain ⟨⟨r, hr⟩, hfilled⟩ := (h.setLine line).declareHelper hp
    exact ⟨_, by rw [hr]; rfl, hfilled⟩
  · rw [if_neg (fun hs => hp (hfelt.mp hs))]
    refine ⟨c, rfl, h.reaches, h.lookupName?_isSome_iff, ?_, [], .nil, ?_⟩
    · rw [h.helper, if_neg hp]
    · rw [h.functions, if_neg hp]
      rfl

/-! ## Libfuncs -/

/-- A libfunc that can follow others: named, of a kind there is, under a name of its own. -/
def LibfuncOk (p : Program) (earlier : List Declaration) (d : Declaration) : Prop :=
  d.id.debugName ≠ [] ∧ d.LibfuncOver p.typeList ∧ (∀ e ∈ earlier, e.id.name ≠ d.id.name) ∧
    (p.HasFelt → d.id.name ≠ helperName)

theorem Requests.lowersTo {c : Compiler} {d : Declaration} {libfunc : Libfunc} {result : Slot}
    {params : List Slot} {body : Body} (hs : c.registry.Sound)
    (hh : ∀ h, c.helper = some h → h = ⟨0⟩) (hn : libfunc.Named d.genericId)
    (hreq : Requests c d libfunc result params body) :
    params.length = body.arity ∧ body.Complete ∧
      ∃ code, body.code result.type.ty (params.map fun p => p.type.ty) = .ok code ∧
        d.LowersTo (code.function d.id.name result.type.ty (params.map fun p => p.type.ty)) := by
  cases hreq with
  | @const felt v hfelt hlit hrange =>
    have hty := (hs.builtinTy hfelt).felt
    refine ⟨rfl, trivial, ⟨[], .int Felt.width, .const Felt.width (v % Felt.prime)⟩, ?_, ?_⟩
    · rw [hty, Felt.toInt_ofInt]
      rfl
    · rw [hty]
      exact .const ⟨hn, hlit⟩
  | @binary felt op h hfelt hhelper =>
    have hty := (hs.builtinTy hfelt).felt
    refine ⟨rfl, trivial, Code.field op h, ?_, ?_⟩
    · simp only [List.map_cons, List.map_nil, hty]
      rfl
    · simp only [List.map_cons, List.map_nil, hty]
      rw [hh h hhelper]
      exact .field hn
  | @wrappingAdd slot builtin hslot =>
    obtain ⟨w, hw, rfl, hid⟩ := hn
    have hty := (hs.builtinTy hslot).int hw
    refine ⟨rfl, trivial,
      ⟨[.binary "res" .add (.int w) (.param 0) (.param 1)], .int w, .inst 0⟩, ?_, ?_⟩
    · simp only [List.map_cons, List.map_nil, hty]
      exact if_pos rfl
    · simp only [List.map_cons, List.map_nil, hty]
      exact .wrappingAdd ⟨hw, hid⟩

namespace Filled

variable {o : Options} {p : Program} {ds : List Declaration} {c : Compiler}

theorem setLine (h : Filled o p ds c) (line : Int) : Filled o p ds (c.setLine line) where
  reaches := h.reaches.tail (.line c line)
  builtins := h.builtins
  helper := h.helper
  functions := h.functions

theorem helper_eq (h : Filled o p ds c) (hlp : Helper) (hs : c.helper = some hlp) : hlp = ⟨0⟩ := by
  rw [h.helper] at hs
  split at hs
  · cases hs
    rfl
  · cases hs

theorem felt_iff (h : Filled o p ds c) :
    (∃ felt, c.registry.lookupName? (Text.ofString "felt") = some felt) ↔ p.HasFelt := by
  rw [← Option.isSome_iff_exists, h.builtins]
  simp only [Declaration.names_felt_iff]
  rfl

theorem int_iff (h : Filled o p ds c) {w : Nat} (hw : w ∈ intWidths) :
    (∃ slot, c.registry.lookupName? (intName w) = some slot) ↔ ∃ e ∈ p.typeList, e.IsInt w := by
  rw [← Option.isSome_iff_exists, h.builtins]
  simp only [Declaration.names_intName_iff hw]

/-- A libfunc finds what it asks for exactly if its type is among those of the program. -/
theorem requests_iff (h : Filled o p ds c) (d : Declaration) :
    (∃ libfunc result params body, Libfunc.Named d.genericId libfunc ∧
      Requests c d libfunc result params body) ↔ d.LibfuncOver p.typeList := by
  constructor
  · rintro ⟨libfunc, result, params, body, hn, hreq⟩
    cases hreq with
    | const hfelt hlit hrange =>
      exact Or.inl ⟨h.felt_iff.mp ⟨_, hfelt⟩, Or.inl ⟨_, ⟨hn, hlit⟩, hrange⟩⟩
    | @binary felt op hlp hfelt hhelper =>
      exact Or.inl ⟨h.felt_iff.mp ⟨_, hfelt⟩, Or.inr ⟨op, hn⟩⟩
    | wrappingAdd hslot =>
      obtain ⟨w, hw, rfl, hid⟩ := hn
      exact Or.inr ⟨w, ⟨hw, hid⟩, (h.int_iff hw).mp ⟨_, hslot⟩⟩
  · rintro (⟨hp, hkind⟩ | ⟨w, ⟨hw, hid⟩, he⟩)
    · obtain ⟨felt, hfelt⟩ := h.felt_iff.mpr hp
      have hhelper : c.helper = some ⟨0⟩ := h.helper.trans (if_pos hp)
      rcases hkind with ⟨v, ⟨hn, hlit⟩, hrange⟩ | ⟨op, hn⟩
      · exact ⟨.feltConst, felt, [], _, hn, .const hfelt hlit hrange⟩
      · exact ⟨.feltBinary op, felt, [felt, felt], _, hn, .binary hfelt hhelper⟩
    · obtain ⟨slot, hslot⟩ := (h.int_iff hw).mpr he
      exact ⟨.wrappingAdd (intName w), slot, [slot, slot], _, ⟨w, hw, rfl, hid⟩, .wrappingAdd hslot⟩

theorem names_eq (h : Filled o p ds c) :
    c.module.functions.map Function.name =
      (if p.HasFelt then [helperName] else []) ++ ds.map fun d => d.id.name := by
  obtain ⟨fs, hfs, hfuncs⟩ := h.functions
  have hbare : c.module.functions.map Function.name =
      (c.module.functions.map Function.bare).map Function.name := by
    rw [List.map_map]
    rfl
  rw [hbare, hfuncs, List.map_append, names_of_forall₂ hfs]
  by_cases hp : p.HasFelt
  · rw [if_pos hp, if_pos hp]
    rfl
  · rw [if_neg hp, if_neg hp]
    rfl

theorem mem_names_iff (h : Filled o p ds c) (name : Text) :
    name ∈ c.module.functions.map Function.name ↔
      (∃ e ∈ ds, e.id.name = name) ∨ (p.HasFelt ∧ name = helperName) := by
  rw [h.names_eq, List.mem_append, or_comm]
  refine or_congr List.mem_map ?_
  by_cases hp : p.HasFelt
  · rw [if_pos hp, List.mem_singleton]
    exact (and_iff_right hp).symm
  · rw [if_neg hp]
    exact ⟨fun hm => absurd hm List.not_mem_nil, fun hm => absurd hm.1 hp⟩

theorem addFunction_ok_iff (h : Filled o p ds c) (d : Declaration) :
    (∃ c', c.addFunction d = .ok c') ↔ LibfuncOk p ds d := by
  have hfree : d.id.name ∉ c.module.functions.map Function.name ↔
      (∀ e ∈ ds, e.id.name ≠ d.id.name) ∧ (p.HasFelt → d.id.name ≠ helperName) := by
    rw [h.mem_names_iff, not_or, not_and]
    simp only [not_exists, not_and, ne_eq]
  constructor
  · rintro ⟨c', hc'⟩
    obtain ⟨done, hdone, -⟩ := addFunction_eq_ok_iff.mp hc'
    obtain ⟨libfunc, hn, hcall⟩ := declareLibfunc_eq_ok_iff.mp hdone
    obtain ⟨hnamed, result, params, body, hreq, hlower⟩ := callLibfunc_eq_ok_iff.mp hcall
    obtain ⟨-, -, hname, -⟩ :=
      (lower_ok_iff h.reaches.tabled h.reaches.paired hreq.uses.1).mp ⟨done, hlower⟩
    exact ⟨Ident.hasName_iff.mp hnamed,
      (h.requests_iff d).mp ⟨libfunc, result, params, body, hn, hreq⟩, hfree.mp hname⟩
  · rintro ⟨hnamed, hover, hname⟩
    obtain ⟨libfunc, result, params, body, hn, hreq⟩ := (h.requests_iff d).mpr hover
    obtain ⟨harity, hbody, code, hcode, -⟩ :=
      hreq.lowersTo h.reaches.registry_sound h.helper_eq hn
    obtain ⟨done, hlower⟩ := (lower_ok_iff h.reaches.tabled h.reaches.paired hreq.uses.1).mpr
      ⟨harity, Ident.name_ne_nil_iff.mpr hnamed, hfree.mpr hname, hbody, code, hcode⟩
    have hcall := callLibfunc_eq_ok_iff.mpr
      ⟨Ident.hasName_iff.mpr hnamed, result, params, body, hreq, hlower⟩
    have hdone := declareLibfunc_eq_ok_iff.mpr ⟨libfunc, hn, hcall⟩
    exact ⟨done.compiler, addFunction_eq_ok_iff.mpr ⟨done, hdone, rfl⟩⟩

theorem addFunction (h : Filled o p ds c) {d : Declaration} {c' : Compiler}
    (hd : c.addFunction d = .ok c') : Filled o p (ds ++ [d]) c' := by
  obtain ⟨done, hdone, rfl⟩ := addFunction_eq_ok_iff.mp hd
  obtain ⟨libfunc, hn, hcall⟩ := declareLibfunc_eq_ok_iff.mp hdone
  obtain ⟨-, result, params, body, hreq, hlower⟩ := callLibfunc_eq_ok_iff.mp hcall
  obtain ⟨-, -, code, hcode, hlow⟩ := hreq.lowersTo h.reaches.registry_sound h.helper_eq hn
  obtain ⟨hreg, hhelper⟩ := lower_frame hlower
  obtain ⟨fs, hfs, hfuncs⟩ := h.functions
  have happend := List.rel_append hfs (.cons hlow .nil)
  refine ⟨h.reaches.tail (declareLibfunc_move hdone), ?_, ?_, _, happend, ?_⟩
  · rw [hreg]
    exact h.builtins
  · rw [hhelper]
    exact h.helper
  · rw [lower_functions hcode hlower, hfuncs, hlow.bare, List.append_assoc]

end Filled

/-! ## Programs -/

theorem lowerDecls_eq_ok_iff {c c' : Compiler} {p : Program} :
    c.lowerDecls p = .ok c' ↔ ∃ typed helped,
      declareEach declareType 1 p.typeList c = .ok typed ∧
        typed.helperIfFelt (p.typeList.length + 1) = .ok helped ∧
        declareEach addFunction (p.typeList.length + 1) p.libfuncList helped = .ok c' := by
  unfold lowerDecls
  cases declareEach declareType 1 p.typeList c with
  | error e => simp
  | ok typed =>
    cases hh : typed.helperIfFelt (p.typeList.length + 1) with
    | error e => simp [hh]
    | ok helped => simp [hh]

theorem typed_of_declareEach {o : Options} {ds : List Declaration} {line : Nat} {c : Compiler}
    (h : declareEach declareType line ds (new o) = .ok c) : Typed o ds c :=
  declareEach_inv (Typed o) (fun line h => h.setLine line) (fun h hd => h.declareType hd)
    (Typed.start o) h

theorem declareTypes_ok_iff (o : Options) (line : Nat) (ds : List Declaration) :
    (∃ c, declareEach declareType line ds (new o) = .ok c) ↔
      ∀ before d after, ds = before ++ d :: after → TypeOk o before d :=
  declareEach_ok_iff (Typed o) (TypeOk o) (fun line h => h.setLine line)
    (fun h => h.declareType_ok_iff _) (fun h hd => h.declareType hd) (Typed.start o)

theorem Filled.addFunctions_ok_iff {o : Options} {p : Program} {c : Compiler}
    (h : Filled o p [] c) (line : Nat) (ds : List Declaration) :
    (∃ c', declareEach Compiler.addFunction line ds c = .ok c') ↔
      ∀ before d after, ds = before ++ d :: after → LibfuncOk p before d :=
  declareEach_ok_iff (Filled o p) (LibfuncOk p) (fun line h => h.setLine line)
    (fun h => h.addFunction_ok_iff _) (fun h hd => h.addFunction hd) h

theorem filled_of_helperIfFelt {o : Options} {p : Program} {line : Nat} {typed helped : Compiler}
    (htyped : Typed o p.typeList typed) (h : typed.helperIfFelt line = .ok helped) :
    Filled o p [] helped := by
  obtain ⟨c, hc, hfilled⟩ := htyped.helperIfFelt line
  rw [h] at hc
  cases hc
  exact hfilled

/-- A program that is lowered leaves a compiler that knows all of it. -/
theorem filled_of_lowerDecls {o : Options} {p : Program} {c : Compiler}
    (h : (new o).lowerDecls p = .ok c) : Filled o p p.libfuncList c := by
  obtain ⟨typed, helped, htyped, hhelped, hc⟩ := lowerDecls_eq_ok_iff.mp h
  have hfilled : Filled o p [] helped :=
    filled_of_helperIfFelt (typed_of_declareEach htyped) hhelped
  exact declareEach_inv (Filled o p) (fun line h => h.setLine line) (fun h hd => h.addFunction hd)
    hfilled hc

/-- A program is lowered exactly if each declaration can follow the ones before it. -/
theorem lowerDecls_ok_iff (o : Options) (p : Program) :
    (∃ c, (new o).lowerDecls p = .ok c) ↔
      (∀ before d after, p.typeList = before ++ d :: after → TypeOk o before d) ∧
        ∀ before d after, p.libfuncList = before ++ d :: after → LibfuncOk p before d := by
  constructor
  · rintro ⟨c, h⟩
    obtain ⟨typed, helped, htyped, hhelped, hc⟩ := lowerDecls_eq_ok_iff.mp h
    have hfilled : Filled o p [] helped :=
      filled_of_helperIfFelt (typed_of_declareEach htyped) hhelped
    exact ⟨(declareTypes_ok_iff o 1 _).mp ⟨typed, htyped⟩,
      (hfilled.addFunctions_ok_iff _ _).mp ⟨c, hc⟩⟩
  · rintro ⟨htypes, hlibfuncs⟩
    obtain ⟨typed, htyped⟩ := (declareTypes_ok_iff o 1 _).mpr htypes
    obtain ⟨helped, hhelped, hfilled⟩ :=
      (typed_of_declareEach htyped).helperIfFelt (p.typeList.length + 1)
    obtain ⟨c, hc⟩ := (hfilled.addFunctions_ok_iff (p.typeList.length + 1) _).mpr hlibfuncs
    exact ⟨c, lowerDecls_eq_ok_iff.mpr ⟨typed, helped, htyped, hhelped, hc⟩⟩

end Compiler

theorem nodup_map_iff_split {α β : Type} (f : α → β) (l : List α) :
    (l.map f).Nodup ↔ ∀ before a after, l = before ++ a :: after → ∀ e ∈ before, f e ≠ f a := by
  induction l with
  | nil =>
    refine ⟨fun _ before a after h => ?_, fun _ => .nil⟩
    exact absurd h (by simp)
  | cons x l ih =>
    rw [List.map_cons, List.nodup_cons, ih]
    constructor
    · rintro ⟨hx, hl⟩ before a after h e he
      cases before with
      | nil => exact absurd he List.not_mem_nil
      | cons b before =>
        rw [List.cons_append, List.cons.injEq] at h
        obtain ⟨rfl, rfl⟩ := h
        rcases List.mem_cons.mp he with rfl | he
        · intro heq
          exact hx (heq ▸ List.mem_map_of_mem (by simp))
        · exact hl before a after rfl e he
    · intro h
      refine ⟨fun hx => ?_, fun before a after hl e he => ?_⟩
      · obtain ⟨a, ha, heq⟩ := List.mem_map.mp hx
        obtain ⟨before, after, rfl⟩ := List.append_of_mem ha
        exact h (x :: before) a after rfl x List.mem_cons_self heq.symm
      · exact h (x :: before) a after (by rw [hl, List.cons_append]) e (List.mem_cons_of_mem x he)

theorem accepted_iff (o : Options) (p : Program) :
    p.Accepted o.debugInfo ↔
      (∀ before d after, p.typeList = before ++ d :: after → Compiler.TypeOk o before d) ∧
        ∀ before d after, p.libfuncList = before ++ d :: after → Compiler.LibfuncOk p before d := by
  constructor
  · rintro ⟨hids, htypes, hnamed, hlibfuncs, hnames, hhelper⟩
    refine ⟨fun before d after h => ?_, fun before d after h => ?_⟩
    · have hd : d ∈ p.typeList := by rw [h]; simp
      exact ⟨(nodup_map_iff_split _ _).mp hids before d after h, fun ho => hnamed ho d hd,
        htypes before d after h⟩
    · have hd : d ∈ p.libfuncList := by rw [h]; simp
      exact ⟨(hlibfuncs d hd).1, (hlibfuncs d hd).2,
        (nodup_map_iff_split _ _).mp hnames before d after h, fun hp => hhelper hp d hd⟩
  · rintro ⟨htypes, hlibfuncs⟩
    refine ⟨?_, fun before d after h => (htypes before d after h).2.2, fun ho d hd => ?_,
      fun d hd => ?_, ?_, fun hp d hd => ?_⟩
    · exact (nodup_map_iff_split _ _).mpr fun before d after h => (htypes before d after h).1
    · obtain ⟨before, after, h⟩ := List.append_of_mem hd
      exact (htypes before d after h).2.1 ho
    · obtain ⟨before, after, h⟩ := List.append_of_mem hd
      exact ⟨(hlibfuncs before d after h).1, (hlibfuncs before d after h).2.1⟩
    · exact (nodup_map_iff_split _ _).mpr fun before d after h => (hlibfuncs before d after h).2.2.1
    · obtain ⟨before, after, h⟩ := List.append_of_mem hd
      exact (hlibfuncs before d after h).2.2.2 hp

/-- A lowering that is not canceled succeeds exactly on the accepted programs.  The module
then lists the functions of the program, each found under its name. -/
theorem lowerProgram_ok_iff_accepted (span : Nat) (journal : Trace.Journal) (p : Program)
    (o : Options) :
    ((∃ c, (lowerProgram { span } journal p o).2 = .ok c) ↔ p.Accepted o.debugInfo) ∧
      ∀ c, (lowerProgram { span } journal p o).2 = .ok c →
        p.LowersTo (c.module.listed.map Function.bare) ∧
          ∀ name, c.func? name = c.module.listed.find? fun f => decide (f.name = name) := by
  rw [lowerProgram_eq]
  refine ⟨(Compiler.lowerDecls_ok_iff o p).trans (accepted_iff o p).symm, fun c hc => ?_⟩
  have hfilled := Compiler.filled_of_lowerDecls hc
  have htabled := hfilled.reaches.tabled
  rw [htabled.listed_eq]
  exact ⟨hfilled.functions, htabled.func?_eq⟩

def minusFive : Declaration := ⟨⟨0, "minusFive"⟩, "felt_const", some [{ value := some " -5 " }]⟩

def times : Declaration := ⟨⟨1, "times"⟩, "felt252_mul", none⟩

def plus : Declaration := ⟨⟨2, "plus"⟩, "u8_wrapping_add", none⟩

/-- A program with a wrapper and with one libfunc of each kind. -/
def mixedProgram : Program where
  types := some
    [⟨⟨0, "felt"⟩, "felt", none⟩, ⟨⟨7, "u8"⟩, "u8", none⟩,
      ⟨⟨3, "NonZero"⟩, "NonZero", some [{ type := some ⟨0, []⟩ }]⟩]
  libfuncs := some [minusFive, times, plus]

theorem mixedProgram_lowers :
    ∃ c, (lowerProgram {} {} mixedProgram { debugInfo := true }).2 = .ok c := by
  have hok : (lowerProgram {} {} mixedProgram { debugInfo := true }).2.isOk = true := by
    decide +kernel
  cases hr : (lowerProgram {} {} mixedProgram { debugInfo := true }).2 with
  | error e =>
    rw [hr] at hok
    cases hok
  | ok c => exact ⟨c, rfl⟩

theorem lowerProgram_mixedProgram :
    ∃ c, (lowerProgram {} {} mixedProgram { debugInfo := true }).2 = .ok c ∧
      mixedProgram.Accepted true ∧ mixedProgram.LowersTo (c.module.listed.map Function.bare) := by
  obtain ⟨c, hc⟩ := mixedProgram_lowers
  obtain ⟨hiff, hall⟩ := lowerProgram_ok_iff_accepted 0 {} mixedProgram { debugInfo := true }
  exact ⟨c, hc, hiff.mp ⟨c, hc⟩, (hall c hc).1⟩

end Lowering
end FeltLowering
