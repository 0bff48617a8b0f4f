import FeltLowering.Proofs.Lowering.Acceptance
import FeltLowering.Proofs.Lowering.Failure

/-
The registry through a sequence of calls.

Two facts are carried along.  Entries, names and functions are only ever appended
(`Compiler.Grows`), so an answer that the registry has given once it gives forever.  And
the registry is a record of the types whose declaration succeeded, in their order
(`Registry.Lists`): each has an entry under its number, a builtin leads to the first
declaration of it, and a wrapper has the handle of an earlier type.  Following wrappers
inwards therefore goes down in the order of declaration and ends at a scalar, whose handle
every wrapper on the way shares.

The helper is the only other call that enters a type.  Its key starts with a mark that no
number has, which is why it shows in no list of keys.
-/
namespace FeltLowering

namespace Declaration

instance (d : Declaration) (g : Text) : Decidable (d.Names g) :=
  decidable_of_iff
    ((g = Text.ofString "felt" ∧ d.IsFelt) ∨
      ∃ w ∈ intWidths, g = intName w ∧ d.genericId = intName w)
    (or_congr_right ⟨fun ⟨w, hw, hg, hid⟩ => ⟨w, hg, hw, hid⟩,
      fun ⟨w, hg, hw, hid⟩ => ⟨w, hw, hg, hid⟩⟩)

theorem Names.iff_eq {d : Declaration} {g : Text} (h : d.Names g) (g' : Text) : d.Names g' ↔ g' = g := by
  rcases h with ⟨rfl, hfelt⟩ | ⟨w, rfl, hint⟩
  · exact hfelt.names_iff
  · exact hint.names_iff

theorem Wraps.unique {d : Declaration} {inner inner' : Ident} (h : d.Wraps inner)
    (h' : d.Wraps inner') : inner = inner' := by
  obtain ⟨-, arg, hargs, -, htype⟩ := h
  obtain ⟨-, arg', hargs', -, htype'⟩ := h'
  rw [hargs, List.cons.injEq] at hargs'
  obtain ⟨rfl, -⟩ := hargs'
  exact Option.some.inj (htype.symm.trans htype')

end Declaration

namespace Lowering

open Ir

/-! ## Growth -/

namespace Registry

theorem names_prefix_addName (r : Registry) (generic key : Text) :
    r.names <+: (r.addName generic key).names := by
  unfold addName
  split
  · exact List.prefix_rfl
  · exact List.prefix_append _ _

end Registry

namespace Compiler

/-- Whatever one compiler has, the other has in the same place. -/
structure Grows (c c' : Compiler) : Prop where
  entries : c.registry.entries <+: c'.registry.entries
  names : c.registry.names <+: c'.registry.names
  functions : c.module.functions <+: c'.module.functions

namespace Grows

variable {a b c : Compiler}

theorem of_eq (hr : b.registry = a.registry) (hf : a.module.functions <+: b.module.functions) :
    a.Grows b :=
  ⟨hr ▸ List.prefix_rfl, hr ▸ List.prefix_rfl, hf⟩

theorem trans (h : a.Grows b) (h' : b.Grows c) : a.Grows c :=
  ⟨h.entries.trans h'.entries, h.names.trans h'.names, h.functions.trans h'.functions⟩

theorem lookup? (h : a.Grows b) {key : Text} {s : Slot} (hs : a.registry.lookup? key = some s) :
    b.registry.lookup? key = some s :=
  h.entries.find?_eq_some hs

theorem lookupName? (h : a.Grows b) {g : Text} {s : Slot}
    (hs : a.registry.lookupName? g = some s) : b.registry.lookupName? g = some s := by
  unfold Registry.lookupName? at hs ⊢
  obtain ⟨n, hn, hs⟩ := Option.bind_eq_some_iff.mp hs
  rw [h.names.find?_eq_some hn, Option.bind_some]
  exact h.lookup? hs

theorem keys (h : a.Grows b) : a.registry.keys <+: b.registry.keys :=
  (h.entries.map Slot.key).filter _

end Grows

/-- A declared type is entered under its number: a scalar with a handle of its builtin, which
it may be the first of, and a wrapper with the handle of the type it wraps. -/
theorem declareType_registry {c c' : Compiler} {d : Declaration} (h : c.declareType d = .ok c') :
    c.registry.has d.id.key = false ∧
      ((∃ g type, d.Names g ∧ BuiltinTy g type.ty ∧
          c'.registry = (c.registry.add d.id.key type).addName g d.id.key) ∨
        ∃ inner slot, d.Wraps inner ∧ c.registry.lookup? inner.key = some slot ∧
          c'.registry = c.registry.add d.id.key slot.type) := by
  obtain ⟨hcheck, hkind⟩ := declareType_eq_ok_iff.mp h
  refine ⟨(checkType_eq_ok_iff.mp hcheck).1, ?_⟩
  rcases hkind with ⟨hfelt, rfl⟩ | ⟨w, hint, rfl⟩ | ⟨inner, slot, hwrap, hslot, rfl⟩
  · exact Or.inl ⟨_, _, Or.inl ⟨rfl, hfelt⟩, Or.inl ⟨rfl, rfl⟩, addBuiltin_registry _ _ _ _⟩
  · exact Or.inl ⟨_, _, Or.inr ⟨w, rfl, hint⟩, Or.inr ⟨w, hint.1, rfl, rfl⟩,
      addBuiltin_registry _ _ _ _⟩
  · exact Or.inr ⟨inner, slot, hwrap, hslot, aliasType_registry _ _ _ _⟩

theorem lower_grows {c : Compiler} {name : Text} {result : Slot} {params : List Slot} {body : Body}
    {done : Lowered} (h : c.lower name result params body = .ok done) : c.Grows done.compiler := by
  refine .of_eq (lower_frame h).1 ?_
  obtain ⟨signature, code, -, -, -, rfl⟩ := lower_eq_ok_iff.mp h
  rw [install_functions]
  exact List.prefix_append _ _

theorem Move.grows {c c' : Compiler} (h : Move c c') : c.Grows c' := by
  cases h with
  | line line => exact .of_eq rfl List.prefix_rfl
  | type h =>
    have hfunctions : c.module.functions <+: c'.module.functions :=
      (declareType_frame h).1 ▸ List.prefix_rfl
    rcases (declareType_registry h).2 with ⟨g, type, -, -, hr⟩ | ⟨inner, slot, -, -, hr⟩
    · refine ⟨?_, ?_, hfunctions⟩
      · rw [hr, Registry.entries_addName, Registry.entries_add]
        exact List.prefix_append _ _
      · rw [hr]
        exact (c.registry.add _ type).names_prefix_addName _ _
    · refine ⟨?_, ?_, hfunctions⟩
      · rw [hr, Registry.entries_add]
        exact List.prefix_append _ _
      · rw [hr]
        exact List.prefix_rfl
  | wide h =>
    refine ⟨?_, ?_, (c.insertType_frame _ _ _).1 ▸ List.prefix_rfl⟩
    · rw [insertType_registry, Registry.entries_add]
      exact List.prefix_append _ _
    · rw [insertType_registry]
      exact List.prefix_rfl
  | function _ _ h => exact lower_grows h
  | helper _ _ _ h =>
    obtain ⟨hentries, hnames, hfunctions⟩ := lower_grows h
    exact ⟨hentries, hnames, hfunctions⟩

end Compiler

theorem Session.serveAll_grows (s : Session) (requests : List Request) :
    s.compiler.Grows (s.serveAll requests).compiler :=
  serveAll_preserves (P := fun c => s.compiler.Grows c) (fun hmove h => h.trans hmove.grows)
    (fun hdone h => h.trans (Compiler.lower_grows hdone)) requests (.of_eq rfl List.prefix_rfl)

/-! ## The record of declared types -/

/-- A number does not start with the mark of internal keys. -/
theorem Ident.key_head?_ne (i : Ident) : i.key.head? ≠ some internalMark := by
  intro h
  have hd := (Text.ofNat_digits i.id.toNat).2 internalMark (List.mem_of_mem_head? h)
  exact absurd hd (by decide)

namespace Registry

theorem keys_add {r : Registry} {key : Text} (h : key.head? ≠ some internalMark) (type : Handle) :
    (r.add key type).keys = r.keys ++ [key] := by
  unfold keys
  rw [entries_add, List.map_append, List.filter_append, List.map_singleton,
    List.filter_cons_of_pos (by simp [h]), List.filter_nil]

theorem keys_add_internal {r : Registry} {key : Text} (h : key.head? = some internalMark)
    (type : Handle) : (r.add key type).keys = r.keys := by
  unfold keys
  rw [entries_add, List.map_append, List.filter_append, List.map_singleton,
    List.filter_cons_of_neg (by simp [h]), List.filter_nil, List.append_nil]

def firstKey? (r : Registry) (g : Text) : Option Text := (r.names.find? (·.1 = g)).map Prod.snd

theorem lookupName?_eq (r : Registry) (g : Text) :
    r.lookupName? g = (r.firstKey? g).bind r.lookup? := by
  unfold lookupName? firstKey?
  rw [Option.bind_map]
  rfl

theorem firstKey?_addName (r : Registry) (g key g' : Text) :
    (r.addName g key).firstKey? g' = (r.firstKey? g').or (if g' = g then some key else none) := by
  unfold addName
  by_cases hany : r.names.any (fun n => decide (n.1 = g)) = true
  · rw [if_pos hany]
    by_cases hg : g' = g
    · have hsome : (r.firstKey? g).isSome = true := by
        rw [firstKey?, Option.isSome_map, List.find?_isSome]
        exact List.any_eq_true.mp hany
      rw [hg, if_pos rfl, Option.or_of_isSome hsome]
    · rw [if_neg hg, Option.or_none]
  · rw [if_neg hany]
    unfold firstKey?
    rw [List.find?_append, Option.map_or, List.find?_singleton]
    by_cases hg : g' = g
    · simp [hg]
    · simp [hg, Ne.symm hg]

/-- The handle of the declaration at a position comes from its builtin, or from the earlier
type it wraps. -/
def Explains (r : Registry) (ds : List Declaration) (i : Nat) (d : Declaration) (type : Handle) : Prop :=
  (∃ g, d.Names g ∧ BuiltinTy g type.ty) ∨
    ∃ (inner : Ident) (j : Nat) (e : Declaration), d.Wraps inner ∧ j < i ∧ ds[j]? = some e ∧
      e.id.id = inner.id ∧ r.lookup? e.id.key = some ⟨e.id.key, type⟩

theorem Explains.mono {r r' : Registry} {ds : List Declaration} {i : Nat} {d : Declaration}
    {type : Handle} (h : r.Explains ds i d type)
    (hkeep : ∀ k s, r.lookup? k = some s → r'.lookup? k = some s) (more : List Declaration) :
    r'.Explains (ds ++ more) i d type := by
  refine h.imp_right ?_
  rintro ⟨inner, j, e, hwrap, hlt, he, hid, hsame⟩
  have hj : j < ds.length := (List.getElem?_eq_some_iff.mp he).1
  exact ⟨inner, j, e, hwrap, hlt, by rw [List.getElem?_append_left hj, he], hid, hkeep _ _ hsame⟩

/-- The registry holds the given types, in their order. -/
structure Lists (r : Registry) (ds : List Declaration) : Prop where
  nodup : (r.entries.map Slot.key).Nodup
  keys : r.keys = ds.map fun d => d.id.key
  first : ∀ g, r.firstKey? g = (ds.find? fun d => d.Names g).map fun d => d.id.key
  types : ∀ (i : Nat) (d : Declaration), ds[i]? = some d →
    ∃ type, r.lookup? d.id.key = some ⟨d.id.key, type⟩ ∧ r.Explains ds i d type

namespace Lists

variable {r r' : Registry} {ds : List Declaration}

theorem empty : ({} : Registry).Lists [] where
  nodup := .nil
  keys := rfl
  first := fun _ => rfl
  types := nofun

theorem internal (h : r.Lists ds) {key : Text} (hmark : key.head? = some internalMark)
    (hfree : r.has key = false) (type : Handle) : (r.add key type).Lists ds where
  nodup := by
    rw [entries_add]
    exact nodup_map_append_singleton h.nodup (has_eq_false_iff.mp hfree)
  keys := by
    rw [keys_add_internal hmark, h.keys]
  first := h.first
  types := by
    intro i d hd
    obtain ⟨type', hlookup, hexplains⟩ := h.types i d hd
    have hexplains' := hexplains.mono (fun _ _ hs => lookup?_add_of_some hs key type) []
    rw [List.append_nil] at hexplains'
    exact ⟨type', lookup?_add_of_some hlookup key type, hexplains'⟩

/-- One more type.  A name that it may get does not change the entries. -/
theorem append (h : r.Lists ds) {d : Declaration} {type : Handle} (hfree : r.has d.id.key = false)
    (hexplains : r.Explains ds ds.length d type)
    (hentries : r'.entries = (r.add d.id.key type).entries)
    (hfirst : ∀ g, r'.firstKey? g = (r.firstKey? g).or (if d.Names g then some d.id.key else none)) :
    r'.Lists (ds ++ [d]) := by
  have hlookup : ∀ k, r'.lookup? k = (r.add d.id.key type).lookup? k := by
    intro k
    unfold lookup?
    rw [hentries]
  have hkeep : ∀ k s, r.lookup? k = some s → r'.lookup? k = some s := by
    intro k s hs
    rw [hlookup]
    exact lookup?_add_of_some hs _ _
  refine ⟨?_, ?_, ?_, ?_⟩
  · rw [hentries, entries_add]
    exact nodup_map_append_singleton h.nodup (has_eq_false_iff.mp hfree)
  · have hkeys : r'.keys = (r.add d.id.key type).keys := by
      unfold Registry.keys
      rw [hentries]
    rw [hkeys, keys_add (Ident.key_head?_ne d.id), h.keys, List.map_append, List.map_singleton]
  · intro g
    rw [hfirst, h.first, List.find?_append, Option.map_or, List.find?_singleton]
    by_cases hg : d.Names g
    · simp [hg]
    · simp [hg]
  · intro i e he
    by_cases hi : i < ds.length
    · rw [List.getElem?_append_left hi] at he
      obtain ⟨type', hlookup', hexplains'⟩ := h.types i e he
      exact ⟨type', hkeep _ _ hlookup', hexplains'.mono hkeep [d]⟩
    · have hlen : i < (ds ++ [d]).length := (List.getElem?_eq_some_iff.mp he).1
      obtain rfl : i = ds.length := by
        rw [List.length_append, List.length_singleton] at hlen
        omega
      rw [List.getElem?_concat_length] at he
      cases he
      refine ⟨type, ?_, hexplains.mono hkeep [d]⟩
      rw [hlookup]
      exact lookup?_add_self hfree type

theorem exists_of_lookup? (h : r.Lists ds) {i : Ident} {s : Slot} (hs : r.lookup? i.key = some s) :
    ∃ (j : Nat) (e : Declaration), ds[j]? = some e ∧ e.id.id = i.id ∧
      r.lookup? e.id.key = some ⟨e.id.key, s.type⟩ := by
  obtain ⟨hmem, hkey⟩ := mem_of_lookup? hs
  have hkeys : i.key ∈ r.keys :=
    List.mem_filter.mpr ⟨hkey ▸ List.mem_map_of_mem hmem, decide_eq_true (Ident.key_head?_ne i)⟩
  rw [h.keys] at hkeys
  obtain ⟨e, he, hid⟩ := List.mem_map.mp hkeys
  obtain ⟨j, hj⟩ := List.mem_iff_getElem?.mp he
  refine ⟨j, e, hj, Ident.key_eq_iff.mp hid, ?_⟩
  rw [hid, hs, ← hkey]

end Lists
end Registry

theorem Compiler.declareType_lists {c c' : Compiler} {ds : List Declaration} {d : Declaration}
    (hc : c.registry.Lists ds) (h : c.declareType d = .ok c') : c'.registry.Lists (ds ++ [d]) := by
  obtain ⟨hfree, ⟨g, type, hg, hty, hr⟩ | ⟨inner, slot, hwrap, hslot, hr⟩⟩ := declareType_registry h
  · refine hc.append hfree (Or.inl ⟨g, hg, hty⟩) ?_ fun g' => ?_
    · rw [hr, Registry.entries_addName]
    · rw [hr, Registry.firstKey?_addName]
      simp only [hg.iff_eq g']
      rfl
  · obtain ⟨j, e, he, hid, hsame⟩ := hc.exists_of_lookup? hslot
    have hj : j < ds.length := (List.getElem?_eq_some_iff.mp he).1
    refine hc.append hfree (Or.inr ⟨inner, j, e, hwrap, hj, he, hid, hsame⟩) ?_ fun g' => ?_
    · rw [hr]
    · rw [hr, if_neg hwrap.not_names, Option.or_none]
      rfl

/-! ## One call, and every sequence of calls -/

namespace Session

/-- The type that a call declares, if it succeeds. -/
def declares (s : Session) : Request → List Declaration
  | .operation (.declareType d) =>
    if (s.answer (.operation (.declareType d))).isOk then [d] else []
  | _ => []

/-- The types whose declaration succeeds in its turn. -/
def declared : Session → List Request → List Declaration
  | _, [] => []
  | s, request :: rest => s.declares request ++ (s.serve request).declared rest

end Session

/-- The helper enters its wide type, unless it is there already. -/
theorem Compiler.declareHelper_registry (c : Compiler) :
    c.declareHelper.1.registry = c.registry ∨
      (c.registry.has wideKey = false ∧
        ∃ type, c.declareHelper.1.registry = c.registry.add wideKey type) := by
  have hwide : c.wideSlot.1.registry = c.registry ∨
      (c.registry.has wideKey = false ∧
        ∃ type, c.wideSlot.1.registry = c.registry.add wideKey type) := by
    unfold wideSlot
    cases h : c.registry.lookup? wideKey with
    | some slot => exact Or.inl rfl
    | none =>
      refine Or.inr ⟨?_, _, insertType_registry _ _ _ _⟩
      exact Registry.has_eq_false_iff.mpr (Registry.lookup?_eq_none_iff.mp h)
  rw [declareHelper_eq]
  cases c.helper with
  | some h => exact Or.inl rfl
  | none =>
    cases c.registry.lookupName? "felt" with
    | none => exact Or.inl rfl
    | some felt =>
      simp only
      cases hl : c.wideSlot.1.lower helperName felt [c.wideSlot.2] .reduce with
      | error e => exact hwide
      | ok done =>
        show done.compiler.registry = _ ∨ _ ∧ ∃ type, done.compiler.registry = _
        rw [(lower_frame hl).1]
        exact hwide

namespace Session

/-- A call enters one declared type, the wide type, or none. -/
theorem serve_registry (s : Session) (request : Request) :
    (∃ d, s.declares request = [d] ∧ s.compiler.declareType d = .ok (s.serve request).compiler) ∨
      s.declares request = [] ∧
        ((s.serve request).compiler.registry = s.compiler.registry ∨
          (s.compiler.registry.has wideKey = false ∧
            ∃ type, (s.serve request).compiler.registry = s.compiler.registry.add wideKey type)) := by
  -- A call that lowers a function leaves the registry alone, whatever the answer.
  have hperform : ∀ call : Call Summary, call.Atomic →
      (∀ done, call.lowered s.compiler = .ok done →
        done.compiler.registry = s.compiler.registry) →
        (s.progress.perform s.span call).1.compiler.registry = s.compiler.registry :=
    fun call hcall hr =>
      Progress.perform_preserves (P := fun c => c.registry = s.compiler.registry) hcall hr rfl
  have hcall : ∀ d libfunc done, s.compiler.callLibfunc d libfunc = .ok done →
      done.compiler.registry = s.compiler.registry := by
    intro d libfunc done hdone
    obtain ⟨-, result, params, body, -, hlower⟩ := Compiler.callLibfunc_eq_ok_iff.mp hdone
    exact (Compiler.lower_frame hlower).1
  cases request with
  | lower name result params body =>
    exact Or.inr ⟨rfl, Or.inl (hperform _ (Call.atomic_lower _ _ _ _) fun done hdone =>
      (Compiler.lower_frame hdone).1)⟩
  | operation op =>
    cases op with
    | setLine line => exact Or.inr ⟨rfl, Or.inl rfl⟩
    | setTracer journal span => exact Or.inr ⟨rfl, Or.inl rfl⟩
    | declareType d =>
      cases hanswer : s.answer (.operation (.declareType d)) with
      | error e =>
        refine Or.inr ⟨?_, Or.inl ?_⟩
        · rw [declares, hanswer]
          rfl
        · rw [serve_compiler_of_error rfl hanswer]
      | ok u =>
        refine Or.inl ⟨d, ?_, ?_⟩
        · rw [declares, hanswer]
          rfl
        · exact (s.progress.result_declareType s.span d).symm.trans (Progress.result_eq_ok hanswer)
    | declareHelper =>
      have hcompiler : (s.serve (.operation .declareHelper)).compiler = s.compiler.declareHelper.1 :=
        s.progress.declareHelper_compiler s.span
      rw [hcompiler]
      exact Or.inr ⟨rfl, s.compiler.declareHelper_registry⟩
    | declareLibfunc d =>
      have hcompiler : (s.serve (.operation (.declareLibfunc d))).compiler =
          (s.compiler.addFunction d).toOption.getD s.compiler :=
        s.progress.declareLibfunc_compiler s.span d
      rw [hcompiler]
      refine Or.inr ⟨rfl, Or.inl ?_⟩
      cases hd : s.compiler.addFunction d with
      | error e => rfl
      | ok c =>
        obtain ⟨done, hdone, rfl⟩ := Compiler.addFunction_eq_ok_iff.mp hd
        obtain ⟨libfunc, -, hlibfunc⟩ := Compiler.declareLibfunc_eq_ok_iff.mp hdone
        exact hcall d libfunc done hlibfunc
    | callLibfunc libfunc d =>
      exact Or.inr ⟨rfl, Or.inl (hperform _ (Call.atomic_libfunc d libfunc) (hcall d libfunc))⟩
    | lower name result params body =>
      refine Or.inr ⟨rfl, Or.inl ?_⟩
      cases hresult : result.find? s.compiler.registry with
      | none => simp only [serve, step, hresult]
      | some r =>
        cases hparams : params.mapM (SlotRef.find? s.compiler.registry) with
        | none => simp only [serve, step, hresult, hparams]
        | some ps =>
          simp only [serve, step, hresult, hparams]
          exact hperform _ (Call.atomic_lower _ _ _ _) fun done hdone => (Compiler.lower_frame hdone).1

theorem serve_lists {s : Session} {ds : List Declaration} (h : s.compiler.registry.Lists ds)
    (request : Request) : (s.serve request).compiler.registry.Lists (ds ++ s.declares request) := by
  rcases s.serve_registry request with ⟨d, hone, hd⟩ | ⟨hnone, hr | ⟨hfree, type, hr⟩⟩
  · rw [hone]
    exact Compiler.declareType_lists h hd
  · rw [hnone, List.append_nil, hr]
    exact h
  · rw [hnone, List.append_nil, hr]
    exact h.internal rfl hfree type

theorem serveAll_lists {s : Session} {ds : List Declaration} (h : s.compiler.registry.Lists ds)
    (requests : List Request) :
    (s.serveAll requests).compiler.registry.Lists (ds ++ s.declared requests) := by
  induction requests generalizing s ds with
  | nil =>
    rw [declared, List.append_nil]
    exact h
  | cons request rest ih =>
    have hrest := ih (serve_lists h request)
    rw [List.append_assoc] at hrest
    exact hrest

theorem start_lists (o : Options) (requests : List Request) :
    ((start o).serveAll requests).compiler.registry.Lists ((start o).declared requests) := by
  have hstart : (start o).compiler.registry.Lists [] := by
    rw [show (start o).compiler.registry = {} from Compiler.new_registry o]
    exact .empty
  exact serveAll_lists hstart requests

end Session

/-! ## Following wrappers inwards -/

/-- The declaration at one position wraps the one at the other. -/
def Follows (ds : List Declaration) (i j : Nat) : Prop :=
  ∃ (d e : Declaration) (inner : Ident), ds[i]? = some d ∧ d.Wraps inner ∧ ds[j]? = some e ∧
    e.id.id = inner.id

namespace Registry

/-- From a position, wrappers lead to a scalar that has the given handle. -/
def Resolves (r : Registry) (ds : List Declaration) (i : Nat) (type : Handle) : Prop :=
  ∃ (j : Nat) (e : Declaration) (g : Text), Relation.ReflTransGen (Follows ds) i j ∧
    ds[j]? = some e ∧ e.Names g ∧ BuiltinTy g type.ty ∧ r.lookup? e.id.key = some ⟨e.id.key, type⟩

theorem Resolves.follow {r : Registry} {ds : List Declaration} {i j : Nat} {type : Handle}
    (hstep : Follows ds i j) (h : r.Resolves ds j type) : r.Resolves ds i type := by
  obtain ⟨k, e, g, hchain, hscalar⟩ := h
  exact ⟨k, e, g, .head hstep hchain, hscalar⟩

namespace Lists

variable {r : Registry} {ds : List Declaration}

theorem keys_nodup (h : r.Lists ds) : r.keys.Nodup := h.nodup.filter _

/-- Positions are told apart by the numbers of their declarations. -/
theorem position_unique (h : r.Lists ds) {i j : Nat} {d e : Declaration} (hd : ds[i]? = some d)
    (he : ds[j]? = some e) (hid : d.id.id = e.id.id) : i = j := by
  have hnodup : (ds.map fun d => d.id.key).Nodup := h.keys ▸ h.keys_nodup
  have hi : i < (ds.map fun d => d.id.key).length := by
    rw [List.length_map]
    exact (List.getElem?_eq_some_iff.mp hd).1
  refine (List.getElem?_inj hi hnodup).mp ?_
  rw [List.getElem?_map, List.getElem?_map, hd, he]
  exact congrArg some (Ident.key_eq_iff.mpr hid)

theorem follows_unique (h : r.Lists ds) {i j k : Nat} (hj : Follows ds i j) (hk : Follows ds i k) :
    j = k := by
  obtain ⟨d, e, inner, hd, hwrap, he, hid⟩ := hj
  obtain ⟨d', e', inner', hd', hwrap', he', hid'⟩ := hk
  rw [hd] at hd'
  cases hd'
  rw [hwrap.unique hwrap'] at hid
  exact h.position_unique he he' (hid.trans hid'.symm)

theorem lt_of_follows (h : r.Lists ds) {i j : Nat} (hstep : Follows ds i j) : j < i := by
  obtain ⟨d, e, inner, hd, hwrap, -⟩ := id hstep
  obtain ⟨type, -, ⟨g, hg, -⟩ | ⟨inner', k, e', hwrap', hlt, he', hid', -⟩⟩ := h.types i d hd
  · exact absurd hg hwrap.not_names
  · rwa [h.follows_unique hstep ⟨d, e', inner', hd, hwrap', he', hid'⟩]

/-- Every declared type resolves, to the handle it is entered with. -/
theorem resolves (h : r.Lists ds) {i : Nat} {d : Declaration} (hd : ds[i]? = some d) :
    ∃ type, r.lookup? d.id.key = some ⟨d.id.key, type⟩ ∧ r.Resolves ds i type := by
  -- A wrapper wraps an earlier type, so the induction is on the position.
  induction i using Nat.strong_induction_on generalizing d with
  | _ i ih =>
    obtain ⟨type, hlookup, hkind⟩ := h.types i d hd
    refine ⟨type, hlookup, ?_⟩
    rcases hkind with ⟨g, hg, hty⟩ | ⟨inner, j, e, hwrap, hlt, he, hid, hsame⟩
    · exact ⟨i, d, g, .refl, hd, hg, hty, hlookup⟩
    · obtain ⟨type', hlookup', hres⟩ := ih j hlt he
      rw [hsame] at hlookup'
      cases hlookup'
      exact hres.follow ⟨d, e, inner, hd, hwrap, he, hid⟩

theorem lookupName?_eq (h : r.Lists ds) (g : Text) :
    r.lookupName? g = (ds.find? fun d => d.Names g).bind fun d => r.lookup? d.id.key := by
  rw [Registry.lookupName?_eq, h.first, Option.bind_map]
  rfl

/-- A builtin that is found is a declared scalar with a type of the builtin. -/
theorem builtin (h : r.Lists ds) {g : Text} {slot : Slot} (hs : r.lookupName? g = some slot) :
    BuiltinTy g slot.type.ty ∧ ∃ d ∈ ds, slot.key = d.id.key ∧ ∀ inner, ¬ d.Wraps inner := by
  rw [h.lookupName?_eq] at hs
  obtain ⟨d, hfind, hs⟩ := Option.bind_eq_some_iff.mp hs
  have hmem := List.mem_of_find?_eq_some hfind
  have hg : d.Names g := by
    have hnames := List.find?_some hfind
    exact of_decide_eq_true hnames
  have hscalar : ∀ inner, ¬ d.Wraps inner := fun inner hwrap => hwrap.not_names hg
  obtain ⟨i, hi⟩ := List.mem_iff_getElem?.mp hmem
  obtain ⟨type, hlookup, hkind⟩ := h.types i d hi
  rw [hlookup] at hs
  cases hs
  refine ⟨?_, d, hmem, rfl, hscalar⟩
  rcases hkind with ⟨g', hg', hty⟩ | ⟨inner, j, e, hwrap, -⟩
  · rwa [← (hg.iff_eq g').mp hg']
  · exact absurd hwrap (hscalar inner)

end Lists

/-- The registry as a record of declared types. -/
structure Records (r : Registry) (ds : List Declaration) : Prop where
  keys : r.keys = ds.map fun d => d.id.key
  unique : r.keys.Nodup
  marked : ∀ key ∈ r.keys, key.head? ≠ some internalMark
  /-- A builtin leads to the first declaration of it. -/
  first : ∀ g, r.lookupName? g = (ds.find? fun d => d.Names g).bind fun d => r.lookup? d.id.key
  builtins : ∀ g slot, r.lookupName? g = some slot →
    BuiltinTy g slot.type.ty ∧ ∃ d ∈ ds, slot.key = d.id.key ∧ ∀ inner, ¬ d.Wraps inner
  /-- A wrapper wraps one type, and an earlier one. -/
  single : ∀ i j k, Follows ds i j → Follows ds i k → j = k
  earlier : ∀ i j, Follows ds i j → j < i
  resolved : ∀ (i : Nat) (d : Declaration), ds[i]? = some d →
    ∃ type, r.lookup? d.id.key = some ⟨d.id.key, type⟩ ∧ r.Resolves ds i type

theorem Lists.records {r : Registry} {ds : List Declaration} (h : r.Lists ds) : r.Records ds where
  keys := h.keys
  unique := h.keys_nodup
  marked := by
    intro key hkey
    rw [h.keys] at hkey
    obtain ⟨d, -, rfl⟩ := List.mem_map.mp hkey
    exact Ident.key_head?_ne d.id
  first := h.lookupName?_eq
  builtins := fun _ _ hs => h.builtin hs
  single := fun _ _ _ hj hk => h.follows_unique hj hk
  earlier := fun _ _ hstep => h.lt_of_follows hstep
  resolved := fun _ _ hd => h.resolves hd

end Registry

/-- In every sequence of calls, whatever they are answered with, what the registry answers
and the module lists at one point it does ever after, and at every point the registry is a
record of the types declared so far. -/
theorem registry_records_declarations (o : Options) (requests more : List Request) :
    let c := ((Session.start o).serveAll requests).compiler
    let c' := ((Session.start o).serveAll (requests ++ more)).compiler
    (∀ key slot, c.registry.lookup? key = some slot → c'.registry.lookup? key = some slot) ∧
      (∀ g slot, c.registry.lookupName? g = some slot → c'.registry.lookupName? g = some slot) ∧
      c.registry.keys <+: c'.registry.keys ∧ c.module.listed <+: c'.module.listed ∧
      c.registry.Records ((Session.start o).declared requests) := by
  intro c c'
  have hgrows : c.Grows c' := by
    have happend : (Session.start o).serveAll (requests ++ more) =
        ((Session.start o).serveAll requests).serveAll more := List.foldl_append
    show c.Grows ((Session.start o).serveAll (requests ++ more)).compiler
    rw [happend]
    exact Session.serveAll_grows _ more
  have htabled : ∀ calls, ((Session.start o).serveAll calls).compiler.Tabled :=
    fun calls => Session.serveAll_tabled calls (Compiler.new_tabled o)
  refine ⟨fun _ _ => hgrows.lookup?, fun _ _ => hgrows.lookupName?, hgrows.keys, ?_,
    (Session.start_lists o requests).records⟩
  rw [(htabled requests).listed_eq, (htabled (requests ++ more)).listed_eq]
  exact hgrows.functions

/-- A wrapper of a wrapper of a field element type, with a wrapper that comes too early, a
number that is taken, and the helper. -/
def towerRequests : List Request :=
  [.operation (.declareType ⟨⟨4, []⟩, "NonZero", some [{ type := some ⟨9, []⟩ }]⟩),
    .operation (.declareType ⟨⟨9, []⟩, "felt252", none⟩),
    .operation (.declareType ⟨⟨4, []⟩, "NonZero", some [{ type := some ⟨9, []⟩ }]⟩),
    .operation (.declareType ⟨⟨9, []⟩, "u8", none⟩),
    .operation .declareHelper,
    .operation (.declareType ⟨⟨2, []⟩, "NonZero", some [{ type := some ⟨4, []⟩ }]⟩)]

/-- A second field element type, with a handle of its own. -/
def secondFelt : Request := .operation (.declareType ⟨⟨1, []⟩, "felt", none⟩)

theorem towerRequests_recorded :
    let c := ((Session.start {}).serveAll towerRequests).compiler
    let c' := ((Session.start {}).serveAll (towerRequests ++ [secondFelt])).compiler
    c.registry.keys = [Text.ofString "9", Text.ofString "4", Text.ofString "2"] ∧
      c'.registry.lookup? "2" = some ⟨"2", ⟨.int 253, 1⟩⟩ ∧
      c'.registry.lookupName? "felt" = some ⟨"9", ⟨.int 253, 1⟩⟩ ∧
      c.registry.Resolves ((Session.start {}).declared towerRequests) 2 ⟨.int 253, 1⟩ := by
  intro c c'
  have hwrapper : c.registry.lookup? "2" = some ⟨"2", ⟨.int 253, 1⟩⟩ := by decide +kernel
  have hfelt : c.registry.lookupName? "felt" = some ⟨"9", ⟨.int 253, 1⟩⟩ := by decide +kernel
  have hthird : ((Session.start {}).declared towerRequests)[2]? =
      some ⟨⟨2, []⟩, "NonZero", some [{ type := some ⟨4, []⟩ }]⟩ := by decide +kernel
  obtain ⟨hlookup, hname, -, -, hrecords⟩ :=
    registry_records_declarations {} towerRequests [secondFelt]
  obtain ⟨type, htype, hresolves⟩ := hrecords.resolved 2 _ hthird
  have hsame : some (⟨"2", ⟨.int 253, 1⟩⟩ : Slot) = some ⟨"2", type⟩ := hwrapper.symm.trans htype
  cases hsame
  exact ⟨by decide +kernel, hlookup _ _ hwrapper, hname _ _ hfelt, hresolves⟩

end Lowering
end FeltLowering
