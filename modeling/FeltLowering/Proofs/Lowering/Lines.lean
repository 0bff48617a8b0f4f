import FeltLowering.Proofs.Lowering.Arithmetic
import FeltLowering.Proofs.Lowering.HelperDeclaration
import FeltLowering.Proofs.Lowering.Mirror

/-
Source lines in debug info.

The line is part of the state of the compiler: it is set before each declaration and read
when a function is lowered.  `Compiler.Laid c ls` says that the functions of a compiler
are on the lines `ls`, in order, and that every location of the module is in one of them
and on its line.  A type adds nothing to `ls`, a function the line that is set.

A program with `n` types therefore has its helper on line `n + 1`, and its libfuncs on the
lines from `n + 1` on (`laid_of_lowerDecls`): the helper has no line of its own.
-/
namespace FeltLowering

namespace Ir

open Lowering

/-- A subprogram as it is written, with its own line and the one its scope starts on. -/
def Node.subprogramText (name : Text) (line scopeLine : Int) (type : NodeRef) : Text :=
  "distinct " ++ special "DISubprogram"
    [field "name" (nonempty name), field "scope" (some DebugTable.unit.text),
      field "file" (some DebugTable.file.text), field "line" (some (Text.ofInt line)),
      field "type" (some type.text), field "scopeLine" (some (Text.ofInt scopeLine)),
      field "flags" (some "DIFlagPublic"), field "spFlags" (some "DISPFlagDefinition"),
      field "unit" (some DebugTable.unit.text)]

/-- The function is described on a line, and so is every call in it; its subprogram is
written with this line for both of its lines. -/
structure Module.OnLine (m : Module) (line : Int) (f : Function) : Prop where
  described : ∃ sp, m.Describes line sp f
  written : ∃ sp node type, f.attachments = [⟨"dbg", sp⟩] ∧ m.node? sp = some node ∧
    node.text = Node.subprogramText f.displayName line line type

theorem Node.text_subprogram {line : Int} (h : line ≠ 0) (name : Text) (type : NodeRef) :
    (Node.subprogram name DebugTable.unit DebugTable.file line (some type)).text =
      subprogramText name line line type := by
  have hline : nonzero line = some (Text.ofInt line) := if_neg h
  simp only [text, hline, subprogramText]
  rfl

theorem Module.Describes.onLine {m : Module} {line : Int} {sp : NodeRef} {f : Function}
    (h : m.Describes line sp f) (hline : line ≠ 0) : m.OnLine line f := by
  obtain ⟨type, -, -, hsp, -⟩ := h.signature
  exact ⟨⟨sp, h⟩, sp, _, type, h.attached, hsp, Node.text_subprogram hline _ _⟩

/-- A function is on one line only. -/
theorem Module.OnLine.unique {m : Module} {line line' : Int} {f : Function} (h : m.OnLine line f)
    (h' : m.OnLine line' f) : line = line' := by
  obtain ⟨sp, hsp⟩ := h.described
  obtain ⟨sp', hsp'⟩ := h'.described
  have hsame : sp = sp' := by
    have := hsp.attached.symm.trans hsp'.attached
    simpa using this
  subst hsame
  obtain ⟨type, -, -, hnode, -⟩ := hsp.signature
  obtain ⟨type', -, -, hnode', -⟩ := hsp'.signature
  have := hnode.symm.trans hnode'
  simp only [Option.some.injEq, Node.subprogram.injEq] at this
  exact this.2.2.2.1

end Ir

namespace Lowering

open Ir

namespace Compiler

/-! ## What a function adds -/

/-- One function more, described on the line that is set, with locations on that line. -/
structure Adds (c c' : Compiler) (f : Function) (sp : NodeRef) : Prop where
  functions : c'.module.functions = c.module.functions ++ [f]
  described : c'.module.Describes c.line sp f
  kept : c.module.Extends c'.module
  locations : ∀ e ∈ c'.module.definitions, e ∈ c.module.definitions ∨
    ∀ line scope, e.node = .location line scope → line = c.line ∧ scope = sp

theorem location_of_mem_subprogramNodes {c : Compiler} {next : Nat} {f : Function}
    {signature : List NodeRef} {line : Int} {scope : NodeRef}
    (h : Node.location line scope ∈ c.subprogramNodes next f signature) :
    line = c.line ∧ scope = .node (next + 2) := by
  unfold subprogramNodes at h
  rcases List.mem_append.mp h with h | h
  · simp at h
  · obtain ⟨-, -, heq⟩ := List.mem_map.mp h
    simp only [Node.location.injEq] at heq
    exact ⟨heq.1.symm, heq.2.symm⟩

theorem adds_of_install {c : Compiler} {d : DebugTable} {f : Function} {b : Block}
    {signature : List NodeRef} (hm : c.Mirrored d) (hd : c.debug = some d) (hblocks : f.blocks = [b])
    (hf : f.Unmarked) (hsig : List.Forall₂ c.module.Sizes signature (f.result :: f.params.map Param.ty)) :
    Adds c (c.install f signature) (c.described f) (.node (d.nextId + 2)) := by
  let base : Compiler :=
    { c with
      module := { c.module with functions := c.module.functions ++ [c.described f] }
      table := c.table ++ [(f.name, c.module.functions.length)] }
  let t := d.putSubprogram f.displayName (.node (d.nextId + 2))
  let nodes := c.subprogramNodes d.nextId f signature
  have hinstall : c.install f signature = base.define t nodes := install_of_some f signature hd
  have hnext : t.nextId = d.nextId := DebugTable.putSubprogram_nextId ..
  have hdense : base.module.Dense t.nextId := by
    rw [hnext]
    exact hm.dense
  have hext : c.module.Extends (base.define t nodes).module := define_extends base t nodes
  rw [hinstall]
  refine ⟨rfl, ?_, hext, fun e he => ?_⟩
  · exact described_describes hd hblocks hf hext
      (fun i n hi => hnext ▸ node?_define_new hdense hi) hsig
  · rw [define_definitions] at he
    rcases List.mem_append.mp he with he | he
    · left
      exact he
    · right
      intro line scope hnode
      obtain ⟨i, hi, rfl⟩ := List.mem_mapIdx.mp he
      exact location_of_mem_subprogramNodes (List.mem_of_getElem hnode)

theorem adds_of_lower {c : Compiler} {name : Text} {result : Slot} {params : List Slot} {body : Body}
    {done : Lowered} (hm : c.Mirror) (hon : c.debugInfo = true)
    (hslots : ∀ s ∈ result :: params, c.registry.Holds s)
    (h : c.lower name result params body = .ok done) : ∃ f sp, Adds c done.compiler f sp := by
  obtain ⟨signature, code, -, hsig, hcode, rfl⟩ := lower_eq_ok_iff.mp h
  obtain ⟨d, hd⟩ := Option.isSome_iff_exists.mp hon
  have hmirror := hm.on d hd
  have hentries : ∀ s ∈ result :: params, s ∈ c.registry.entries :=
    fun s hs => (Registry.mem_of_lookup? (hslots s hs)).1
  have hsizes := hmirror.signature hentries ((debugSignature_eq_ok_iff hd).mp hsig)
  refine ⟨_, _, adds_of_install hmirror hd rfl (buildFunction_unmarked name hcode) ?_⟩
  rw [buildFunction_eq, Code.function_params]
  exact hsizes

/-! ## The lines of a module -/

/-- The functions are on the given lines, in order, and every location is in one of them
and on its line. -/
structure Laid (c : Compiler) (lines : List Nat) : Prop where
  functions : List.Forall₂ (fun (line : Nat) f => ∃ sp, c.module.Describes line sp f) lines
    c.module.functions
  locations : ∀ e ∈ c.module.definitions, ∀ line scope, e.node = .location line scope →
    ∃ f ∈ c.module.functions, c.module.Describes line scope f

namespace Laid

variable {c c' : Compiler} {lines : List Nat}

theorem congr (h : c.Laid lines) (hm : c'.module = c.module) : c'.Laid lines := by
  obtain ⟨functions, locations⟩ := h
  rw [← hm] at functions locations
  exact ⟨functions, locations⟩

theorem withRegistry (h : c.Laid lines) (r : Registry) : { c with registry := r }.Laid lines :=
  h.congr rfl

theorem describeType (h : c.Laid lines) (key name : Text) (size : Nat) :
    (c.describeType key name size).Laid lines := by
  cases hd : c.debug with
  | none =>
    rw [describeType_of_none key name size hd]
    exact h
  | some d =>
    rw [describeType_of_some key name size hd]
    let t : DebugTable := { d with types := d.types ++ [(key, .node d.nextId)] }
    have hext : c.module.Extends (c.define t [.basicType name size]).module := define_extends c t _
    refine ⟨h.functions.imp fun _ _ ⟨sp, hsp⟩ => ⟨sp, hext.describes hsp⟩, ?_⟩
    intro e he line scope hnode
    rw [define_definitions] at he
    rcases List.mem_append.mp he with he | he
    · obtain ⟨f, hf, hdesc⟩ := h.locations e he line scope hnode
      exact ⟨f, hf, hext.describes hdesc⟩
    · obtain ⟨i, hi, rfl⟩ := List.mem_mapIdx.mp he
      exact absurd (List.mem_of_getElem hnode) (by simp)

theorem insertType (h : c.Laid lines) (key name : Text) (type : Handle) :
    (c.insertType key name type).Laid lines :=
  (h.withRegistry _).describeType key name _

theorem declareType (h : c.Laid lines) {d : Declaration} (hd : c.declareType d = .ok c') :
    c'.Laid lines := by
  rcases (declareType_eq_ok_iff.mp hd).2 with ⟨-, rfl⟩ | ⟨w, -, rfl⟩ | ⟨inner, slot, -, -, rfl⟩
  · exact (h.insertType _ _ _).congr rfl
  · exact (h.insertType _ _ _).congr rfl
  · exact (h.withRegistry _).describeType _ _ _

theorem wideSlot (h : c.Laid lines) : c.wideSlot.1.Laid lines := by
  unfold Compiler.wideSlot
  cases c.registry.lookup? wideKey with
  | some slot => exact h
  | none => exact h.insertType _ _ _

theorem wideSlot_line (c : Compiler) : c.wideSlot.1.line = c.line := by
  unfold Compiler.wideSlot
  cases c.registry.lookup? wideKey with
  | some slot => rfl
  | none => exact describeType_line _ _ _ _

theorem add {f : Function} {sp : NodeRef} {line : Nat} (h : c.Laid lines) (hadds : Adds c c' f sp)
    (hline : c.line = line) : c'.Laid (lines ++ [line]) := by
  have hnew : c'.module.Describes line sp f := hline ▸ hadds.described
  refine ⟨?_, fun e he line' scope hnode => ?_⟩
  · rw [hadds.functions]
    exact List.rel_append (h.functions.imp fun _ _ ⟨sp', hsp⟩ => ⟨sp', hadds.kept.describes hsp⟩)
      (.cons ⟨sp, hnew⟩ .nil)
  · rw [hadds.functions]
    rcases hadds.locations e he with he | hloc
    · obtain ⟨g, hg, hdesc⟩ := h.locations e he line' scope hnode
      exact ⟨g, List.mem_append_left _ hg, hadds.kept.describes hdesc⟩
    · obtain ⟨rfl, rfl⟩ := hloc line' scope hnode
      exact ⟨f, List.mem_append_right _ List.mem_cons_self, hadds.described⟩

variable {o : Options}

theorem declareTypes {line : Nat} {ds : List Declaration} (h : c.Laid lines)
    (hd : declareEach Compiler.declareType line ds c = .ok c') : c'.Laid lines :=
  @declareEach_inv _ (fun _ c => c.Laid lines) (fun _ h => h.congr rfl)
    (fun h hd => h.declareType hd) line [] ds c c' h hd

/-- The helper is lowered on the line that is set, with the wide type entered before it. -/
theorem helperIfFelt {p : Program} {line : Nat} (hon : o.debugInfo = true) (h : c.Laid [])
    (ht : Typed o p.typeList c) (hc : c.helperIfFelt line = .ok c') :
    c'.Laid (if p.HasFelt then [line] else []) := by
  have hfelt : (c.registry.lookupName? (Text.ofString "felt")).isSome = true ↔ p.HasFelt := by
    rw [ht.lookupName?_isSome_iff]
    simp only [Declaration.names_felt_iff]
    rfl
  unfold Compiler.helperIfFelt at hc
  by_cases hp : p.HasFelt
  · rw [if_pos (hfelt.mpr hp)] at hc
    rw [if_pos hp]
    have hset : Reaches (new o) (c.setLine line) := ht.reaches.tail (.line c line)
    have hcoherent : (c.setLine line).Coherent := hset.induction Move.coherent (new_coherent o)
    have houtcome := declareHelper_outcome hcoherent
    generalize (c.setLine line).declareHelper = r at houtcome hc
    cases houtcome with
    | there hsome => exact nomatch ht.helper.symm.trans hsome
    | noFelt _ _ => cases hc
    | taken _ _ _ => cases hc
    | @lowered felt done hnone hslot hfree hdone =>
      cases hc
      obtain ⟨hwide, hslots⟩ := (c.setLine line).wideSlot_reaches
      have hreach := hset.trans hwide
      obtain ⟨f, sp, hadds⟩ := adds_of_lower hreach.mirror (hreach.debugInfo_eq.trans hon)
        (Registry.holds_felt_wide (lookupName?_wideSlot hslot) hslots) hdone
      have hlaid : (c.setLine line).wideSlot.1.Laid [] := wideSlot (h.congr rfl)
      exact (hlaid.add hadds (wideSlot_line _)).congr rfl
  · rw [if_neg fun hs => hp (hfelt.mp hs)] at hc
    cases hc
    rw [if_neg hp]
    exact h

theorem addFunction {line : Nat} {d : Declaration} (hon : o.debugInfo = true) (h : c.Laid lines)
    (hreach : Reaches (new o) c) (hline : c.line = line) (hd : c.addFunction d = .ok c') :
    c'.Laid (lines ++ [line]) := by
  obtain ⟨done, hdone, rfl⟩ := addFunction_eq_ok_iff.mp hd
  obtain ⟨libfunc, -, hcall⟩ := declareLibfunc_eq_ok_iff.mp hdone
  obtain ⟨-, result, params, body, hreq, hlower⟩ := callLibfunc_eq_ok_iff.mp hcall
  obtain ⟨f, sp, hadds⟩ :=
    adds_of_lower hreach.mirror (hreach.debugInfo_eq.trans hon) hreq.uses.1 hlower
  exact h.add hadds hline

/-- Run: libfuncs in a row are on lines in a row. -/
theorem addFunctions {line : Nat} {ds : List Declaration} (hon : o.debugInfo = true)
    (h : c.Laid lines) (hreach : Reaches (new o) c)
    (hd : declareEach Compiler.addFunction line ds c = .ok c') :
    c'.Laid (lines ++ List.range' line ds.length) := by
  induction ds generalizing line lines c with
  | nil =>
    cases hd
    simpa using h
  | cons d ds ih =>
    rw [declareEach] at hd
    cases hmid : Compiler.addFunction (c.setLine line) d with
    | error e =>
      rw [hmid] at hd
      cases hd
    | ok mid =>
      rw [hmid] at hd
      have hset : Reaches (new o) (c.setLine line) := hreach.tail (.line c line)
      have hlaid : mid.Laid (lines ++ [line]) :=
        addFunction hon (h.congr rfl : (c.setLine line).Laid lines) hset rfl hmid
      obtain ⟨done, hdone, rfl⟩ := addFunction_eq_ok_iff.mp hmid
      have := ih hlaid (hset.tail (declareLibfunc_move hdone)) hd
      rwa [List.append_assoc, List.singleton_append, ← List.range'_succ] at this

end Laid

def programLines (p : Program) : List Nat :=
  (if p.HasFelt then [p.typeList.length + 1] else []) ++
    List.range' (p.typeList.length + 1) p.libfuncList.length

theorem new_laid (o : Options) : (new o).Laid [] := by
  unfold new
  cases o.debugInfo with
  | false => exact ⟨.nil, fun e he => absurd he List.not_mem_nil⟩
  | true =>
    refine ⟨.nil, fun e he line scope hnode => ?_⟩
    obtain ⟨i, hi, rfl⟩ := List.mem_mapIdx.mp he
    exact absurd (List.mem_of_getElem hnode) (by simp)

theorem laid_of_lowerDecls {o : Options} {p : Program} {c : Compiler} (hon : o.debugInfo = true)
    (h : (new o).lowerDecls p = .ok c) : c.Laid (programLines p) := by
  obtain ⟨typed, helped, htyped, hhelped, hc⟩ := lowerDecls_eq_ok_iff.mp h
  have ht := typed_of_declareEach htyped
  have hlaid := ((new_laid o).declareTypes htyped).helperIfFelt hon ht hhelped
  exact hlaid.addFunctions hon (ht.reaches.trans (helperIfFelt_reaches hhelped)) hc

def libfunc? (c : Compiler) (p : Program) (i : Nat) : Option Function :=
  p.libfuncList[i]?.bind fun d => c.func? d.id.name

end Compiler

theorem getElem?_of_forall₂ {α β : Type} {R : α → β → Prop} {l : List α} {l' : List β}
    (h : List.Forall₂ R l l') {i : Nat} {a : α} (ha : l[i]? = some a) : ∃ b, l'[i]? = some b ∧ R a b := by
  induction h generalizing i with
  | nil => simp at ha
  | cons hab _ ih =>
    cases i with
    | zero =>
      obtain rfl := Option.some.inj ha
      exact ⟨_, rfl, hab⟩
    | succ i => exact ih ha

section Layout

variable {env : Environment} {journal : Trace.Journal} {p : Program} {o : Options} {c : Compiler}

/-- The libfunc at position `i` is `i` lines behind the first. -/
theorem libfunc?_onLine (hon : o.debugInfo = true) (h : (lowerProgram env journal p o).2 = .ok c)
    {i : Nat} (hi : i < p.libfuncList.length) :
    ∃ f, c.libfunc? p i = some f ∧ c.module.OnLine ((p.typeList.length + 1 + i : Nat) : Int) f := by
  have hlower := lowerDecls_of_lowerProgram h
  have hfilled := Compiler.filled_of_lowerDecls hlower
  have htabled := hfilled.reaches.tabled
  have hlaid := Compiler.laid_of_lowerDecls hon hlower
  obtain ⟨fs, hfs, hfuncs⟩ := hfilled.functions
  have hd : p.libfuncList[i]? = some p.libfuncList[i] := List.getElem?_eq_getElem hi
  obtain ⟨g, hg, hlow⟩ := getElem?_of_forall₂ hfs hd
  -- The helper, if there is one, stands before all libfuncs.
  let before : List Function := if p.HasFelt then [reduction] else []
  have hat : (c.module.functions.map Function.bare)[before.length + i]? = some g := by
    rw [hfuncs, List.getElem?_append_right (Nat.le_add_right _ _), Nat.add_sub_cancel_left, hg]
  rw [List.getElem?_map] at hat
  obtain ⟨f, hf, rfl⟩ := Option.map_eq_some_iff.mp hat
  have hline : (Compiler.programLines p)[before.length + i]? = some (p.typeList.length + 1 + i) := by
    have hlen : before.length = (if p.HasFelt then [p.typeList.length + 1] else []).length := by
      by_cases hp : p.HasFelt <;> simp [before, hp]
    rw [Compiler.programLines, hlen, List.getElem?_append_right (Nat.le_add_right _ _),
      Nat.add_sub_cancel_left, List.getElem?_range' hi, Nat.one_mul]
  obtain ⟨f', hf', sp, hdesc⟩ := getElem?_of_forall₂ hlaid.functions hline
  obtain rfl : f = f' := Option.some.inj (hf.symm.trans hf')
  refine ⟨f, ?_, hdesc.onLine (by omega)⟩
  unfold Compiler.libfunc?
  rw [hd, Option.bind_some, htabled.func?_eq, ← hlow.name]
  exact find?_key_of_mem htabled.names (List.mem_of_getElem? hf)

theorem helper_onLine (hon : o.debugInfo = true) (h : (lowerProgram env journal p o).2 = .ok c)
    {hlp : Helper} (hhelper : c.helper = some hlp) :
    ∃ f, c.module.functions[hlp.position]? = some f ∧ f.name = helperName ∧
      c.module.OnLine ((p.typeList.length + 1 : Nat) : Int) f := by
  have hlower := lowerDecls_of_lowerProgram h
  have hfilled := Compiler.filled_of_lowerDecls hlower
  have hlaid := Compiler.laid_of_lowerDecls hon hlower
  rw [hfilled.helper] at hhelper
  by_cases hp : p.HasFelt
  · rw [if_pos hp] at hhelper
    obtain rfl : (⟨0⟩ : Helper) = hlp := Option.some.inj hhelper
    have hline : (Compiler.programLines p)[0]? = some (p.typeList.length + 1) := by
      rw [Compiler.programLines, if_pos hp]
      rfl
    obtain ⟨f, hf, sp, hdesc⟩ := getElem?_of_forall₂ hlaid.functions hline
    have hfirst := hfilled.helper_first hp
    refine ⟨f, hf, ?_, hdesc.onLine (by omega)⟩
    replace hfirst : (c.module.functions.map Function.bare)[0]? = some reduction := hfirst
    rw [List.getElem?_map, hf] at hfirst
    exact congrArg Function.name (Option.some.inj hfirst)
  · rw [if_neg hp] at hhelper
    cases hhelper

theorem location_described (hon : o.debugInfo = true) (h : (lowerProgram env journal p o).2 = .ok c)
    {r scope : NodeRef} {line : Int} (hr : c.module.node? r = some (.location line scope)) :
    ∃ f ∈ c.module.functions, c.module.Describes line scope f := by
  have hlaid := Compiler.laid_of_lowerDecls hon (lowerDecls_of_lowerProgram h)
  obtain ⟨e, he, hnode⟩ := Option.map_eq_some_iff.mp hr
  exact hlaid.locations e (List.mem_of_find?_eq_some he) line scope hnode

theorem line_of_libfunc? (hon : o.debugInfo = true) (h : (lowerProgram env journal p o).2 = .ok c)
    {i : Nat} {f : Function} {line : Int} (hf : c.libfunc? p i = some f) (hline : c.module.OnLine line f) :
    line = ((p.typeList.length + 1 + i : Nat) : Int) := by
  have hi : i < p.libfuncList.length := by
    by_contra hge
    rw [Compiler.libfunc?, List.getElem?_eq_none (Nat.le_of_not_lt hge)] at hf
    cases hf
  obtain ⟨f', hf', hline'⟩ := libfunc?_onLine hon h hi
  obtain rfl : f = f' := Option.some.inj (hf.symm.trans hf')
  exact hline.unique hline'

/-- Debug lines follow the layout of the program.  With `n` types the libfunc at position
`i` is on line `n + 1 + i` and the helper on line `n + 1`, and every location is in a
function, on its line.  So the lines of libfuncs increase with their positions, and they
are those of any other program with as many types. -/
theorem debug_lines_follow_layout (hon : o.debugInfo = true)
    (h : (lowerProgram env journal p o).2 = .ok c) :
    (∀ i < p.libfuncList.length, ∃ f, c.libfunc? p i = some f ∧
      c.module.OnLine ((p.typeList.length + 1 + i : Nat) : Int) f) ∧
    (∀ hlp, c.helper = some hlp → ∃ f, c.module.functions[hlp.position]? = some f ∧
      f.name = helperName ∧ c.module.OnLine ((p.typeList.length + 1 : Nat) : Int) f) ∧
    (∀ r line scope, c.module.node? r = some (.location line scope) →
      ∃ f ∈ c.module.functions, c.module.Describes line scope f) ∧
    (∀ i j f g line line', i < j → c.libfunc? p i = some f → c.libfunc? p j = some g →
      c.module.OnLine line f → c.module.OnLine line' g → line < line') ∧
    ∀ env' journal' p' o' c', o'.debugInfo = true → (lowerProgram env' journal' p' o').2 = .ok c' →
      p'.typeList.length = p.typeList.length → ∀ i f f' line line', c.libfunc? p i = some f →
        c'.libfunc? p' i = some f' → c.module.OnLine line f → c'.module.OnLine line' f' →
          line' = line := by
  refine ⟨fun i hi => libfunc?_onLine hon h hi, fun hlp hh => helper_onLine hon h hh,
    fun r line scope hr => location_described hon h hr, ?_, ?_⟩
  · intro i j f g line line' hlt hf hg hline hline'
    rw [line_of_libfunc? hon h hf hline, line_of_libfunc? hon h hg hline']
    omega
  · intro env' journal' p' o' c' hon' h' htypes i f f' line line' hf hf' hline hline'
    rw [line_of_libfunc? hon h hf hline, line_of_libfunc? hon' h' hf' hline', htypes]

end Layout

/-- Three types: the helper and the first libfunc are on the fourth line. -/
theorem mixedProgram_lines :
    ∃ c, (lowerProgram {} {} mixedProgram { debugInfo := true }).2 = .ok c ∧
      (∃ f, c.func? minusFive.id.name = some f ∧ c.module.OnLine 4 f) ∧
      (∃ f, c.func? times.id.name = some f ∧ c.module.OnLine 5 f) ∧
      (∃ f, c.func? plus.id.name = some f ∧ c.module.OnLine 6 f) ∧
      ∃ f ∈ c.module.functions, f.name = helperName ∧ c.module.OnLine 4 f := by
  obtain ⟨c, hc⟩ := mixedProgram_lowers
  obtain ⟨hlibfuncs, hhelper, -⟩ := debug_lines_follow_layout rfl hc
  have hfelt : c.helper = some ⟨0⟩ := by
    rw [(Compiler.filled_of_lowerDecls (lowerDecls_of_lowerProgram hc)).helper]
    exact if_pos (by decide)
  obtain ⟨f, hf, hname, hline⟩ := hhelper _ hfelt
  exact ⟨c, hc, hlibfuncs 0 (by decide), hlibfuncs 1 (by decide), hlibfuncs 2 (by decide),
    f, List.mem_of_getElem? hf, hname, hline⟩

end Lowering
end FeltLowering
