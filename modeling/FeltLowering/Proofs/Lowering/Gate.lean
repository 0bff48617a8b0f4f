import FeltLowering.Proofs.Lowering.Acceptance
import FeltLowering.Proofs.Lowering.Mirror
import Mathlib.Data.List.Perm.Subperm

/-
When a module passes the check before it is written.

Functions are kept by their names, and subprograms by the names the functions go by.
Two different names may stand for one number, and then the second function takes the
place of the first in the debug table.  Apart from that nothing ever goes wrong:
`debugFaults_eq_nil_iff` says so for every compiler that can come about.
-/
namespace FeltLowering
namespace Lowering

open Ir

namespace Compiler

section Faults

variable {c : Compiler} {d : DebugTable}

theorem typeFaults_eq_nil (h : c.Mirrored d) (hd : c.debug = some d) {s : Slot}
    (hs : s ∈ c.registry.entries) : c.typeFaults d s = [] := by
  obtain ⟨r, hr, -⟩ := h.types s hs
  unfold typeFaults
  rw [hr, if_neg (by simp), if_neg (by rw [h.debugSize hd hs]; exact fun hne => hne rfl)]

theorem functionFaults_eq_nil {f : Function} {line : Int} {sp : NodeRef}
    (h : c.module.Describes line sp f) (hown : d.subprogram? f.displayName = some sp) :
    c.functionFaults d f = [] := by
  obtain ⟨type, types, fields, hsp, htype, htypes, hfields⟩ := h.signature
  have hattached : f.attachments.contains ⟨"dbg", sp⟩ = true := by simp [h.attached]
  have hlocated : (f.calls.filter fun i => !c.isLocated sp (attachmentsOf i)) = [] := by
    rw [List.filter_eq_nil_iff]
    intro i hi
    obtain ⟨r, hatt, hr⟩ := h.located i hi
    simp [isLocated, hatt, hr]
  have hlength : c.signatureLength? sp = some (1 + f.params.length) := by
    have hlen := hfields.length_eq
    rw [List.length_cons, List.length_map, Nat.add_comm] at hlen
    simp [signatureLength?, hsp, htype, htypes, hlen]
  unfold functionFaults
  simp only [hown, hattached, hlocated, hlength, if_true, List.map_nil, List.append_nil]

/-- There are as many subprograms as functions exactly if no two functions go by one
name. -/
theorem Mirrored.length_eq_iff (h : c.Mirrored d) :
    d.subprograms.length = c.module.functions.length ↔
      (c.module.functions.map Function.displayName).Nodup := by
  have hlen : d.subprograms.length = c.module.functions.length ↔
      (d.subprograms.map Prod.fst).length = (c.module.functions.map Function.displayName).length := by
    rw [List.length_map, List.length_map]
  rw [hlen]
  constructor
  · intro heq
    have hsub := List.subperm_of_subset h.keys fun name hname => (h.support name).mp hname
    exact (hsub.perm_of_length_le (Nat.le_of_eq heq.symm)).nodup_iff.mp h.keys
  · intro hnodup
    exact ((List.perm_ext_iff_of_nodup h.keys hnodup).mpr h.support).length_eq

theorem strayFaults_eq_nil {f : Function} (h : f.Unmarked) : strayFaults f = [] := by
  have hcalls : (f.calls.any fun i => !(attachmentsOf i).isEmpty) = false := by
    rw [List.any_eq_false]
    intro i hi
    simp [h.2 i (List.mem_of_mem_filter hi)]
  unfold strayFaults
  rw [h.1, hcalls]
  rfl

end Faults

/-- The check finds nothing exactly if there is no debug info or no two functions go by one
name. -/
theorem debugFaults_eq_nil_iff {c : Compiler} (ht : c.Tabled) (hm : c.Mirror) :
    c.debugFaults = [] ↔
      (c.debugInfo = true → (c.module.listed.map Function.displayName).Nodup) := by
  rw [ht.listed_eq]
  unfold debugFaults
  rw [ht.listed_eq]
  cases hd : c.debug with
  | none =>
    obtain ⟨hdefs, hfuncs⟩ := hm.off hd
    have hstray : c.module.functions.flatMap strayFaults = [] :=
      List.flatMap_eq_nil_iff.mpr fun f hf => strayFaults_eq_nil (hfuncs f hf)
    simp [hdefs, hstray, debugInfo, hd]
  | some d =>
    have hmir := hm.on d hd
    have htypes : c.registry.entries.flatMap (c.typeFaults d) = [] :=
      List.flatMap_eq_nil_iff.mpr fun s hs => typeFaults_eq_nil hmir hd hs
    have hon : c.debugInfo = true := by rw [debugInfo, hd]; rfl
    simp only [htypes, List.nil_append, List.append_eq_nil_iff, hon, true_implies]
    constructor
    · rintro ⟨-, hcount⟩
      refine hmir.length_eq_iff.mp (Classical.byContradiction fun hne => ?_)
      rw [if_neg hne] at hcount
      cases hcount
    · intro hnodup
      refine ⟨List.flatMap_eq_nil_iff.mpr fun f hf => ?_, if_pos (hmir.length_eq_iff.mpr hnodup)⟩
      obtain ⟨sp, hown, hatt⟩ := hmir.own hnodup f hf
      obtain ⟨line, sp', hdesc⟩ := hmir.functions f hf
      have hsame : sp' = sp := by
        have := hdesc.attached.symm.trans hatt
        simpa using this
      exact functionFaults_eq_nil (hsame ▸ hdesc) hown

theorem emit_eq_ok_iff {c : Compiler} {text : Text} :
    c.emit = .ok text ↔ c.debugFaults = [] ∧ text = c.module.text := by
  unfold emit
  cases c.debugFaults with
  | nil => simp [eq_comm]
  | cons fault rest => simp

/-- Writing a module succeeds exactly if there is no debug info or no two functions go by
one name. -/
theorem Reaches.emit_ok_iff {o : Options} {c : Compiler} (h : Reaches (new o) c) :
    (∃ text, c.emit = .ok text) ↔
      (o.debugInfo = true → (c.module.listed.map Function.displayName).Nodup) := by
  rw [← h.debugInfo_eq, ← debugFaults_eq_nil_iff h.tabled h.mirror]
  constructor
  · rintro ⟨text, htext⟩
    exact (emit_eq_ok_iff.mp htext).1
  · intro hnil
    exact ⟨_, emit_eq_ok_iff.mpr ⟨hnil, rfl⟩⟩

/-! ## Programs -/

/-- Only the helper goes by the name of the helper. -/
theorem display_eq_helperName {name : Text} (h : Name.display name = helperName) :
    name = helperName := by
  unfold Name.display at h
  split at h
  · exact absurd h (by decide)
  split at h
  · have hhead : some 0x22 = helperName.head? := congrArg List.head? h
    exact absurd hhead (by decide)
  · exact h

/-- The names functions go by differ if those of the libfuncs do. -/
theorem Filled.nodup_displayNames_iff {o : Options} {p : Program} {c : Compiler}
    (h : Filled o p p.libfuncList c) :
    (c.module.functions.map Function.displayName).Nodup ↔
      (p.libfuncList.map fun d => Name.display d.id.name).Nodup := by
  obtain ⟨fs, hfs, hfuncs⟩ := h.functions
  have hrest : fs.map Function.displayName = p.libfuncList.map fun d => Name.display d.id.name := by
    have := congrArg (List.map Name.display) (names_of_forall₂ hfs)
    rwa [List.map_map, List.map_map] at this
  have hall : c.module.functions.map Function.displayName =
      (if p.HasFelt then [reduction] else []).map Function.displayName ++
        p.libfuncList.map fun d => Name.display d.id.name := by
    rw [← hrest, ← List.map_append, ← hfuncs, List.map_map]
    rfl
  rw [hall]
  by_cases hp : p.HasFelt
  · rw [if_pos hp, List.map_singleton, List.singleton_append, List.nodup_cons, and_iff_right]
    intro hmem
    obtain ⟨d, hd, hname⟩ := List.mem_map.mp hmem
    have hnodup := h.reaches.tabled.names
    rw [h.names_eq, if_pos hp, List.singleton_append, List.nodup_cons] at hnodup
    exact hnodup.1 (List.mem_map.mpr ⟨d, hd, display_eq_helperName hname⟩)
  · rw [if_neg hp]
    rfl

end Compiler

/-- Writing the module succeeds after every sequence of calls and for every program,
provided that with debug info no two functions go by one name. -/
theorem emit_ok_iff_displayNames (o : Options) :
    (∀ ops : List Operation,
      let c := ((Session.start o).run ops).compiler
      (c.debugFaults = [] ↔
          (o.debugInfo = true → (c.module.listed.map Function.displayName).Nodup)) ∧
        ((∃ text, c.emit = .ok text) ↔
          (o.debugInfo = true → (c.module.listed.map Function.displayName).Nodup))) ∧
    ∀ env journal p c, (lowerProgram env journal p o).2 = .ok c →
      ((∃ text, c.emit = .ok text) ↔
        (o.debugInfo = true → (p.libfuncList.map fun d => Name.display d.id.name).Nodup)) := by
  refine ⟨fun ops => ?_, fun env journal p c h => ?_⟩
  · have hreach : Compiler.Reaches (.new o) ((Session.start o).run ops).compiler :=
      (Session.start o).run_reaches ops
    have hfaults := Compiler.debugFaults_eq_nil_iff hreach.tabled hreach.mirror
    rw [hreach.debugInfo_eq] at hfaults
    exact ⟨hfaults, hreach.emit_ok_iff⟩
  · have hfilled := Compiler.filled_of_lowerDecls (lowerDecls_of_lowerProgram h)
    rw [hfilled.reaches.emit_ok_iff, hfilled.reaches.tabled.listed_eq,
      hfilled.nodup_displayNames_iff]

theorem mixedProgram_emits :
    ∃ c, (lowerProgram {} {} mixedProgram { debugInfo := true }).2 = .ok c ∧
      ∃ text, c.emit = .ok text := by
  obtain ⟨c, hc⟩ := mixedProgram_lowers
  have hiff := (emit_ok_iff_displayNames { debugInfo := true }).2 {} {} mixedProgram c hc
  exact ⟨c, hc, hiff.mpr fun _ => by decide +kernel⟩

/-- Two functions whose names are different but read as the same number. -/
def sevens : Program where
  types := some [⟨⟨0, "u8"⟩, "u8", none⟩]
  libfuncs := some [⟨⟨0, "7"⟩, "u8_wrapping_add", none⟩, ⟨⟨1, "07"⟩, "u8_wrapping_add", none⟩]

/-- An accepted program that cannot be written with debug info: the first function has lost
its subprogram to the second. -/
theorem emit_refuses_sevens :
    ∃ c, (lowerProgram {} {} sevens { debugInfo := true }).2 = .ok c ∧
      c.emit = .error [.notAttached "\"7\"", .count 1 2] := by
  have hfaults : (lowerProgram {} {} sevens { debugInfo := true }).2.toOption.map
      Compiler.debugFaults = some [.notAttached "\"7\"", .count 1 2] := by decide +kernel
  cases hr : (lowerProgram {} {} sevens { debugInfo := true }).2 with
  | error e =>
    rw [hr] at hfaults
    cases hfaults
  | ok c =>
    rw [hr] at hfaults
    refine ⟨c, rfl, ?_⟩
    rw [Compiler.emit, Option.some.inj hfaults]

end Lowering
end FeltLowering
