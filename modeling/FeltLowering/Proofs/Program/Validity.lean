import FeltLowering.Program.Validity
import Mathlib.Data.List.Nodup

/-
What validation reports.

A finding is a fault together with the position of the declaration that has it, and
`Finding.Holds` says by positions alone what it is for a program to have one.  The report
is the list of all findings, in the order of the program.  The declarations are gone
through once, with the ids seen so far as the only state; what carries the induction is
that these are the ids of the declarations passed.
-/
namespace FeltLowering

theorem GenericArg.kind_eq_invalid_iff (a : GenericArg) : a.kind = .invalid ↔ a.payloads ≠ 1 := by
  obtain ⟨value, type, userType, libfunc⟩ := a
  cases value <;> cases type <;> cases userType <;> cases libfunc <;> simp [kind, payloads]

/-! ## The faults of one declaration -/

/-- The place of a fault among those of one declaration. -/
def Fault.rank : Fault → Nat
  | .duplicateId => 0
  | .missingGenericId => 1
  | .payload index => index + 2

/-- A declaration behind the given ones has a fault. -/
def Fault.In (before : List Declaration) (d : Declaration) : Fault → Prop
  | .duplicateId => ∃ e ∈ before, e.id.id = d.id.id
  | .missingGenericId => d.genericId = []
  | .payload index => ∃ a, d.argList[index]? = some a ∧ a.payloads ≠ 1

namespace Declaration

/-- The arguments without exactly one payload, in order. -/
def payloadFaults (d : Declaration) : List Fault :=
  (d.argList.zipIdx.filter fun x => x.1.kind = .invalid).map fun x => .payload x.2

theorem faults_eq (d : Declaration) (seen : List UInt64) :
    d.faults seen =
      (if seen.contains d.id.id then [Fault.duplicateId] else []) ++
        (if d.genericId.isEmpty then [Fault.missingGenericId] else []) ++ d.payloadFaults := rfl

theorem mem_payloadFaults {d : Declaration} {f : Fault} :
    f ∈ d.payloadFaults ↔
      ∃ index a, f = .payload index ∧ d.argList[index]? = some a ∧ a.payloads ≠ 1 := by
  simp only [payloadFaults, List.mem_map, List.mem_filter, decide_eq_true_eq,
    GenericArg.kind_eq_invalid_iff, Prod.exists, List.mem_zipIdx_iff_getElem?]
  constructor
  · rintro ⟨a, index, ⟨ha, hpayloads⟩, rfl⟩
    exact ⟨index, a, rfl, ha, hpayloads⟩
  · rintro ⟨index, a, rfl, ha, hpayloads⟩
    exact ⟨a, index, ⟨ha, hpayloads⟩, rfl⟩

theorem mem_faults {d : Declaration} {before : List Declaration} {f : Fault} :
    f ∈ d.faults (before.map fun e => e.id.id) ↔ f.In before d := by
  rw [faults_eq, List.mem_append, List.mem_append, mem_payloadFaults]
  cases f with
  | duplicateId => simp [Fault.In]
  | missingGenericId => simp [Fault.In]
  | payload index => simp [Fault.In]

/-- Only which ids have been seen matters. -/
theorem faults_congr (d : Declaration) {seen seen' : List UInt64} (h : ∀ id, id ∈ seen ↔ id ∈ seen') :
    d.faults seen = d.faults seen' := by
  have hcontains : seen.contains d.id.id = seen'.contains d.id.id := by
    rw [Bool.eq_iff_iff, List.contains_iff_mem, List.contains_iff_mem]
    exact h d.id.id
  rw [faults_eq, faults_eq, hcontains]

theorem payloadFaults_pairwise (d : Declaration) :
    d.payloadFaults.Pairwise fun f g => f.rank < g.rank := by
  have hindexes : d.argList.zipIdx.Pairwise fun x y => x.2 < y.2 := by
    rw [← List.pairwise_map (f := Prod.snd) (R := (· < ·)), List.zipIdx_map_snd]
    exact List.pairwise_lt_range'
  rw [payloadFaults, List.pairwise_map]
  exact (hindexes.sublist List.filter_sublist).imp fun hlt => Nat.add_lt_add_right hlt 2

theorem faults_pairwise (d : Declaration) (seen : List UInt64) :
    (d.faults seen).Pairwise fun f g => f.rank < g.rank := by
  have hunit : ∀ {c : Bool} {f g : Fault}, g ∈ (if c then [f] else []) → g = f := by
    intro c f g hg
    cases c with
    | true => exact List.mem_singleton.mp hg
    | false => exact absurd hg List.not_mem_nil
  have hone : ∀ (c : Bool) (f : Fault),
      (if c then [f] else []).Pairwise fun f g => f.rank < g.rank := by
    intro c f
    cases c with
    | true => exact List.pairwise_singleton _ f
    | false => exact .nil
  rw [faults_eq]
  refine List.pairwise_append.mpr ⟨List.pairwise_append.mpr ⟨hone _ _, hone _ _, ?_⟩,
    d.payloadFaults_pairwise, ?_⟩
  · intro f hf g hg
    rw [hunit hf, hunit hg]
    decide
  · intro f hf g hg
    obtain ⟨index, a, rfl, -⟩ := mem_payloadFaults.mp hg
    have hrank : f.rank ≤ 1 := by
      rcases List.mem_append.mp hf with hf | hf
      · rw [hunit hf]
        decide
      · rw [hunit hf]
        decide
    show f.rank < index + 2
    omega

end Declaration

/-! ## The findings in a list of declarations -/

/-- A fault of the declaration of a kind at a position. -/
structure Finding where
  kind : DeclKind
  index : Nat
  fault : Fault
  deriving DecidableEq, Repr

def DeclKind.rank : DeclKind → Nat
  | .type => 0
  | .libfunc => 1

namespace Finding

/-- One finding is reported strictly before another: by the kind, then by the position, then
by the fault. -/
def Before (x y : Finding) : Prop :=
  x.kind.rank < y.kind.rank ∨ x.kind = y.kind ∧
    (x.index < y.index ∨ x.index = y.index ∧ x.fault.rank < y.fault.rank)

def HoldsIn (ds : List Declaration) (x : Finding) : Prop :=
  ∃ d, ds[x.index]? = some d ∧ x.fault.In (ds.take x.index) d

def problem? (ds : List Declaration) (x : Finding) : Option Problem :=
  ds[x.index]?.map fun d => ⟨x.kind, d.id, x.fault⟩

end Finding

namespace Declaration

/-- The findings in declarations that stand behind others. -/
def findings (kind : DeclKind) (before : List Declaration) : List Declaration → List Finding
  | [] => []
  | d :: rest =>
    (d.faults (before.map fun e => e.id.id)).map (Finding.mk kind before.length) ++
      findings kind (before ++ [d]) rest

variable {kind : DeclKind} {before rest : List Declaration}

/-- A finding at the first declaration behind others. -/
theorem holdsIn_here {d : Declaration} {f : Fault} :
    (Finding.mk kind before.length f).HoldsIn (before ++ d :: rest) ↔ f.In before d := by
  simp [Finding.HoldsIn]

theorem mem_findings {x : Finding} :
    x ∈ findings kind before rest ↔
      x.kind = kind ∧ before.length ≤ x.index ∧ x.HoldsIn (before ++ rest) := by
  induction rest generalizing before with
  | nil =>
    refine ⟨fun h => absurd h List.not_mem_nil, ?_⟩
    rintro ⟨-, hindex, d, hd, -⟩
    rw [List.append_nil, List.getElem?_eq_none hindex] at hd
    cases hd
  | cons d rest ih =>
    have hsplit : before ++ [d] ++ rest = before ++ d :: rest := List.append_cons before d rest |>.symm
    rw [findings, List.mem_append, ih, hsplit, List.length_append, List.length_singleton]
    constructor
    · rintro (hx | ⟨hkind, hindex, hholds⟩)
      · obtain ⟨f, hf, rfl⟩ := List.mem_map.mp hx
        exact ⟨rfl, Nat.le_refl _, holdsIn_here.mpr (mem_faults.mp hf)⟩
      · exact ⟨hkind, Nat.le_of_succ_le hindex, hholds⟩
    · rintro ⟨hkind, hindex, hholds⟩
      rcases Nat.eq_or_lt_of_le hindex with heq | hlt
      · obtain ⟨xkind, xindex, fault⟩ := x
        obtain rfl : xkind = kind := hkind
        obtain rfl : before.length = xindex := heq
        exact Or.inl (List.mem_map_of_mem (mem_faults.mpr (holdsIn_here.mp hholds)))
      · exact Or.inr ⟨hkind, hlt, hholds⟩

theorem findings_pairwise : (findings kind before rest).Pairwise Finding.Before := by
  induction rest generalizing before with
  | nil => exact .nil
  | cons d rest ih =>
    refine List.pairwise_append.mpr ⟨?_, ih, ?_⟩
    · rw [List.pairwise_map]
      exact (d.faults_pairwise _).imp fun hlt => Or.inr ⟨rfl, Or.inr ⟨rfl, hlt⟩⟩
    · intro x hx y hy
      obtain ⟨f, -, rfl⟩ := List.mem_map.mp hx
      obtain ⟨hkind, hindex, -⟩ := mem_findings.mp hy
      rw [List.length_append, List.length_singleton] at hindex
      exact Or.inr ⟨hkind.symm, Or.inl hindex⟩

/-- The ids seen are those of the declarations passed, so every finding is reported. -/
theorem problems_eq_findings {seen : List UInt64}
    (hseen : ∀ id, id ∈ seen ↔ id ∈ before.map fun e => e.id.id) :
    (problems kind seen rest).map some =
      (findings kind before rest).map (Finding.problem? (before ++ rest)) := by
  induction rest generalizing before seen with
  | nil => rfl
  | cons d rest ih =>
    have hnext : ∀ id, id ∈ d.id.id :: seen ↔ id ∈ (before ++ [d]).map fun e => e.id.id := by
      intro id
      rw [List.mem_cons, hseen, List.map_append, List.mem_append, List.map_singleton,
        List.mem_singleton, or_comm]
    have hhere : ∀ f, Finding.problem? (before ++ d :: rest) ⟨kind, before.length, f⟩ =
        some ⟨kind, d.id, f⟩ := by
      intro f
      simp [Finding.problem?]
    rw [problems, findings, List.map_append, List.map_append, ih hnext, ← List.append_cons,
      d.faults_congr hseen, List.map_map, List.map_map]
    congr 1
    exact List.map_congr_left fun f _ => (hhere f).symm

/-- Declarations of one kind without a fault. -/
def WellStructured (ds : List Declaration) : Prop :=
  (ds.map fun d => d.id.id).Nodup ∧
    ∀ d ∈ ds, d.genericId ≠ [] ∧ ∀ a ∈ d.argList, a.payloads = 1

theorem nodup_ids_iff {ds : List Declaration} :
    (ds.map fun d => d.id.id).Nodup ↔
      ∀ (i : Nat) (d : Declaration), ds[i]? = some d → ¬ Fault.duplicateId.In (ds.take i) d := by
  rw [List.Nodup, List.pairwise_map, List.pairwise_iff_getElem]
  constructor
  · rintro h i d hd ⟨e, he, hid⟩
    obtain ⟨hi, rfl⟩ := List.getElem?_eq_some_iff.mp hd
    obtain ⟨j, hj, rfl⟩ := List.mem_take_iff_getElem.mp he
    exact h j i (by omega) hi (by omega) hid
  · intro h i j hi hj hlt hid
    refine h j ds[j] (List.getElem?_eq_getElem hj) ⟨ds[i], ?_, hid⟩
    exact List.mem_take_iff_getElem.mpr ⟨i, by omega, rfl⟩

theorem wellStructured_iff (kind : DeclKind) (ds : List Declaration) :
    WellStructured ds ↔ ∀ x : Finding, x.kind = kind → ¬ x.HoldsIn ds := by
  constructor
  · rintro ⟨hids, hds⟩ ⟨_, index, fault⟩ rfl ⟨d, hd, hfault⟩
    obtain ⟨hgeneric, hargs⟩ := hds d (List.mem_of_getElem? hd)
    cases fault with
    | duplicateId => exact nodup_ids_iff.mp hids index d hd hfault
    | missingGenericId => exact hgeneric hfault
    | payload n =>
      obtain ⟨a, ha, hpayloads⟩ := hfault
      exact hpayloads (hargs a (List.mem_of_getElem? ha))
  · intro h
    refine ⟨nodup_ids_iff.mpr fun i d hd hdup => h ⟨kind, i, .duplicateId⟩ rfl ⟨d, hd, hdup⟩, ?_⟩
    intro d hmem
    obtain ⟨i, hd⟩ := List.mem_iff_getElem?.mp hmem
    refine ⟨fun hmiss => h ⟨kind, i, .missingGenericId⟩ rfl ⟨d, hd, hmiss⟩, fun a ha => ?_⟩
    obtain ⟨n, hn⟩ := List.mem_iff_getElem?.mp ha
    by_contra hpayloads
    exact h ⟨kind, i, .payload n⟩ rfl ⟨d, hd, a, hn, hpayloads⟩

end Declaration

/-! ## The report on a program -/

namespace Program

def declarations (p : Program) : DeclKind → List Declaration
  | .type => p.typeList
  | .libfunc => p.libfuncList

def findings (p : Program) : List Finding :=
  Declaration.findings .type [] p.typeList ++ Declaration.findings .libfunc [] p.libfuncList

variable {p : Program}

theorem mem_findings {x : Finding} : x ∈ p.findings ↔ x.HoldsIn (p.declarations x.kind) := by
  obtain ⟨kind, index, fault⟩ := x
  rw [findings, List.mem_append, Declaration.mem_findings, Declaration.mem_findings]
  cases kind with
  | type => simp [declarations]
  | libfunc => simp [declarations]

theorem findings_pairwise (p : Program) : p.findings.Pairwise Finding.Before := by
  refine List.pairwise_append.mpr
    ⟨Declaration.findings_pairwise, Declaration.findings_pairwise, fun x hx y hy => Or.inl ?_⟩
  rw [(Declaration.mem_findings.mp hx).1, (Declaration.mem_findings.mp hy).1]
  decide

theorem problems_eq_findings (p : Program) :
    p.problems.map some = p.findings.map fun x => x.problem? (p.declarations x.kind) := by
  have hkind : ∀ kind, (Declaration.problems kind [] (p.declarations kind)).map some =
      (Declaration.findings kind [] (p.declarations kind)).map
        fun x => x.problem? (p.declarations x.kind) := by
    intro kind
    have hnone : ∀ id : UInt64, id ∈ ([] : List UInt64) ↔ id ∈ ([] : List Declaration).map fun e => e.id.id :=
      fun _ => Iff.rfl
    rw [Declaration.problems_eq_findings hnone]
    refine List.map_congr_left fun x hx => ?_
    rw [(Declaration.mem_findings.mp hx).1, List.nil_append]
  rw [problems, findings, List.map_append, List.map_append]
  exact congrArg₂ _ (hkind .type) (hkind .libfunc)

theorem isValid_iff (p : Program) :
    p.IsValid ↔ Declaration.WellStructured p.typeList ∧ Declaration.WellStructured p.libfuncList := by
  have hnone : p.IsValid ↔ ∀ x : Finding, ¬ x.HoldsIn (p.declarations x.kind) := by
    rw [IsValid, ← List.map_eq_nil_iff (f := some), problems_eq_findings, List.map_eq_nil_iff,
      List.eq_nil_iff_forall_not_mem]
    exact forall_congr' fun x => not_congr mem_findings
  rw [hnone, Declaration.wellStructured_iff .type, Declaration.wellStructured_iff .libfunc]
  constructor
  · intro h
    refine ⟨fun x hx => ?_, fun x hx => ?_⟩
    · have hfree := h x
      rwa [hx] at hfree
    · have hfree := h x
      rwa [hx] at hfree
  · rintro ⟨htypes, hlibfuncs⟩ x
    cases hx : x.kind with
    | type => exact htypes x hx
    | libfunc => exact hlibfuncs x hx

end Program

/-- A program is valid exactly if ids are unique among the types and among the libfuncs, and
every declaration has a generic id and arguments of one payload each.  Otherwise the report
has the problem of every finding, once and in order, and nothing else.  Types and libfuncs
are looked at apart, so they may share ids. -/
theorem validation_finds_every_fault (p : Program) :
    (p.IsValid ↔ (p.typeList.map fun d => d.id.id).Nodup ∧
      (p.libfuncList.map fun d => d.id.id).Nodup ∧
      ∀ d ∈ p.typeList ++ p.libfuncList, d.genericId ≠ [] ∧ ∀ a ∈ d.argList, a.payloads = 1) ∧
    (∃ found : List Finding, found.Pairwise Finding.Before ∧
      (∀ x, x ∈ found ↔ x.HoldsIn (p.declarations x.kind)) ∧
      p.problems.map some = found.map fun x => x.problem? (p.declarations x.kind)) ∧
    p.problems = Program.problems { types := p.types } ++ Program.problems { libfuncs := p.libfuncs } := by
  refine ⟨?_, ⟨p.findings, p.findings_pairwise, fun _ => Program.mem_findings,
    p.problems_eq_findings⟩, ?_⟩
  · rw [p.isValid_iff]
    constructor
    · rintro ⟨⟨htypes, htype⟩, hlibfuncs, hlibfunc⟩
      refine ⟨htypes, hlibfuncs, fun d hd => ?_⟩
      exact (List.mem_append.mp hd).elim (htype d) (hlibfunc d)
    · rintro ⟨htypes, hlibfuncs, hall⟩
      exact ⟨⟨htypes, fun d hd => hall d (List.mem_append_left _ hd)⟩,
        hlibfuncs, fun d hd => hall d (List.mem_append_right _ hd)⟩
  · exact congrArg₂ _ (List.append_nil _).symm rfl

/-- An id that three types and a libfunc share is reported twice, and a declaration can have
all faults at once. -/
example :
    Program.problems
      { types := some [⟨⟨3, []⟩, "felt", none⟩, ⟨⟨3, []⟩, [], some [{}]⟩, ⟨⟨3, []⟩, "felt", none⟩]
        libfuncs := some [⟨⟨3, []⟩, "felt_const",
          some [{ value := some "1" }, { value := some "1", userType := some "t" }]⟩] } =
      [⟨.type, ⟨3, []⟩, .duplicateId⟩, ⟨.type, ⟨3, []⟩, .missingGenericId⟩,
        ⟨.type, ⟨3, []⟩, .payload 0⟩, ⟨.type, ⟨3, []⟩, .duplicateId⟩,
        ⟨.libfunc, ⟨3, []⟩, .payload 1⟩] := by decide

end FeltLowering
