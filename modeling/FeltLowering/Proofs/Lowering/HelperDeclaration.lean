import FeltLowering.Proofs.Lowering.Reduction

/-
Declaring the reduction helper.

The call has four outcomes (`Compiler.declareHelper_outcome`).  It returns the helper there
is, is refused because there is no field element type, is refused because the name of the
helper is taken, or lowers the helper.  The wide type is entered before the name is looked
at, so the third outcome is not atomic: it leaves the wide type behind, once.  Nothing else
is left, and the same call made again leaves nothing.

A helper that was returned is returned from then on, by calls that change nothing.  So a run
makes one helper at most, and one wide type.
-/
namespace FeltLowering
namespace Lowering

open Ir

namespace Compiler

def HelperNameTaken (c : Compiler) : Prop := helperName ∈ c.module.functions.map Function.name

def withWide (c : Compiler) : Compiler :=
  c.insertType wideKey "felt_wide" (c.registry.fresh (.int Felt.wideWidth))

variable {c : Compiler}

theorem wideSlot_of_none (h : c.registry.lookup? wideKey = none) : c.wideSlot.1 = c.withWide := by
  unfold wideSlot
  rw [h]
  rfl

theorem wideSlot_of_isSome (h : (c.registry.lookup? wideKey).isSome) : c.wideSlot.1 = c := by
  obtain ⟨slot, hslot⟩ := Option.isSome_iff_exists.mp h
  unfold wideSlot
  rw [hslot]

theorem wideSlot_coherent (hc : c.Coherent) : c.wideSlot.1.Coherent :=
  c.wideSlot_reaches.1.induction (fun hmove => hmove.coherent) hc

theorem withWide_registry (c : Compiler) :
    c.withWide.registry = c.registry.add wideKey (c.registry.fresh (.int Felt.wideWidth)) :=
  insertType_registry _ _ _ _

theorem withWide_frame (c : Compiler) :
    c.withWide.module.functions = c.module.functions ∧ c.withWide.table = c.table ∧
      c.withWide.helper = c.helper ∧ c.withWide.line = c.line :=
  ⟨describeType_functions _ _ _ _, describeType_table _ _ _ _, describeType_helper _ _ _ _,
    describeType_line _ _ _ _⟩

theorem withWide_debug (c : Compiler) :
    c.withWide.debug = c.debug.map fun d =>
      { d with nextId := d.nextId + 1, types := d.types ++ [(wideKey, .node d.nextId)] } :=
  describeType_debug _ _ _ _

theorem describeType_definitions_length (c : Compiler) (key name : Text) (size : Nat) :
    (c.describeType key name size).module.definitions.length =
      c.module.definitions.length + if c.debugInfo then 1 else 0 := by
  cases hd : c.debug with
  | none =>
    rw [describeType_of_none key name size hd, debugInfo, hd]
    rfl
  | some d =>
    rw [describeType_of_some key name size hd, debugInfo, hd, define_definitions, List.length_append]
    rfl

theorem withWide_definitions (c : Compiler) :
    c.withWide.module.definitions.length =
      c.module.definitions.length + if c.debugInfo then 1 else 0 :=
  describeType_definitions_length _ _ _ _

theorem withWide_ne (c : Compiler) : c.withWide ≠ c := by
  intro h
  have hlen := congrArg (fun c => c.registry.entries.length) h
  simp only [withWide_registry, Registry.entries_add, List.length_append, List.length_singleton]
    at hlen
  omega

/-! ## One call -/

/-- Lowering the helper fails only on its name. -/
theorem lower_helper (hc : c.Coherent) {felt wide : Slot}
    (hfelt : c.registry.lookupName? "felt" = some felt)
    (hwide : c.registry.lookup? wideKey = some wide) :
    (c.HelperNameTaken →
        c.lower helperName felt [wide] .reduce = .error (.defined .reduce helperName)) ∧
      (¬ c.HelperNameTaken → ∃ done, c.lower helperName felt [wide] .reduce = .ok done) := by
  constructor
  · intro htaken
    have hpos : (c.position? helperName).isSome := by
      rw [Option.isSome_iff_ne_none]
      exact fun hnone => (hc.tabled.position?_eq_none_iff _).mp hnone htaken
    have hcheck : c.checkBody helperName [wide] .reduce = .error (.defined .reduce helperName) := by
      unfold checkBody
      rw [if_neg fun h => h rfl, if_neg (by decide), if_pos hpos]
      rfl
    rw [lower_eq, hcheck]
    rfl
  · intro hfree
    have hslots := Registry.holds_felt_wide hfelt hwide
    have hfeltTy := (hc.registry.builtinTy hfelt).felt
    have hwideTy := hc.registry.wide wide hwide
    refine (lower_ok_iff hc.tabled hc.paired hslots).mpr
      ⟨rfl, by decide, hfree, trivial, Code.reduce Felt.wideWidth Felt.width, ?_⟩
    rw [List.map_singleton, hfeltTy, hwideTy]
    rfl

/-- The four outcomes of a call. -/
inductive HelperOutcome (c : Compiler) :
    Compiler × Except LowerError (Helper × Option Summary) → Prop
  | there {hlp : Helper} (h : c.helper = some hlp) : HelperOutcome c (c, .ok (hlp, none))
  | noFelt (hnone : c.helper = none) (hfelt : c.registry.lookupName? "felt" = none) :
      HelperOutcome c (c, .error (.fatal helperName .helperBeforeFelt))
  | taken {felt : Slot} (hnone : c.helper = none)
      (hfelt : c.registry.lookupName? "felt" = some felt) (htaken : c.HelperNameTaken) :
      HelperOutcome c (c.wideSlot.1, .error (.defined .reduce helperName))
  | lowered {felt : Slot} {done : Lowered} (hnone : c.helper = none)
      (hfelt : c.registry.lookupName? "felt" = some felt) (hfree : ¬ c.HelperNameTaken)
      (hdone : c.wideSlot.1.lower helperName felt [c.wideSlot.2] .reduce = .ok done) :
      HelperOutcome c
        ({ done.compiler with helper := some ⟨c.wideSlot.1.module.functions.length⟩ },
          .ok (⟨c.wideSlot.1.module.functions.length⟩, some done.toSummary))

theorem declareHelper_outcome (hc : c.Coherent) : HelperOutcome c c.declareHelper := by
  obtain ⟨-, hfunctions, -, -⟩ := c.wideSlot_frame
  have htakenIff : c.wideSlot.1.HelperNameTaken ↔ c.HelperNameTaken := by
    unfold HelperNameTaken
    rw [hfunctions]
  rw [declareHelper_eq]
  cases hh : c.helper with
  | some hlp => exact .there hh
  | none =>
    cases hf : c.registry.lookupName? "felt" with
    | none => exact .noFelt hh hf
    | some felt =>
      obtain ⟨hrefused, hok⟩ := lower_helper (wideSlot_coherent hc) (lookupName?_wideSlot hf)
        c.wideSlot_reaches.2
      by_cases htaken : c.HelperNameTaken
      · simp only [hrefused (htakenIff.mpr htaken)]
        exact .taken hh hf htaken
      · obtain ⟨done, hdone⟩ := hok fun h => htaken (htakenIff.mp h)
        simp only [hdone]
        exact .lowered hh hf htaken hdone

def helperMade (c : Compiler) : List Helper :=
  match c.declareHelper.2 with
  | .ok (hlp, some _) => [hlp]
  | _ => []

theorem helperMade_of_some {hlp : Helper} (h : c.helper = some hlp) : c.helperMade = [] := by
  rw [helperMade, declareHelper_eq, h]

theorem helperMade_cases (c : Compiler) :
    c.helperMade = [] ∨ ∃ hlp, c.helperMade = [hlp] ∧ c.declareHelper.1.helper = some hlp := by
  unfold helperMade
  split
  · next hlp done h => exact .inr ⟨hlp, rfl, helper_of_declareHelper h⟩
  · exact .inl rfl

/-! ## Internal types -/

/-- The wide type is the only internal one. -/
def OneInternal (c : Compiler) : Prop :=
  ∀ s ∈ c.registry.entries, s.key.head? = some internalMark → s.key = wideKey

theorem OneInternal.add {c' : Compiler} (h : c.OneInternal) (key : Text) (type : Handle)
    (hentries : c'.registry.entries = c.registry.entries ++ [⟨key, type⟩])
    (hkey : key.head? = some internalMark → key = wideKey) : c'.OneInternal := by
  intro s hs
  rw [hentries] at hs
  rcases List.mem_append.mp hs with hold | hnew
  · exact h s hold
  · rw [List.mem_singleton.mp hnew]
    exact hkey

theorem OneInternal.congr {c' : Compiler} (h : c.OneInternal)
    (hregistry : c'.registry = c.registry) : c'.OneInternal := by
  unfold OneInternal
  rw [hregistry]
  exact h

theorem Move.oneInternal {c' : Compiler} (h : Move c c') (hc : c.OneInternal) : c'.OneInternal := by
  have hbuiltin : ∀ (d : Declaration) (builtin : Text) (type : Handle),
      (c.addBuiltin d builtin type).OneInternal := by
    intro d builtin type
    refine hc.add d.id.key type ?_ fun h => absurd h (Ident.key_head?_ne d.id)
    rw [addBuiltin_registry, Registry.entries_addName, Registry.entries_add]
  cases h with
  | line line => exact hc
  | @type _ d h =>
    rcases (declareType_eq_ok_iff.mp h).2 with ⟨-, rfl⟩ | ⟨w, -, rfl⟩ | ⟨inner, slot, -, -, rfl⟩
    · exact hbuiltin _ _ _
    · exact hbuiltin _ _ _
    · refine hc.add d.id.key slot.type ?_ fun h => absurd h (Ident.key_head?_ne d.id)
      rw [aliasType_registry, Registry.entries_add]
  | wide h =>
    refine hc.add wideKey (c.registry.fresh (.int Felt.wideWidth)) ?_ fun _ => rfl
    rw [insertType_registry, Registry.entries_add]
  | function _ _ h => exact hc.congr (lower_frame h).1
  | helper _ _ _ h => exact hc.congr (lower_frame h).1

theorem new_oneInternal (o : Options) : (new o).OneInternal := by
  unfold new
  cases o.debugInfo with
  | true => exact nofun
  | false => exact nofun

def internals (c : Compiler) : List Slot :=
  c.registry.entries.filter fun s => s.key.head? = some internalMark

/-- Keys are not repeated, so there is one internal entry at most. -/
theorem OneInternal.length_le (h : c.OneInternal) (hc : c.registry.Sound) :
    c.internals.length ≤ 1 := by
  have hnodup : (c.internals.map Slot.key).Nodup :=
    hc.keys.sublist (List.filter_sublist.map Slot.key)
  have hsame : ∀ key ∈ c.internals.map Slot.key, key = wideKey := by
    intro key hkey
    obtain ⟨s, hs, rfl⟩ := List.mem_map.mp hkey
    obtain ⟨hmem, hmark⟩ := List.mem_filter.mp hs
    exact h s hmem (of_decide_eq_true hmark)
  rw [List.eq_replicate_of_mem hsame, List.nodup_replicate, List.length_map] at hnodup
  exact hnodup

end Compiler

/-! ## Sessions -/

namespace Session

variable {s : Session}

def helperAnswer (s : Session) : Except LowerError Helper := (s.progress.declareHelper s.span).2

def afterHelper (s : Session) : Session := s.serve (.operation .declareHelper)

/-- The helpers that the calls of a run lower, in order. -/
def helpersMade : Session → List Request → List Helper
  | _, [] => []
  | s, request :: rest =>
    (if request.isHelper then s.compiler.helperMade else []) ++ (s.serve request).helpersMade rest

theorem helperAnswer_eq (s : Session) :
    s.helperAnswer = s.compiler.declareHelper.2.map Prod.fst := by
  show (s.progress.declareHelper s.span).2 = s.progress.compiler.declareHelper.2.map Prod.fst
  match hrun : s.progress.compiler.declareHelper with
  | (c, .error e) =>
    rw [Progress.declareHelper_of_error hrun]
    rfl
  | (c, .ok (h, none)) =>
    rw [Progress.declareHelper_of_none hrun]
    rfl
  | (c, .ok (h, some f)) =>
    rw [Progress.declareHelper_of_some hrun]
    rfl

theorem afterHelper_compiler (s : Session) : s.afterHelper.compiler = s.compiler.declareHelper.1 :=
  s.progress.declareHelper_compiler s.span

/-- A call that lowers nothing touches the compiler only. -/
theorem afterHelper_of_quiet {c : Compiler} {r : Except LowerError (Helper × Option Summary)}
    (h : s.compiler.declareHelper = (c, r)) (hquiet : ∀ hlp done, r ≠ .ok (hlp, some done)) :
    s.helperAnswer = r.map Prod.fst ∧
      s.afterHelper = { s with progress := { s.progress with compiler := c } } := by
  constructor
  · rw [helperAnswer_eq, h]
  have hprogress : (s.progress.declareHelper s.span).1 = { s.progress with compiler := c } := by
    match r, h, hquiet with
    | .error e, h, _ => rw [Progress.declareHelper_of_error h]
    | .ok (hlp, none), h, _ => rw [Progress.declareHelper_of_none h]
    | .ok (hlp, some done), _, hquiet => exact absurd rfl (hquiet hlp done)
  exact congrArg (fun progress => { s with progress }) hprogress

/-- Where there is a helper it is returned, and the session stays as it is. -/
theorem afterHelper_of_helper {hlp : Helper} (h : s.compiler.helper = some hlp) :
    s.helperAnswer = .ok hlp ∧ s.afterHelper = s := by
  have hdeclare : s.compiler.declareHelper = (s.compiler, .ok (hlp, none)) := by
    rw [Compiler.declareHelper_eq, h]
  exact afterHelper_of_quiet hdeclare nofun

theorem helper_of_helperAnswer {hlp : Helper} (h : s.helperAnswer = .ok hlp) :
    s.afterHelper.compiler.helper = some hlp := by
  rw [helperAnswer_eq] at h
  cases hr : s.compiler.declareHelper.2 with
  | error e =>
    rw [hr] at h
    cases h
  | ok r =>
    rw [hr] at h
    cases h
    rw [afterHelper_compiler]
    exact Compiler.helper_of_declareHelper hr

theorem helpersMade_of_helper {hlp : Helper} (h : s.compiler.helper = some hlp)
    (requests : List Request) : s.helpersMade requests = [] := by
  induction requests generalizing s with
  | nil => rfl
  | cons request rest ih =>
    have hkept : (s.serve request).compiler.helper = some hlp := serveAll_helper [request] h
    rw [helpersMade, ih hkept, Compiler.helperMade_of_some h, ite_self, List.append_nil]

/-- After the first helper none is lowered. -/
theorem helpersMade_length_le (s : Session) (requests : List Request) :
    (s.helpersMade requests).length ≤ 1 := by
  induction requests generalizing s with
  | nil => exact Nat.zero_le 1
  | cons request rest ih =>
    rw [helpersMade]
    by_cases hhelper : request.isHelper = true
    · rw [if_pos hhelper]
      obtain rfl : request = .operation .declareHelper := by
        cases request with
        | lower name result params body => cases hhelper
        | operation op => cases op <;> first | rfl | cases hhelper
      rcases s.compiler.helperMade_cases with hnone | ⟨hlp, hmade, hhlp⟩
      · rw [hnone, List.nil_append]
        exact ih _
      · rw [← afterHelper_compiler] at hhlp
        rw [hmade, show (s.serve (.operation .declareHelper)).helpersMade rest = [] from
          helpersMade_of_helper hhlp rest]
        exact Nat.le_refl 1
    · rw [if_neg hhelper, List.nil_append]
      exact ih _

theorem InUse.oneInternal (h : s.InUse) : s.compiler.OneInternal :=
  h.preserves Compiler.new_oneInternal (fun hmove => hmove.oneInternal)
    fun hdone hc => hc.congr (Compiler.lower_frame hdone).1

theorem afterHelper_of_noFelt (hnone : s.compiler.helper = none)
    (hfelt : s.compiler.registry.lookupName? "felt" = none) :
    s.helperAnswer = .error (.fatal helperName .helperBeforeFelt) ∧ s.afterHelper = s := by
  have hdeclare : s.compiler.declareHelper =
      (s.compiler, .error (.fatal helperName .helperBeforeFelt)) := by
    rw [Compiler.declareHelper_eq, hnone, hfelt]
  exact afterHelper_of_quiet hdeclare nofun

theorem afterHelper_of_taken (hc : s.compiler.Coherent) (hnone : s.compiler.helper = none)
    {felt : Slot} (hfelt : s.compiler.registry.lookupName? "felt" = some felt)
    (htaken : s.compiler.HelperNameTaken) :
    s.helperAnswer = .error (.defined .reduce helperName) ∧
      s.afterHelper = { s with progress := { s.progress with compiler := s.compiler.wideSlot.1 } } := by
  have hdeclare : s.compiler.declareHelper =
      (s.compiler.wideSlot.1, .error (.defined .reduce helperName)) := by
    have hout := Compiler.declareHelper_outcome hc
    generalize s.compiler.declareHelper = r at hout
    cases hout with
    | there h =>
      rw [hnone] at h
      cases h
    | noFelt _ h =>
      rw [hfelt] at h
      cases h
    | taken _ _ _ => rfl
    | lowered _ _ hfree _ => exact absurd htaken hfree
  exact afterHelper_of_quiet hdeclare nofun

/-- The calls that are refused. -/
theorem helperAnswer_eq_error_iff (hc : s.compiler.Coherent) {e : LowerError} :
    s.helperAnswer = .error e ↔ s.compiler.helper = none ∧
      ((s.compiler.registry.lookupName? "felt" = none ∧
          e = .fatal helperName .helperBeforeFelt) ∨
        ((∃ felt, s.compiler.registry.lookupName? "felt" = some felt) ∧
          s.compiler.HelperNameTaken ∧ e = .defined .reduce helperName)) := by
  constructor
  · intro h
    rw [helperAnswer_eq] at h
    have hout := Compiler.declareHelper_outcome hc
    generalize s.compiler.declareHelper = r at hout h
    cases hout with
    | there _ => cases h
    | noFelt hnone hfelt =>
      cases h
      exact ⟨hnone, .inl ⟨hfelt, rfl⟩⟩
    | taken hnone hfelt htaken =>
      cases h
      exact ⟨hnone, .inr ⟨⟨_, hfelt⟩, htaken, rfl⟩⟩
    | lowered _ _ _ _ => cases h
  · rintro ⟨hnone, ⟨hfelt, rfl⟩ | ⟨⟨felt, hfelt⟩, htaken, rfl⟩⟩
    · exact (afterHelper_of_noFelt hnone hfelt).1
    · exact (afterHelper_of_taken hc hnone hfelt htaken).1

/-- What a refused call leaves: nothing, or the wide type. -/
theorem afterHelper_of_error (hc : s.compiler.Coherent) {e : LowerError}
    (h : s.helperAnswer = .error e) :
    ((s.compiler.registry.lookupName? "felt" = none ∨
          (s.compiler.registry.lookup? wideKey).isSome) ∧ s.afterHelper = s) ∨
      ((∃ felt, s.compiler.registry.lookupName? "felt" = some felt) ∧
        s.compiler.registry.lookup? wideKey = none ∧
        s.afterHelper = { s with progress := { s.progress with compiler := s.compiler.withWide } }) := by
  obtain ⟨hnone, ⟨hfelt, -⟩ | ⟨⟨felt, hfelt⟩, htaken, -⟩⟩ := (helperAnswer_eq_error_iff hc).mp h
  · exact .inl ⟨.inl hfelt, (afterHelper_of_noFelt hnone hfelt).2⟩
  · have hafter := (afterHelper_of_taken hc hnone hfelt htaken).2
    cases hwide : s.compiler.registry.lookup? wideKey with
    | none =>
      rw [Compiler.wideSlot_of_none hwide] at hafter
      exact .inr ⟨⟨felt, hfelt⟩, rfl, hafter⟩
    | some slot =>
      rw [Compiler.wideSlot_of_isSome (by rw [hwide]; rfl)] at hafter
      exact .inl ⟨.inr rfl, hafter⟩

/-- The same call again is refused alike, and leaves nothing more. -/
theorem afterHelper_afterHelper (hs : s.InUse) {e : LowerError} (h : s.helperAnswer = .error e) :
    s.afterHelper.helperAnswer = .error e ∧ s.afterHelper.afterHelper = s.afterHelper := by
  have hc := hs.coherent
  rcases afterHelper_of_error hc h with ⟨-, hsame⟩ | ⟨⟨felt, hfelt⟩, hwide, hafter⟩
  · rw [hsame]
    exact ⟨h, hsame⟩
  · obtain ⟨hnone, ⟨hnoFelt, -⟩ | ⟨-, htaken, rfl⟩⟩ := (helperAnswer_eq_error_iff hc).mp h
    · rw [hfelt] at hnoFelt
      cases hnoFelt
    have hcompiler : s.afterHelper.compiler = s.compiler.wideSlot.1 := by
      rw [hafter, Compiler.wideSlot_of_none hwide]
      rfl
    obtain ⟨hhelper, hfunctions, -, -⟩ := s.compiler.wideSlot_frame
    have hc' : s.afterHelper.compiler.Coherent := (hs.serve _).coherent
    have hnone' : s.afterHelper.compiler.helper = none := by rw [hcompiler, hhelper, hnone]
    have hfelt' : s.afterHelper.compiler.registry.lookupName? "felt" = some felt := by
      rw [hcompiler]
      exact Compiler.lookupName?_wideSlot hfelt
    have htaken' : s.afterHelper.compiler.HelperNameTaken := by
      unfold Compiler.HelperNameTaken
      rw [hcompiler, hfunctions]
      exact htaken
    have hwide' : (s.afterHelper.compiler.registry.lookup? wideKey).isSome := by
      rw [hcompiler, s.compiler.wideSlot_reaches.2]
      rfl
    obtain ⟨hanswer, hagain⟩ := afterHelper_of_taken hc' hnone' hfelt' htaken'
    rw [Compiler.wideSlot_of_isSome hwide'] at hagain
    exact ⟨hanswer, hagain⟩

end Session

/-- Declaring the helper is refused exactly if there is none and either no field element
type is declared or the name is taken.  A refused call changes nothing exactly if there is
no such type or the wide type is registered already; otherwise it adds the wide type to the
registry, the debug types and the metadata, and nothing to that when it is made again.  A
helper that was returned is returned by all later calls, which change nothing, and a run
makes one helper and one internal type at most. -/
theorem helper_declaration_effects {s : Session} (hs : s.InUse) :
    (∀ e, s.helperAnswer = .error e ↔ s.compiler.helper = none ∧
      ((s.compiler.registry.lookupName? "felt" = none ∧
          e = .fatal helperName .helperBeforeFelt) ∨
        ((∃ felt, s.compiler.registry.lookupName? "felt" = some felt) ∧
          s.compiler.HelperNameTaken ∧ e = .defined .reduce helperName))) ∧
    (∀ e, s.helperAnswer = .error e →
      let t := s.afterHelper
      (t = s ↔ s.compiler.registry.lookupName? "felt" = none ∨
        (s.compiler.registry.lookup? wideKey).isSome) ∧
      (t.compiler.module.functions = s.compiler.module.functions ∧
        t.compiler.table = s.compiler.table ∧ t.compiler.helper = s.compiler.helper ∧
        t.compiler.line = s.compiler.line ∧ t.progress.journal = s.progress.journal) ∧
      (t ≠ s →
        t.compiler.registry =
          s.compiler.registry.add wideKey (s.compiler.registry.fresh (.int Felt.wideWidth)) ∧
        t.compiler.debug = s.compiler.debug.map (fun d =>
          { d with nextId := d.nextId + 1, types := d.types ++ [(wideKey, .node d.nextId)] }) ∧
        t.compiler.module.definitions.length = s.compiler.module.definitions.length +
          if s.compiler.debugInfo then 1 else 0) ∧
      t.helperAnswer = .error e ∧ t.afterHelper = t) ∧
    (∀ hlp, s.helperAnswer = .ok hlp → ∀ later,
      let t := s.afterHelper.serveAll later
      t.helperAnswer = .ok hlp ∧ t.afterHelper = t) ∧
    ∀ requests, (s.helpersMade requests).length ≤ 1 ∧
      (s.compiler.helper ≠ none → s.helpersMade requests = []) ∧
      (s.serveAll requests).compiler.internals.length ≤ 1 := by
  have hc := hs.coherent
  refine ⟨fun e => Session.helperAnswer_eq_error_iff hc, fun e he => ?_, fun hlp hok later => ?_,
    fun requests => ⟨s.helpersMade_length_le requests, fun hsome => ?_, ?_⟩⟩
  · intro t
    have hagain := Session.afterHelper_afterHelper hs he
    rcases Session.afterHelper_of_error hc he with ⟨hwhen, hsame⟩ | ⟨⟨felt, hfelt⟩, hwide, hafter⟩
    · have ht : t = s := hsame
      refine ⟨⟨fun _ => hwhen, fun _ => ht⟩, ?_, fun hne => absurd ht hne, hagain⟩
      rw [ht]
      exact ⟨rfl, rfl, rfl, rfl, rfl⟩
    · have hcompiler : t.compiler = s.compiler.withWide := congrArg Session.compiler hafter
      have hne : t ≠ s := fun h =>
        s.compiler.withWide_ne (hcompiler.symm.trans (congrArg Session.compiler h))
      have hleft : ¬ (s.compiler.registry.lookupName? "felt" = none ∨
          (s.compiler.registry.lookup? wideKey).isSome) := by
        rw [hfelt, hwide]
        simp
      obtain ⟨hfunctions, htable, hhelper, hline⟩ := s.compiler.withWide_frame
      have hjournal : t.progress.journal = s.progress.journal := by
        rw [show t = _ from hafter]
      refine ⟨iff_of_false hne hleft, ?_, fun _ => ?_, hagain⟩
      · rw [hcompiler]
        exact ⟨hfunctions, htable, hhelper, hline, hjournal⟩
      · rw [hcompiler]
        exact ⟨s.compiler.withWide_registry, s.compiler.withWide_debug,
          s.compiler.withWide_definitions⟩
  · exact Session.afterHelper_of_helper
      (Session.serveAll_helper later (Session.helper_of_helperAnswer hok))
  · obtain ⟨hlp, hhlp⟩ := Option.ne_none_iff_exists'.mp hsome
    exact Session.helpersMade_of_helper hhlp requests
  · have hlater := hs.serveAll requests
    exact hlater.oneInternal.length_le hlater.coherent.registry

/-- A constant that goes by the name of the helper. -/
def namesake : Request :=
  .lower helperName ⟨"0", ⟨.int Felt.width, 1⟩⟩ [] (.const (some (Felt.width, 1)))

/-- A field element type and a function with the name of the helper, with debug info. -/
def namesakeSession : Session := feltSession.serve namesake

theorem namesakeSession_inUse : namesakeSession.InUse := ((Session.InUse.start _).serve _).serve _

/-- The first refused call leaves a session that the second one keeps.  Without the namesake
the helper is returned again after a failed lowering. -/
theorem namesakeSession_refuses :
    namesakeSession.InUse ∧ namesakeSession.helperAnswer = .error (.defined .reduce helperName) ∧
      namesakeSession.afterHelper.afterHelper = namesakeSession.afterHelper ∧
      feltSession.helperAnswer = .ok ⟨0⟩ ∧
      (feltSession.afterHelper.serveAll [unevenSum]).helperAnswer = .ok ⟨0⟩ := by
  have hrefused : namesakeSession.helperAnswer = .error (.defined .reduce helperName) := by
    decide +kernel
  have hok : feltSession.helperAnswer = .ok ⟨0⟩ := by decide +kernel
  have hfelt : feltSession.InUse := (Session.InUse.start _).serve _
  obtain ⟨-, hleft, -⟩ := helper_declaration_effects namesakeSession_inUse
  obtain ⟨-, -, hkept, -⟩ := helper_declaration_effects hfelt
  exact ⟨namesakeSession_inUse, hrefused, (hleft _ hrefused).2.2.2.2, hok,
    (hkept _ hok [unevenSum]).1⟩

/-- A refused call is not atomic: it leaves a registered type, a debug type and one more
definition. -/
theorem refused_helper_leaves_wide_type :
    namesakeSession.InUse ∧ namesakeSession.helperAnswer = .error (.defined .reduce helperName) ∧
      namesakeSession.compiler.registry.lookup? wideKey = none ∧
      (namesakeSession.afterHelper.compiler.registry.lookup? wideKey).isSome = true ∧
      namesakeSession.afterHelper.compiler.module.definitions.length =
        namesakeSession.compiler.module.definitions.length + 1 ∧
      namesakeSession.afterHelper ≠ namesakeSession := by
  have hbefore : namesakeSession.compiler.registry.lookup? wideKey = none := by decide +kernel
  have hafter : (namesakeSession.afterHelper.compiler.registry.lookup? wideKey).isSome = true := by
    decide +kernel
  refine ⟨namesakeSession_inUse, by decide +kernel, hbefore, hafter, by decide +kernel, fun h => ?_⟩
  rw [h, hbefore] at hafter
  cases hafter

end Lowering
end FeltLowering
