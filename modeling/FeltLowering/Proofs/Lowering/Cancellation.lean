import FeltLowering.Proofs.Lowering.Acceptance
import FeltLowering.Proofs.Lowering.Account

/-
Cancellation.

Whether a lowering has been canceled is asked at the head of the two loops only, so a
canceled lowering has stopped before a declaration.  `Progress.Starts` lists the moments at
which the lowering that is never canceled comes to a declaration.  A lowering is canceled
if one of these moments is too late for it, and is the uncanceled one otherwise.
-/
namespace FeltLowering
namespace Lowering

open Ir Trace

/-! ## No step cancels -/

/-- Any result but the error of a canceled lowering. -/
def Uncanceled {α : Type} (r : Except LowerError α) : Prop := r ≠ .error .canceled

theorem uncanceled_ok {α : Type} (a : α) : Uncanceled (.ok a) := fun h => nomatch h

theorem uncanceled_fatal {α : Type} (decl : Text) (cause : FatalCause) :
    Uncanceled (.error (.fatal decl cause) : Except LowerError α) := fun h => nomatch h

theorem Uncanceled.bind {α β : Type} {x : Except LowerError α} {f : α → Except LowerError β}
    (hx : Uncanceled x) (hf : ∀ a, Uncanceled (f a)) : Uncanceled (x >>= f) := by
  cases x with
  | error e =>
    intro h
    cases h
    exact hx rfl
  | ok a => exact hf a

theorem Uncanceled.map {α β : Type} {x : Except LowerError α} (hx : Uncanceled x) (f : α → β) :
    Uncanceled (x.map f) := by
  cases x with
  | error e =>
    intro h
    cases h
    exact hx rfl
  | ok a => exact uncanceled_ok (f a)

theorem Uncanceled.mapM {α β : Type} {f : α → Except LowerError β} (hf : ∀ a, Uncanceled (f a))
    (l : List α) : Uncanceled (l.mapM f) := by
  induction l with
  | nil => exact uncanceled_ok []
  | cons a l ih =>
    rw [List.mapM_cons]
    exact (hf a).bind fun b => ih.bind fun bs => uncanceled_ok (b :: bs)

namespace Compiler

theorem checkType_uncanceled (c : Compiler) (d : Declaration) : Uncanceled (c.checkType d) := by
  unfold checkType
  split
  · exact uncanceled_fatal _ _
  · split
    · exact uncanceled_fatal _ _
    · exact uncanceled_ok ()

theorem wrappedType_uncanceled (d : Declaration) : Uncanceled (wrappedType d) := by
  unfold wrappedType
  dsimp only
  split
  · split
    · exact uncanceled_ok _
    · exact uncanceled_fatal _ _
    · exact uncanceled_fatal _ _
  · exact uncanceled_fatal _ _

theorem addWrapper_uncanceled (c : Compiler) (d : Declaration) : Uncanceled (c.addWrapper d) := by
  rw [addWrapper_eq]
  refine (wrappedType_uncanceled d).bind fun inner => ?_
  split
  · exact uncanceled_ok _
  · exact uncanceled_fatal _ _

theorem declareType_uncanceled (c : Compiler) (d : Declaration) : Uncanceled (c.declareType d) := by
  refine (c.checkType_uncanceled d).bind fun _ => ?_
  rw [addType_eq]
  split
  · exact uncanceled_ok _
  · split
    · exact c.addWrapper_uncanceled d
    · split
      · exact uncanceled_ok _
      · exact uncanceled_fatal _ _

theorem checkBody_uncanceled (c : Compiler) (name : Text) (params : List Slot) (body : Body) :
    Uncanceled (c.checkBody name params body) := by
  unfold checkBody
  split
  · exact fun h => nomatch h
  · split
    · exact fun h => nomatch h
    · split
      · exact fun h => nomatch h
      · split <;> exact fun h => nomatch h

theorem debugSignature_uncanceled (c : Compiler) (name : Text) (slots : List Slot) :
    Uncanceled (c.debugSignature name slots) := by
  unfold debugSignature
  split
  · exact uncanceled_ok []
  · refine Uncanceled.mapM (fun s => ?_) slots
    split
    · exact uncanceled_ok _
    · exact uncanceled_fatal _ _

theorem lower_uncanceled (c : Compiler) (name : Text) (result : Slot) (params : List Slot)
    (body : Body) : Uncanceled (c.lower name result params body) := by
  rw [lower_eq]
  refine (c.checkBody_uncanceled name params body).bind fun _ => ?_
  refine (c.debugSignature_uncanceled name (result :: params)).bind fun signature => ?_
  refine Uncanceled.bind ?_ fun code => uncanceled_ok _
  cases body.code result.type.ty (params.map fun p => p.type.ty) with
  | error fault => exact fun h => nomatch h
  | ok code => exact uncanceled_ok code

theorem libfuncName_uncanceled (d : Declaration) : Uncanceled (libfuncName d) := by
  unfold libfuncName
  split
  · exact uncanceled_ok _
  · exact uncanceled_fatal _ _

theorem builtinSlot_uncanceled (c : Compiler) (d : Declaration) (builtin : Text) :
    Uncanceled (c.builtinSlot d builtin) := by
  unfold builtinSlot
  split
  · exact uncanceled_ok _
  · exact uncanceled_fatal _ _

theorem helperFor_uncanceled (c : Compiler) (d : Declaration) : Uncanceled (c.helperFor d) := by
  unfold helperFor
  split
  · exact uncanceled_ok _
  · exact uncanceled_fatal _ _

theorem constValue_uncanceled (d : Declaration) : Uncanceled (constValue d) := by
  unfold constValue
  dsimp only
  split
  · split
    · split
      · exact uncanceled_fatal _ _
      · split
        · exact uncanceled_fatal _ _
        · exact uncanceled_ok _
    · exact uncanceled_fatal _ _
  · exact uncanceled_fatal _ _

theorem callLibfunc_uncanceled (c : Compiler) (d : Declaration) (libfunc : Libfunc) :
    Uncanceled (c.callLibfunc d libfunc) := by
  cases libfunc with
  | feltConst =>
    rw [callLibfunc_feltConst]
    refine (c.builtinSlot_uncanceled d _).bind fun felt => (constValue_uncanceled d).bind fun v => ?_
    exact (libfuncName_uncanceled d).bind fun name => c.lower_uncanceled _ _ _ _
  | feltBinary op =>
    rw [callLibfunc_feltBinary]
    refine (c.builtinSlot_uncanceled d _).bind fun felt => ?_
    refine (c.helperFor_uncanceled d).bind fun helper => ?_
    exact (libfuncName_uncanceled d).bind fun name => c.lower_uncanceled _ _ _ _
  | wrappingAdd builtin =>
    rw [callLibfunc_wrappingAdd]
    refine (c.builtinSlot_uncanceled d _).bind fun slot => ?_
    exact (libfuncName_uncanceled d).bind fun name => c.lower_uncanceled _ _ _ _

theorem addLibfunc_uncanceled (c : Compiler) (d : Declaration) : Uncanceled (c.addLibfunc d) := by
  cases h : Libfunc.ofGeneric? d.genericId with
  | some libfunc =>
    rw [addLibfunc_of_some h]
    exact c.callLibfunc_uncanceled d libfunc
  | none =>
    rw [addLibfunc_of_none h]
    exact uncanceled_fatal _ _

theorem addFunction_uncanceled (c : Compiler) (d : Declaration) : Uncanceled (c.addFunction d) := by
  refine Uncanceled.map ?_ Lowered.compiler
  exact (libfuncName_uncanceled d).bind fun _ => c.addLibfunc_uncanceled d

theorem declareHelper_uncanceled (c : Compiler) : Uncanceled c.declareHelper.2 := by
  rw [declareHelper_eq]
  split
  · exact uncanceled_ok _
  · exact uncanceled_fatal _ _
  · next felt _ _ =>
    dsimp only
    have hlower := c.wideSlot.1.lower_uncanceled helperName felt [c.wideSlot.2] .reduce
    cases hr : c.wideSlot.1.lower helperName felt [c.wideSlot.2] .reduce with
    | ok done => exact uncanceled_ok _
    | error e =>
      rw [hr] at hlower
      intro h
      cases h
      exact hlower rfl

theorem helperIfFelt_uncanceled (c : Compiler) (line : Nat) : Uncanceled (c.helperIfFelt line) := by
  unfold helperIfFelt
  split
  · exact (declareHelper_uncanceled _).map _
  · exact uncanceled_ok c

theorem declareEach_uncanceled {declare : Compiler → Declaration → Except LowerError Compiler}
    (h : ∀ c d, Uncanceled (declare c d)) (line : Nat) (ds : List Declaration) (c : Compiler) :
    Uncanceled (declareEach declare line ds c) := by
  induction ds generalizing line c with
  | nil => exact uncanceled_ok c
  | cons d rest ih =>
    unfold declareEach
    split
    · next e hd =>
      intro he
      cases he
      exact h _ _ hd
    · next c' _ => exact ih (line + 1) c'

theorem lowerDecls_uncanceled (c : Compiler) (p : Program) : Uncanceled (c.lowerDecls p) := by
  unfold lowerDecls
  split
  · next e htypes =>
    intro he
    cases he
    exact declareEach_uncanceled declareType_uncanceled _ _ _ htypes
  · split
    · next e hhelper =>
      intro he
      cases he
      exact helperIfFelt_uncanceled _ _ hhelper
    · exact declareEach_uncanceled addFunction_uncanceled _ _ _

end Compiler

/-- A lowering that is never canceled does not end with the error of a canceled one. -/
theorem lowerProgram_uncanceled (span : Nat) (journal : Journal) (p : Program) (o : Options) :
    Uncanceled (lowerProgram { span } journal p o).2 := by
  rw [lowerProgram_eq]
  exact Compiler.lowerDecls_uncanceled _ p

/-! ## Where a lowering can be canceled -/

namespace Progress

def inPass (s : Progress) (name : Text) (parent : Nat)
    (work : Nat → Progress → Progress × Except LowerError Unit) :
    Progress × Except LowerError Unit :=
  let (span, journal) := s.journal.begin .pass name parent
  work span.id { s with journal }

/-- The lowering that is never canceled gets to a declaration: the points of the
declarations before it, the declaration, and what there is at that moment. -/
inductive Starts (p : Program) (parent : Nat) (s : Progress) :
    List Mark → Declaration → Progress → Prop
  | type {before after : List Declaration} {d : Declaration} {s' : Progress}
      (hlist : p.typeList = before ++ d :: after)
      (hrun : s.inPass "types" parent (loop declareType {} 1 before) = (s', .ok ())) :
      Starts p parent s (before.map typeMark) d s'
  | libfunc {before after : List Declaration} {d : Declaration} {s₁ s₂ s' : Progress}
      (htypes : s.pass "types" parent (loop declareType {} 1 p.typeList) = (s₁, .ok ()))
      (hhelpers : s₁.pass "helpers" parent
        (fun span s => s.helperIfFelt (p.typeList.length + 1) span) = (s₂, .ok ()))
      (hlist : p.libfuncList = before ++ d :: after)
      (hrun : s₂.inPass "libfuncs" parent (loop declareLibfunc {} (p.typeList.length + 1) before) =
        (s', .ok ())) :
      Starts p parent s (p.typeList.map typeMark ++ before.map libfuncMark) d s'

/-- A moment inside a pass: the passes before it, and the points marked in it so far. -/
structure Within (parent : Nat) (s : Progress) (ss : List Stage) (name : Text) (ms : List Mark)
    (done : List Mark) (s' : Progress) : Prop where
  passes : ss.map Stage.name ++ [name] <+: passNames
  journal : s'.journal = (s.journal.stages parent ss).enter parent name ms
  reports : Reports done (ss.flatMap Stage.marks ++ ms) s.compiler s'.compiler

section Moments

variable {p : Program} {parent : Nat} {s s' : Progress} {name : Text}

theorem exists_enter {declare : Progress → Nat → Declaration → Progress × Except LowerError Unit}
    {mark : Declaration → Mark} (h : Tells declare mark) {line : Nat} {ds : List Declaration}
    (hrun : s.inPass name parent (loop declare {} line ds) = (s', .ok ())) :
    ∃ ms, s'.journal = s.journal.enter parent name ms ∧
      Reports (ds.map mark) ms s.compiler s'.compiler := by
  obtain ⟨ms, c', r, hnotes, hreports⟩ := loop_tells h line ds s.compiler
  have hsame : s.inPass name parent (loop declare {} line ds) =
      (⟨c', s.journal.enter parent name ms⟩, r) := hnotes _ _
  rw [hsame] at hrun
  cases hrun
  exact ⟨ms, rfl, hreports rfl⟩

theorem exists_stage {work : Nat → Progress → Progress × Except LowerError Unit}
    {declared : List Mark}
    (h : ∃ ms c' r, Notes work s.compiler ms c' r ∧ (r = .ok () → Reports declared ms s.compiler c'))
    (hrun : s.pass name parent work = (s', .ok ())) :
    ∃ ms, s'.journal = s.journal.stage parent ⟨name, ms, []⟩ ∧
      Reports declared ms s.compiler s'.compiler := by
  obtain ⟨ms, c', r, hnotes, hreports⟩ := h
  rw [show s = ⟨s.compiler, s.journal⟩ from rfl, pass_of_notes hnotes] at hrun
  cases hrun
  exact ⟨ms, rfl, hreports rfl⟩

theorem within_types {before : List Declaration}
    (hrun : s.inPass "types" parent (loop declareType {} 1 before) = (s', .ok ())) :
    ∃ ms, Within parent s [] "types" ms (before.map typeMark) s' := by
  obtain ⟨ms, hjournal, hreports⟩ := exists_enter declareType_tells hrun
  exact ⟨ms, ⟨passNames.drop 1, rfl⟩, hjournal, hreports⟩

theorem within_libfuncs {s₁ s₂ : Progress} {before : List Declaration}
    (htypes : s.pass "types" parent (loop declareType {} 1 p.typeList) = (s₁, .ok ()))
    (hhelpers : s₁.pass "helpers" parent
      (fun span s => s.helperIfFelt (p.typeList.length + 1) span) = (s₂, .ok ()))
    (hrun : s₂.inPass "libfuncs" parent (loop declareLibfunc {} (p.typeList.length + 1) before) =
      (s', .ok ())) :
    ∃ ss ms, s₂.journal = s.journal.stages parent ss ∧ Within parent s ss "libfuncs" ms
      (p.typeList.map typeMark ++ before.map libfuncMark) s' := by
  obtain ⟨ms₁, hjournal₁, hreports₁⟩ := exists_stage (loop_tells declareType_tells _ _ _) htypes
  obtain ⟨ms₂, hjournal₂, hreports₂⟩ := exists_stage (helperIfFelt_tells _ _) hhelpers
  obtain ⟨ms₃, hjournal₃, hreports₃⟩ := exists_enter declareLibfunc_tells hrun
  have hstages : s₂.journal =
      s.journal.stages parent [⟨"types", ms₁, []⟩, ⟨"helpers", ms₂, []⟩] := by
    rw [hjournal₂, hjournal₁]
    rfl
  refine ⟨[⟨"types", ms₁, []⟩, ⟨"helpers", ms₂, []⟩], ms₃, hstages, ⟨[], rfl⟩, ?_, ?_⟩
  · rw [hjournal₃, hstages]
  · have hall := hreports₁.append (hreports₂.append hreports₃)
    simpa only [List.flatMap_cons, List.flatMap_nil, List.append_nil, List.nil_append,
      List.append_assoc] using hall

/-- A pass over declarations under an environment that may cancel it. -/
theorem pass_cut (env : Environment)
    (declare : Progress → Nat → Declaration → Progress × Except LowerError Unit) (name : Text)
    (parent line : Nat) (ds : List Declaration) (s : Progress) :
    (s.pass name parent (loop declare env line ds) = s.pass name parent (loop declare {} line ds) ∧
      ∀ before d after s', ds = before ++ d :: after →
        s.inPass name parent (loop declare {} line before) = (s', .ok ()) →
          env.canceled s'.journal = false) ∨
    ∃ before d after s', ds = before ++ d :: after ∧
      s.inPass name parent (loop declare {} line before) = (s', .ok ()) ∧
      env.canceled s'.journal = true ∧
      (∀ before₁ d₁ after₁ s₁, ds = before₁ ++ d₁ :: after₁ →
        s.inPass name parent (loop declare {} line before₁) = (s₁, .ok ()) →
          env.canceled s₁.journal = true → before <+: before₁) ∧
      s.pass name parent (loop declare env line ds) =
        ({ s' with journal := s'.journal.finish (s.journal.begin .pass name parent).1 "canceled" },
          .error .canceled) := by
  have hpass : ∀ work, s.pass name parent work =
      ({ (s.inPass name parent work).1 with
          journal := (s.inPass name parent work).1.journal.finish (s.journal.begin .pass name parent).1
            (outcome (s.inPass name parent work).2) }, (s.inPass name parent work).2) :=
    fun _ => rfl
  rcases declareAll_cut env (fun t d => declare t (s.journal.begin .pass name parent).1.id d) line ds
      { s with journal := (s.journal.begin .pass name parent).2 } with
    ⟨hsame, hstarts⟩ | ⟨before, d, after, s', hsplit, hrun, hc, hfirst, hstop⟩
  · have hin : s.inPass name parent (loop declare env line ds) =
        s.inPass name parent (loop declare {} line ds) := hsame
    exact Or.inl ⟨by rw [hpass, hpass, hin], hstarts⟩
  · have hin : s.inPass name parent (loop declare env line ds) = (s', .error .canceled) := hstop
    refine Or.inr ⟨before, d, after, s', hsplit, hrun, hc, hfirst, ?_⟩
    rw [hpass, hin]
    rfl

/-- The passes run as if they were never canceled, or stop before the first declaration that
they get to too late. -/
theorem lowerDecls_cut (env : Environment) (p : Program) (parent : Nat) (s : Progress) :
    (s.lowerDecls env p parent = s.lowerDecls {} p parent ∧
      ∀ done d s', Starts p parent s done d s' → env.canceled s'.journal = false) ∨
    ∃ done d s' ss name ms, Starts p parent s done d s' ∧ env.canceled s'.journal = true ∧
      (∀ done₁ d₁ s₁, Starts p parent s done₁ d₁ s₁ → env.canceled s₁.journal = true →
        done <+: done₁) ∧
      Within parent s ss name ms done s' ∧ s.lowerDecls env p parent =
        (⟨s'.compiler, s.journal.stages parent (ss ++ [⟨name, ms, "canceled"⟩])⟩,
          .error .canceled) := by
  rcases pass_cut env declareType "types" parent 1 p.typeList s with
    ⟨htypes, hstarts⟩ | ⟨before, d, after, s', hlist, hrun, hc, hfirst, hstop⟩
  · match hr : s.pass "types" parent (loop declareType {} 1 p.typeList) with
    | (s₁, .error e) =>
      refine Or.inl ⟨?_, fun done d s' hstart => ?_⟩
      · rw [lowerDecls_of_types hr, lowerDecls_of_types (htypes.trans hr)]
      · cases hstart with
        | type hlist hrun => exact hstarts _ _ _ _ hlist hrun
        | libfunc hok _ _ _ => exact nomatch hr.symm.trans hok
    | (s₁, .ok ()) =>
      match hh : s₁.pass "helpers" parent
          (fun span s => s.helperIfFelt (p.typeList.length + 1) span) with
      | (s₂, .error e) =>
        refine Or.inl ⟨?_, fun done d s' hstart => ?_⟩
        · rw [lowerDecls_of_helpers hr hh, lowerDecls_of_helpers (htypes.trans hr) hh]
        · cases hstart with
          | type hlist hrun => exact hstarts _ _ _ _ hlist hrun
          | libfunc hok hok' _ _ =>
            cases hr.symm.trans hok
            exact nomatch hh.symm.trans hok'
      | (s₂, .ok ()) =>
        have henv := lowerDecls_of_libfuncs (htypes.trans hr) hh
        rcases pass_cut env declareLibfunc "libfuncs" parent (p.typeList.length + 1) p.libfuncList s₂
          with ⟨hlibfuncs, hstarts'⟩ | ⟨before, d, after, s', hlist, hrun, hc, hfirst, hstop⟩
        · refine Or.inl ⟨?_, fun done d s' hstart => ?_⟩
          · rw [henv, hlibfuncs, lowerDecls_of_libfuncs hr hh]
          · cases hstart with
            | type hlist hrun => exact hstarts _ _ _ _ hlist hrun
            | libfunc hok hok' hlist hrun =>
              cases hr.symm.trans hok
              cases hh.symm.trans hok'
              exact hstarts' _ _ _ _ hlist hrun
        · obtain ⟨ss, ms, hstages, hwithin⟩ := within_libfuncs hr hh hrun
          refine Or.inr ⟨_, d, s', ss, _, ms, .libfunc hr hh hlist hrun, hc,
            fun done₁ d₁ s₃ hstart hc₁ => ?_, hwithin, ?_⟩
          · cases hstart with
            | type hlist₁ hrun₁ =>
              have hnot := hstarts _ _ _ _ hlist₁ hrun₁
              exact absurd (hnot.symm.trans hc₁) Bool.false_ne_true
            | libfunc hok hok' hlist₁ hrun₁ =>
              cases hr.symm.trans hok
              cases hh.symm.trans hok'
              have hmarks := (hfirst _ _ _ _ hlist₁ hrun₁ hc₁).map libfuncMark
              exact (List.prefix_append_right_inj _).mpr hmarks
          · rw [henv, hstop, hwithin.journal, hstages, Journal.stages_concat]
            rfl
  · obtain ⟨ms, hwithin⟩ := within_types hrun
    refine Or.inr ⟨_, d, s', [], _, ms, .type hlist hrun, hc, fun done₁ d₁ s₁ hstart hc₁ => ?_,
      hwithin, ?_⟩
    · cases hstart with
      | type hlist₁ hrun₁ => exact (hfirst _ _ _ _ hlist₁ hrun₁ hc₁).map typeMark
      | libfunc _ _ _ _ =>
        have htypes : before <+: p.typeList := ⟨d :: after, hlist.symm⟩
        exact (htypes.map typeMark).trans (List.prefix_append _ _)
    · rw [lowerDecls_of_types hstop, hwithin.journal]
      rfl

end Moments
end Progress

/-! ## Programs -/

/-- The lowering of a program that is never canceled gets to a declaration. -/
def Iterates (span : Nat) (journal : Journal) (p : Program) (o : Options) (done : List Mark)
    (d : Declaration) (s : Progress) : Prop :=
  let (root, j) := journal.begin .driver "lower" span
  Progress.Starts p root.id ⟨.new o, j⟩ done d s

/-- It gets there when it has been canceled. -/
def Late (env : Environment) (journal : Journal) (p : Program) (o : Options) (done : List Mark)
    (d : Declaration) (s : Progress) : Prop :=
  Iterates env.span journal p o done d s ∧ env.canceled s.journal = true

/-- What a canceled lowering has done: what the uncanceled one had by the time it got to
some declaration, and nothing but the ends of its spans and the report after that. -/
structure Stopped (journal after : Journal) (done : List Mark) (s : Progress) : Prop where
  fresh : ∃ fresh, s.journal.events = journal.events ++ fresh ∧
    reported .decl fresh =
      (if journal.level.passes .decl then done.map fun m => (m.name, m.detail) else []) ∧
    (reported .instr fresh).map Prod.fst =
      (if journal.level.passes .instr then s.compiler.module.functions.map Function.name else [])
  closing : ∃ closing, after.events = s.journal.events ++ closing ∧
    ∀ e ∈ closing, e.scope ≠ .decl ∧ e.scope ≠ .instr

section Programs

variable {env : Environment} {journal j : Journal} {p : Program} {o : Options} {root : Span}

/-- A lowering is the uncanceled one, or stops before the first declaration it is too late
for. -/
theorem lowerProgram_cut (p : Program) (o : Options)
    (hroot : journal.begin .driver "lower" env.span = (root, j)) :
    (lowerProgram env journal p o = lowerProgram { span := env.span } journal p o ∧
      ∀ done d s, ¬ Late env journal p o done d s) ∨
    ∃ done d s ss name ms, Late env journal p o done d s ∧
      (∀ done₁ d₁ s₁, Late env journal p o done₁ d₁ s₁ → done <+: done₁) ∧
      Progress.Within root.id ⟨.new o, j⟩ ss name ms done s ∧ lowerProgram env journal p o =
        (Account.write ⟨ss ++ [⟨name, ms, "canceled"⟩], p.typeList.length, .error .canceled⟩ env.span
          journal, .error .canceled) := by
  have hlate : ∀ done d s, Late env journal p o done d s ↔
      Progress.Starts p root.id ⟨.new o, j⟩ done d s ∧ env.canceled s.journal = true := by
    intro done d s
    rw [Late, Iterates, hroot]
  rcases Progress.lowerDecls_cut env p root.id ⟨.new o, j⟩ with
    ⟨hsame, hstarts⟩ | ⟨done, d, s, ss, name, ms, hstart, hc, hfirst, hwithin, hstop⟩
  · refine Or.inl ⟨?_, fun done d s h => ?_⟩
    · have hnever := Progress.lowerDecls_of_never
        (show ∀ j, ({ span := env.span } : Environment).canceled j = false from fun _ => rfl) p root.id
        ⟨.new o, j⟩
      unfold lowerProgram
      rw [hroot]
      dsimp only
      rw [hsame, hnever]
    · obtain ⟨hstart, hc⟩ := (hlate done d s).mp h
      exact absurd ((hstarts done d s hstart).symm.trans hc) Bool.false_ne_true
  · refine Or.inr ⟨done, d, s, ss, name, ms, (hlate done d s).mpr ⟨hstart, hc⟩,
      fun done₁ d₁ s₁ h => ?_, hwithin, lowerProgram_of_lowerDecls hroot hstop⟩
    obtain ⟨hstart₁, hc₁⟩ := (hlate done₁ d₁ s₁).mp h
    exact hfirst done₁ d₁ s₁ hstart₁ hc₁

/-- Every lowering has an account. -/
theorem exists_account (env : Environment) (journal : Journal) (p : Program) (o : Options) :
    ∃ a : Account, a.Covers o p ∧
      lowerProgram env journal p o = (a.write env.span journal, a.outcome) := by
  have hroot : journal.begin .driver "lower" env.span =
      ((journal.begin .driver "lower" env.span).1, (journal.begin .driver "lower" env.span).2) := rfl
  rcases lowerProgram_cut p o hroot with
    ⟨hsame, -⟩ | ⟨done, d, s, ss, name, ms, -, -, hwithin, hstop⟩
  · obtain ⟨a, hcovers, hwrite⟩ := lowerProgram_account p o
    exact ⟨a, hcovers, hsame.trans (hwrite { span := env.span } journal fun _ => rfl)⟩
  · refine ⟨_, ⟨?_, fun c hc => ?_⟩, hstop⟩
    · rw [List.map_append]
      exact hwithin.passes
    · cases hc

/-- The points that a moment inside a pass has seen. -/
theorem fresh_of_within {done : List Mark} {s : Progress} {ss : List Stage} {name : Text}
    {ms : List Mark} (hroot : journal.begin .driver "lower" env.span = (root, j))
    (h : Progress.Within root.id ⟨.new o, j⟩ ss name ms done s) :
    ∃ fresh, s.journal.events = journal.events ++ fresh ∧
      reported .decl fresh =
        (if journal.level.passes .decl then done.map fun m => (m.name, m.detail) else []) ∧
      (reported .instr fresh).map Prod.fst =
        (if journal.level.passes .instr then s.compiler.module.functions.map Function.name else []) := by
  have hbegin := journal.begin_events .driver "lower" env.span
  rw [hroot] at hbegin
  obtain ⟨hlevel, first, hfirst, hdriver⟩ := hbegin
  obtain ⟨fresh, hfresh, hreported⟩ := j.reported_enter root.id ss name ms
  have hdecl : reported .decl fresh =
      if j.level.passes .decl then Mark.select .decl (ss.flatMap Stage.marks ++ ms) else [] :=
    hreported (.declared [] [])
  have hinstr : reported .instr fresh =
      if j.level.passes .instr then Mark.select .instr (ss.flatMap Stage.marks ++ ms) else [] :=
    hreported (.lowered [] [])
  have hnone : ∀ scope, .driver ≠ scope → reported scope first = [] := by
    intro scope hscope
    exact reported_eq_nil fun e he heq => hscope ((hdriver e he).symm.trans heq)
  refine ⟨first ++ fresh, ?_, ?_, ?_⟩
  · rw [h.journal, hfresh, hfirst, List.append_assoc]
  · rw [reported_append, hnone .decl (by decide), List.nil_append, hdecl, hlevel,
      h.reports.select_declared]
  · rw [reported_append, hnone .instr (by decide), List.nil_append, hinstr, hlevel,
      ← h.reports.select_lowered (new_functions o)]
    split <;> rfl

theorem closing_of_within {done : List Mark} {s : Progress} {ss : List Stage} {name : Text}
    {ms : List Mark} {types : Nat} (hroot : journal.begin .driver "lower" env.span = (root, j))
    (h : Progress.Within root.id ⟨.new o, j⟩ ss name ms done s) :
    ∃ closing, (Account.write ⟨ss ++ [⟨name, ms, "canceled"⟩], types, .error .canceled⟩ env.span
        journal).events = s.journal.events ++ closing ∧
      ∀ e ∈ closing, e.scope ≠ .decl ∧ e.scope ≠ .instr := by
  have hwrite : Account.write ⟨ss ++ [⟨name, ms, "canceled"⟩], types, .error .canceled⟩ env.span journal =
      ((s.journal.finish ((j.stages root.id ss).begin .pass name root.id).1 "canceled").point .error
        "lower" (LowerError.message .canceled) root.id).finish root "failed" := by
    unfold Account.write
    rw [hroot]
    dsimp only
    rw [Journal.stages_concat, h.journal]
    rfl
  obtain ⟨es₁, hes₁, hscope₁⟩ :=
    s.journal.finish_events ((j.stages root.id ss).begin .pass name root.id).1 "canceled"
  obtain ⟨es₂, hes₂, hscope₂⟩ :=
    (s.journal.finish ((j.stages root.id ss).begin .pass name root.id).1 "canceled").point_events .error
      "lower" (LowerError.message .canceled) root.id
  obtain ⟨es₃, hes₃, hscope₃⟩ :=
    ((s.journal.finish ((j.stages root.id ss).begin .pass name root.id).1 "canceled").point .error
      "lower" (LowerError.message .canceled) root.id).finish_events root "failed"
  have hpass := (j.stages root.id ss).begin_scope .pass name root.id
  have hdriver := journal.begin_scope .driver "lower" env.span
  rw [hroot] at hdriver
  refine ⟨es₁ ++ (es₂ ++ es₃), ?_, fun e he => ?_⟩
  · rw [hwrite, hes₃, hes₂, hes₁, List.append_assoc, List.append_assoc]
  · rcases List.mem_append.mp he with he | he
    · rw [hscope₁ e he]
      rcases hpass with hpass | hpass <;> rw [hpass] <;> decide
    · rcases List.mem_append.mp he with he | he
      · rw [hscope₂ e he]
        decide
      · rw [hscope₃ e he]
        rcases hdriver with hdriver | hdriver <;> rw [hdriver] <;> decide

end Programs

/-- A lowering ends with the error of a canceled one exactly if the uncanceled one comes to
some declaration when it is too late, and is the uncanceled one otherwise.  If it is
canceled, it has stopped right before the first declaration it was too late for. -/
theorem cancellation_is_all_or_nothing (env : Environment) (journal : Journal) (p : Program)
    (o : Options) :
    ((lowerProgram env journal p o).2 = .error .canceled ↔
      ∃ done d s, Late env journal p o done d s) ∧
    ((lowerProgram env journal p o).2 ≠ .error .canceled →
      lowerProgram env journal p o = lowerProgram { span := env.span } journal p o) ∧
    ((lowerProgram env journal p o).2 = .error .canceled →
      ∃ done d s, Late env journal p o done d s ∧
        (∀ done₁ d₁ s₁, Late env journal p o done₁ d₁ s₁ → done <+: done₁) ∧
        Stopped journal (lowerProgram env journal p o).1 done s) := by
  have hroot : journal.begin .driver "lower" env.span =
      ((journal.begin .driver "lower" env.span).1, (journal.begin .driver "lower" env.span).2) := rfl
  rcases lowerProgram_cut p o hroot with
    ⟨hsame, hnone⟩ | ⟨done, d, s, ss, name, ms, hlate, hfirst, hwithin, hstop⟩
  · have hresult : (lowerProgram env journal p o).2 ≠ .error .canceled := by
      rw [hsame]
      exact lowerProgram_uncanceled env.span journal p o
    refine ⟨⟨fun h => absurd h hresult, ?_⟩, fun _ => hsame, fun h => absurd h hresult⟩
    rintro ⟨done, d, s, hlate⟩
    exact absurd hlate (hnone done d s)
  · have hresult : (lowerProgram env journal p o).2 = .error .canceled := by rw [hstop]
    refine ⟨⟨fun _ => ⟨done, d, s, hlate⟩, fun _ => hresult⟩, fun h => absurd hresult h,
      fun _ => ⟨done, d, s, hlate, hfirst, fresh_of_within hroot hwithin, ?_⟩⟩
    rw [hstop]
    exact closing_of_within hroot hwithin

/-- Canceled once some number of events has been handed out. -/
def canceledAfter (n : Nat) : Environment where
  canceled := fun j => decide (n ≤ j.events.length)

/-- Too late for the first libfunc: the pass has begun, and nothing more. -/
theorem mixedProgram_canceled_before_libfuncs :
    (lowerProgram (canceledAfter 9) { level := .debug } mixedProgram {}).2 = .error .canceled ∧
      (∃ done d s, Late (canceledAfter 9) { level := .debug } mixedProgram {} done d s ∧
        9 ≤ s.journal.events.length ∧ Stopped { level := .debug }
          (lowerProgram (canceledAfter 9) { level := .debug } mixedProgram {}).1 done s) ∧
      lowerProgram (canceledAfter 16) { level := .debug } mixedProgram {} =
        lowerProgram {} { level := .debug } mixedProgram {} := by
  have hnine : (lowerProgram (canceledAfter 9) { level := .debug } mixedProgram {}).2 =
      .error .canceled := by decide +kernel
  have hlast : (lowerProgram (canceledAfter 16) { level := .debug } mixedProgram {}).2 ≠
      .error .canceled := by decide +kernel
  obtain ⟨-, -, hstopped⟩ :=
    cancellation_is_all_or_nothing (canceledAfter 9) { level := .debug } mixedProgram {}
  obtain ⟨-, hfull, -⟩ :=
    cancellation_is_all_or_nothing (canceledAfter 16) { level := .debug } mixedProgram {}
  obtain ⟨done, d, s, hlate, -, hstop⟩ := hstopped hnine
  exact ⟨hnine, ⟨done, d, s, hlate, of_decide_eq_true hlate.2, hstop⟩, hfull hlast⟩

end Lowering
end FeltLowering
