import FeltLowering.Proofs.Lowering.Failure
import FeltLowering.Proofs.Trace.Journal

/-
What a lowering writes into its journal.

No step looks at the journal, so the points it marks are the same whatever the journal
holds and whatever it records (`Notes`).  A lowering that is never canceled therefore has
one account: the passes it went through with the points marked in each, and how it ended.
`lowerProgram_account` says that a journal at any level is written from that account.

A canceled loop is the loop over the declarations that it did get to
(`Progress.declareAll_cut`).
-/
namespace FeltLowering
namespace Lowering

open Ir Trace

/-! ## Loops -/

namespace Progress

section Loops

variable {env : Environment}
  {declare : Progress → Declaration → Progress × Except LowerError Unit}
  {line : Nat} {d : Declaration} {rest : List Declaration} {s s' : Progress}

theorem declareAll_of_canceled (hc : env.canceled s.journal = true) :
    s.declareAll env declare line (d :: rest) = (s, .error .canceled) := by
  unfold declareAll
  rw [if_pos hc]

theorem declareAll_of_error {e : LowerError} (hc : env.canceled s.journal = false)
    (hd : declare (s.setLine line) d = (s', .error e)) :
    s.declareAll env declare line (d :: rest) = (s', .error e) := by
  unfold declareAll
  rw [hc, hd]
  rfl

theorem declareAll_of_ok (hc : env.canceled s.journal = false)
    (hd : declare (s.setLine line) d = (s', .ok ())) :
    s.declareAll env declare line (d :: rest) = s'.declareAll env declare (line + 1) rest := by
  rw [declareAll, hc, hd]
  rfl

/-- A loop runs as if it were never canceled, up to the first iteration that starts
canceled. -/
theorem declareAll_cut (env : Environment)
    (declare : Progress → Declaration → Progress × Except LowerError Unit) (line : Nat)
    (ds : List Declaration) (s : Progress) :
    (s.declareAll env declare line ds = s.declareAll {} declare line ds ∧
      ∀ before d after s', ds = before ++ d :: after →
        s.declareAll {} declare line before = (s', .ok ()) → env.canceled s'.journal = false) ∨
    ∃ before d after s', ds = before ++ d :: after ∧
      s.declareAll {} declare line before = (s', .ok ()) ∧ env.canceled s'.journal = true ∧
      (∀ before₁ d₁ after₁ s₁, ds = before₁ ++ d₁ :: after₁ →
        s.declareAll {} declare line before₁ = (s₁, .ok ()) → env.canceled s₁.journal = true →
          before <+: before₁) ∧
      s.declareAll env declare line ds = (s', .error .canceled) := by
  induction ds generalizing line s with
  | nil =>
    refine Or.inl ⟨rfl, fun before d after s' hsplit => ?_⟩
    exact absurd hsplit (by simp)
  | cons d rest ih =>
    by_cases hc : env.canceled s.journal = true
    · exact Or.inr ⟨[], d, rest, s, rfl, rfl, hc, fun before₁ _ _ _ _ _ _ => List.nil_prefix,
        declareAll_of_canceled hc⟩
    have hnot : env.canceled s.journal = false := Bool.not_eq_true _ ▸ hc
    have hnever : ({} : Environment).canceled s.journal = false := rfl
    match hd : declare (s.setLine line) d with
    | (s₁, .error e) =>
      refine Or.inl ⟨?_, fun before d' after s' hsplit hrun => ?_⟩
      · rw [declareAll_of_error hnot hd, declareAll_of_error hnever hd]
      · cases before with
        | nil =>
          cases hrun
          exact hnot
        | cons d₁ before =>
          obtain ⟨rfl, -⟩ := List.cons.inj hsplit
          rw [declareAll_of_error hnever hd] at hrun
          cases hrun
    | (s₁, .ok ()) =>
      rcases ih (line + 1) s₁ with
        ⟨hsame, hstarts⟩ | ⟨before, d', after, s', hsplit, hrun, hstop, hfirst, hend⟩
      · refine Or.inl ⟨?_, fun before d' after s' hsplit hrun => ?_⟩
        · rw [declareAll_of_ok hnot hd, declareAll_of_ok hnever hd, hsame]
        · cases before with
          | nil =>
            cases hrun
            exact hnot
          | cons d₁ before =>
            obtain ⟨rfl, hrest⟩ := List.cons.inj hsplit
            rw [declareAll_of_ok hnever hd] at hrun
            exact hstarts before d' after s' hrest hrun
      · refine Or.inr ⟨d :: before, d', after, s', ?_, ?_, hstop,
          fun before₁ d₁ after₁ s₂ hsplit₁ hrun₁ hc₁ => ?_, ?_⟩
        · rw [hsplit]
          rfl
        · rw [declareAll_of_ok hnever hd, hrun]
        · cases before₁ with
          | nil =>
            cases hrun₁
            exact absurd hc₁ hc
          | cons d₂ before₁ =>
            obtain ⟨rfl, hrest⟩ := List.cons.inj hsplit₁
            rw [declareAll_of_ok hnever hd] at hrun₁
            exact List.cons_prefix_cons.mpr ⟨rfl, hfirst before₁ d₁ after₁ s₂ hrest hrun₁ hc₁⟩
        · rw [declareAll_of_ok hnot hd, hend]

theorem declareAll_of_never (hnever : ∀ j, env.canceled j = false) (ds : List Declaration) :
    s.declareAll env declare line ds = s.declareAll {} declare line ds := by
  rcases declareAll_cut env declare line ds s with ⟨hsame, -⟩ | ⟨-, -, -, s', -, -, hc, -, -⟩
  · exact hsame
  · exact absurd ((hnever s'.journal).symm.trans hc) Bool.false_ne_true

def loop (declare : Progress → Nat → Declaration → Progress × Except LowerError Unit)
    (env : Environment) (line : Nat) (ds : List Declaration) (span : Nat) (s : Progress) :
    Progress × Except LowerError Unit :=
  s.declareAll env (fun s d => declare s span d) line ds

section Passes

variable {p : Program} {parent : Nat} {s₁ s₂ : Progress} {e : LowerError}

theorem lowerDecls_of_types
    (h : s.pass "types" parent (loop declareType env 1 p.typeList) = (s₁, .error e)) :
    s.lowerDecls env p parent = (s₁, .error e) := by
  unfold loop at h
  rw [lowerDecls, h]

theorem lowerDecls_of_helpers
    (h : s.pass "types" parent (loop declareType env 1 p.typeList) = (s₁, .ok ()))
    (h' : s₁.pass "helpers" parent (fun span s => s.helperIfFelt (p.typeList.length + 1) span) =
      (s₂, .error e)) :
    s.lowerDecls env p parent = (s₂, .error e) := by
  unfold loop at h
  rw [lowerDecls, h]
  dsimp only
  rw [h']

theorem lowerDecls_of_libfuncs
    (h : s.pass "types" parent (loop declareType env 1 p.typeList) = (s₁, .ok ()))
    (h' : s₁.pass "helpers" parent (fun span s => s.helperIfFelt (p.typeList.length + 1) span) =
      (s₂, .ok ())) :
    s.lowerDecls env p parent =
      s₂.pass "libfuncs" parent (loop declareLibfunc env (p.typeList.length + 1) p.libfuncList) := by
  unfold loop at h
  rw [lowerDecls, h]
  dsimp only
  rw [h']
  rfl

end Passes
end Loops

/-! ## Steps and the points they mark -/

/-- Work that marks the same points whatever the journal is. -/
def Notes (work : Nat → Progress → Progress × Except LowerError Unit) (c : Compiler)
    (ms : List Mark) (c' : Compiler) (r : Except LowerError Unit) : Prop :=
  ∀ parent journal, work parent ⟨c, journal⟩ = (⟨c', journal.markAll parent ms⟩, r)

/-- Points that report the given declarations and every function added in between. -/
structure Reports (declared : List Mark) (ms : List Mark) (c c' : Compiler) : Prop where
  declared : ms.filter (·.scope = .decl) = declared
  lowered : c'.module.functions.map Function.name =
    c.module.functions.map Function.name ++ (ms.filter (·.scope = .instr)).map Mark.name

theorem Reports.append {declared declared' ms ms' : List Mark} {c c' c'' : Compiler}
    (h : Reports declared ms c c') (h' : Reports declared' ms' c' c'') :
    Reports (declared ++ declared') (ms ++ ms') c c'' where
  declared := by rw [List.filter_append, h.declared, h'.declared]
  lowered := by rw [h'.lowered, h.lowered, List.filter_append, List.map_append, List.append_assoc]

theorem Reports.of_setLine {declared ms : List Mark} {c c' : Compiler} {line : Int}
    (h : Reports declared ms (c.setLine line) c') : Reports declared ms c c' := ⟨h.declared, h.lowered⟩

theorem Reports.select_declared {declared ms : List Mark} {c c' : Compiler}
    (h : Reports declared ms c c') :
    Mark.select .decl ms = declared.map fun m => (m.name, m.detail) := by
  rw [Mark.select, h.declared]

theorem Reports.select_lowered {declared ms : List Mark} {c c' : Compiler}
    (h : Reports declared ms c c') (hc : c.module.functions = []) :
    (Mark.select .instr ms).map Prod.fst = c'.module.functions.map Function.name := by
  rw [h.lowered, hc, List.map_nil, List.nil_append, Mark.select, List.map_map]
  rfl

/-- A step that marks the same points whatever the journal is, and all of them if it
succeeds. -/
def Tells (declare : Progress → Nat → Declaration → Progress × Except LowerError Unit)
    (mark : Declaration → Mark) : Prop :=
  ∀ c d, ∃ ms c' r, Notes (fun parent s => declare s parent d) c ms c' r ∧
    (r = .ok () → Reports [mark d] ms c c')

def typeMark (d : Declaration) : Mark := .declared (typeLabel d) d.genericId

def libfuncMark (d : Declaration) : Mark := .declared (libfuncLabel d) d.genericId

def loweredMark (f : Summary) : Mark :=
  .lowered f.name (f.kind.text ++ " body, " ++ Text.ofNat f.size ++ " instructions")

theorem declareType_tells : Tells declareType typeMark := by
  intro c d
  cases hcheck : c.checkType d with
  | error e =>
    refine ⟨[], c, .error e, fun parent journal => ?_, fun h => nomatch h⟩
    exact declareType_of_check (s := ⟨c, journal⟩) hcheck
  | ok u =>
    cases hadd : c.addType d with
    | error e =>
      refine ⟨[typeMark d], c, .error e, fun parent journal => ?_, fun h => nomatch h⟩
      exact declareType_of_error (s := ⟨c, journal⟩) hcheck hadd
    | ok c' =>
      refine ⟨[typeMark d], c', .ok (), fun parent journal => ?_, fun _ => ⟨rfl, ?_⟩⟩
      · exact declareType_of_ok (s := ⟨c, journal⟩) hcheck hadd
      · have hdeclare : c.declareType d = .ok c' := by
          unfold Compiler.declareType
          rw [hcheck]
          exact hadd
        rw [(Compiler.declareType_frame hdeclare).1]
        exact (List.append_nil _).symm

theorem names_of_lower {c : Compiler} {name : Text} {result : Slot} {params : List Slot}
    {body : Body} {done : Compiler.Lowered} (h : c.lower name result params body = .ok done) :
    done.compiler.module.functions.map Function.name =
      c.module.functions.map Function.name ++ [done.name] := by
  obtain ⟨signature, code, -, -, -, rfl⟩ := Compiler.lower_eq_ok_iff.mp h
  rw [Compiler.install_functions, List.map_append, List.map_singleton, Compiler.described_name]
  rfl

theorem declareLibfunc_tells : Tells declareLibfunc libfuncMark := by
  intro c d
  cases hname : Compiler.libfuncName d with
  | error e =>
    refine ⟨[], c, .error e, fun parent journal => ?_, fun h => nomatch h⟩
    exact declareLibfunc_of_unnamed hname
  | ok name =>
    cases hadd : c.addLibfunc d with
    | error e =>
      refine ⟨[libfuncMark d], c, .error e, fun parent journal => ?_, fun h => nomatch h⟩
      exact declareLibfunc_of_error (s := ⟨c, journal⟩) hname hadd
    | ok done =>
      refine ⟨[libfuncMark d, loweredMark done.toSummary], done.compiler, .ok (), fun parent journal => ?_,
        fun _ => ⟨rfl, ?_⟩⟩
      · exact declareLibfunc_of_ok (s := ⟨c, journal⟩) hname hadd
      · have hdeclare : c.declareLibfunc d = .ok done := by
          unfold Compiler.declareLibfunc
          rw [hname]
          exact hadd
        obtain ⟨libfunc, -, hcall⟩ := Compiler.declareLibfunc_eq_ok_iff.mp hdeclare
        obtain ⟨-, result, params, body, -, hlower⟩ := Compiler.callLibfunc_eq_ok_iff.mp hcall
        exact names_of_lower hlower

theorem declareHelper_reports {c c' : Compiler} {h : Helper} {done : Option Summary}
    (hrun : c.declareHelper = (c', .ok (h, done))) :
    Reports [] (done.toList.map loweredMark) c c' := by
  rw [Compiler.declareHelper_eq] at hrun
  split at hrun
  · cases hrun
    exact ⟨rfl, (List.append_nil _).symm⟩
  · cases hrun
  · next felt _ _ =>
    dsimp only at hrun
    cases hlower : c.wideSlot.1.lower helperName felt [c.wideSlot.2] .reduce with
    | error e =>
      rw [hlower] at hrun
      cases hrun
    | ok done' =>
      rw [hlower] at hrun
      cases hrun
      refine ⟨rfl, ?_⟩
      have hnames := names_of_lower hlower
      rw [c.wideSlot_frame.2.1] at hnames
      exact hnames

theorem helperIfFelt_tells (line : Nat) (c : Compiler) :
    ∃ ms c' r, Notes (fun parent s => s.helperIfFelt line parent) c ms c' r ∧
      (r = .ok () → Reports [] ms c c') := by
  by_cases hfelt : (c.registry.lookupName? "felt").isSome = true
  · have hnotes : ∀ parent journal, (⟨c, journal⟩ : Progress).helperIfFelt line parent =
        (((⟨c.setLine line, journal⟩ : Progress).declareHelper parent).1,
          ((⟨c.setLine line, journal⟩ : Progress).declareHelper parent).2.map fun _ => ()) := by
      intro parent journal
      rw [helperIfFelt, if_pos hfelt]
      rfl
    match hrun : (c.setLine line).declareHelper with
    | (c', .error e) =>
      refine ⟨[], c', .error e, fun parent journal => ?_, fun h => nomatch h⟩
      refine (hnotes parent journal).trans ?_
      rw [declareHelper_of_error (s := ⟨c.setLine line, journal⟩) hrun]
      rfl
    | (c', .ok (h, none)) =>
      refine ⟨[], c', .ok (), fun parent journal => ?_, fun _ => (declareHelper_reports hrun).of_setLine⟩
      refine (hnotes parent journal).trans ?_
      rw [declareHelper_of_none (s := ⟨c.setLine line, journal⟩) hrun]
      rfl
    | (c', .ok (h, some done)) =>
      refine ⟨[loweredMark done], c', .ok (), fun parent journal => ?_,
        fun _ => (declareHelper_reports hrun).of_setLine⟩
      refine (hnotes parent journal).trans ?_
      rw [declareHelper_of_some (s := ⟨c.setLine line, journal⟩) hrun]
      rfl
  · refine ⟨[], c, .ok (), fun parent journal => ?_, fun _ => ⟨rfl, (List.append_nil _).symm⟩⟩
    simp only [helperIfFelt, if_neg hfelt]
    rfl

/-- Run: a loop marks the points of its steps. -/
theorem loop_tells {declare : Progress → Nat → Declaration → Progress × Except LowerError Unit}
    {mark : Declaration → Mark} (h : Tells declare mark) (line : Nat) (ds : List Declaration)
    (c : Compiler) :
    ∃ ms c' r, Notes (loop declare {} line ds) c ms c' r ∧
      (r = .ok () → Reports (ds.map mark) ms c c') := by
  induction ds generalizing line c with
  | nil =>
    exact ⟨[], c, .ok (), fun _ _ => rfl, fun _ => ⟨rfl, (List.append_nil _).symm⟩⟩
  | cons d rest ih =>
    obtain ⟨ms, c₁, r, hstep, hreports⟩ := h (c.setLine line) d
    cases r with
    | error e =>
      refine ⟨ms, c₁, .error e, fun parent journal => ?_, fun h => nomatch h⟩
      exact declareAll_of_error rfl (hstep parent journal)
    | ok u =>
      obtain ⟨ms', c', r', hrest, hreports'⟩ := ih (line + 1) c₁
      refine ⟨ms ++ ms', c', r', fun parent journal => ?_, fun hr => ?_⟩
      · rw [Journal.markAll_append]
        exact (declareAll_of_ok rfl (hstep parent journal)).trans (hrest parent _)
      · exact (hreports rfl).of_setLine.append (hreports' hr)

theorem pass_of_notes {work : Nat → Progress → Progress × Except LowerError Unit} {c c' : Compiler}
    {ms : List Mark} {r : Except LowerError Unit} (h : Notes work c ms c' r) (name : Text)
    (parent : Nat) (journal : Journal) :
    (⟨c, journal⟩ : Progress).pass name parent work =
      (⟨c', journal.stage parent ⟨name, ms, outcome r⟩⟩, r) := by
  unfold Notes at h
  simp only [pass, h]
  rfl

end Progress
end Lowering

/-! ## Accounts -/

open Lowering Trace

/-- The points that stand for the declarations of a program. -/
def Program.marks (p : Program) : List Mark :=
  p.typeList.map Progress.typeMark ++ p.libfuncList.map Progress.libfuncMark

namespace Lowering

def passNames : List Text := ["types", "helpers", "libfuncs"]

namespace Progress

theorem lowerDecls_of_never {env : Environment} (hnever : ∀ j, env.canceled j = false) (p : Program)
    (parent : Nat) (s : Progress) : s.lowerDecls env p parent = s.lowerDecls {} p parent := by
  unfold lowerDecls
  simp only [declareAll_of_never hnever]

/-- The three passes, whatever the journal is. -/
theorem lowerDecls_account (p : Program) (c : Compiler) :
    ∃ ss c' r, (∀ parent journal, (⟨c, journal⟩ : Progress).lowerDecls {} p parent =
        (⟨c', journal.stages parent ss⟩, r)) ∧ ss.map Stage.name <+: passNames ∧
      (r = .ok () → Reports p.marks (ss.flatMap Stage.marks) c c') := by
  obtain ⟨ms₁, c₁, r₁, hnotes₁, hreports₁⟩ := loop_tells declareType_tells 1 p.typeList c
  have htypes := pass_of_notes hnotes₁ "types"
  cases r₁ with
  | error e =>
    refine ⟨[⟨"types", ms₁, outcome (.error e)⟩], c₁, .error e, fun parent journal => ?_,
      ⟨passNames.drop 1, rfl⟩, fun h => nomatch h⟩
    exact lowerDecls_of_types (htypes parent journal)
  | ok u =>
    obtain ⟨ms₂, c₂, r₂, hnotes₂, hreports₂⟩ := helperIfFelt_tells (p.typeList.length + 1) c₁
    have hhelpers := pass_of_notes hnotes₂ "helpers"
    cases r₂ with
    | error e =>
      refine ⟨[⟨"types", ms₁, []⟩, ⟨"helpers", ms₂, outcome (.error e)⟩], c₂, .error e,
        fun parent journal => ?_, ⟨passNames.drop 2, rfl⟩, fun h => nomatch h⟩
      exact lowerDecls_of_helpers (htypes parent journal) (hhelpers parent _)
    | ok u =>
      obtain ⟨ms₃, c₃, r₃, hnotes₃, hreports₃⟩ :=
        loop_tells declareLibfunc_tells (p.typeList.length + 1) p.libfuncList c₂
      have hlibfuncs := pass_of_notes hnotes₃ "libfuncs"
      refine ⟨[⟨"types", ms₁, []⟩, ⟨"helpers", ms₂, []⟩, ⟨"libfuncs", ms₃, outcome r₃⟩], c₃, r₃,
        fun parent journal => ?_, ⟨[], rfl⟩, fun hr => ?_⟩
      · exact (lowerDecls_of_libfuncs (htypes parent journal) (hhelpers parent _)).trans
          (hlibfuncs parent _)
      · have hall := (hreports₁ rfl).append ((hreports₂ rfl).append (hreports₃ hr))
        simpa only [Program.marks, List.flatMap_cons, List.flatMap_nil, List.append_nil,
          List.nil_append] using hall

end Progress

/-- The passes of a lowering, the number of types it was given, and how it ended. -/
structure Account where
  stages : List Stage
  types : Nat
  outcome : Except LowerError Compiler

namespace Account

def marks (a : Account) : List Mark := a.stages.flatMap Stage.marks

def write (a : Account) (span : Nat) (journal : Journal) : Journal :=
  let (root, journal) := journal.begin .driver "lower" span
  let journal := journal.stages root.id a.stages
  match a.outcome with
  | .error e => (journal.point .error "lower" e.message root.id).finish root "failed"
  | .ok c =>
    let (root, journal) := journal.annotate root "types" (Text.ofNat a.types)
    let (root, journal) :=
      journal.annotate root "functions" (Text.ofNat c.module.listed.length)
    journal.finish root []

/-- The account of a lowering of a program. -/
structure Covers (o : Options) (p : Program) (a : Account) : Prop where
  passes : a.stages.map Stage.name <+: passNames
  reports : ∀ c, a.outcome = .ok c → Progress.Reports p.marks a.marks (.new o) c

end Account

theorem new_functions (o : Options) : (Compiler.new o).module.functions = [] := by
  unfold Compiler.new
  dsimp only
  split <;> rfl

theorem lowerProgram_of_lowerDecls {env : Environment} {journal j : Journal} {p : Program} {o : Options}
    {root : Span} {ss : List Stage} {c : Compiler} {r : Except LowerError Unit}
    (hroot : journal.begin .driver "lower" env.span = (root, j))
    (h : (⟨.new o, j⟩ : Progress).lowerDecls env p root.id = (⟨c, j.stages root.id ss⟩, r)) :
    lowerProgram env journal p o =
      (Account.write ⟨ss, p.typeList.length, r.map fun _ => c⟩ env.span journal, r.map fun _ => c) := by
  unfold lowerProgram Account.write
  rw [hroot]
  dsimp only
  rw [h]
  cases r <;> rfl

/-- A lowering that is never canceled has one account, whatever the journal is. -/
theorem lowerProgram_account (p : Program) (o : Options) :
    ∃ a : Account, a.Covers o p ∧ ∀ env journal, (∀ j, env.canceled j = false) →
      lowerProgram env journal p o = (a.write env.span journal, a.outcome) := by
  obtain ⟨ss, c, r, hrun, hpasses, hreports⟩ := Progress.lowerDecls_account p (.new o)
  refine ⟨⟨ss, p.typeList.length, r.map fun _ => c⟩, ⟨hpasses, fun c' hc' => ?_⟩,
    fun env journal hnever => ?_⟩
  · cases r with
    | error e => cases hc'
    | ok u =>
      cases hc'
      exact hreports rfl
  · refine lowerProgram_of_lowerDecls rfl ?_
    rw [Progress.lowerDecls_of_never hnever]
    exact hrun _ _

end Lowering
end FeltLowering
