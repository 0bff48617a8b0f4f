import FeltLowering.Proofs.Lowering.Cancellation
import FeltLowering.Proofs.Trace.Nesting

/-
The events of a lowering.

`Account.write_eq` lists the events of an account one after another: the span of the
lowering around the passes, the points of each pass, a report if the lowering failed.
Since every lowering has an account, canceled or not, its events are well bracketed at
every level (`lowering_trace_is_wellBracketed`).
-/
namespace FeltLowering
namespace Trace

/-! ## Passes -/

section Passes

variable {level : Level} {span : Nat} {now : Timestamp} {root : Event}

theorem Stage.nests (hroot : root.scope = .driver) (number : Nat) (s : Stage) :
    Nests level span [root] (s.events level now root.span number) [root] := by
  have hscopes : [root].map Event.scope = [.driver] := by rw [List.map_singleton, hroot]
  refine Nests.wrap rfl ⟨rfl, hscopes⟩ (Nests.of_points fun e he => ?_) ⟨rfl, rfl, rfl, rfl, rfl⟩
  obtain ⟨m, -, rfl⟩ := List.mem_map.mp he
  refine ⟨rfl, rfl, ?_⟩
  rw [List.map_cons, hscopes]
  cases m <;> rfl

/-- Run: passes in a row. -/
theorem nests_stagesEvents (hroot : root.scope = .driver) (n : Nat) (ss : List Stage) :
    Nests level span [root] (stagesEvents level now root.span n ss) [root] := by
  induction ss generalizing n with
  | nil => exact .nil
  | cons s ss ih => exact (s.nests hroot (n + 1)).append (ih (n + 1))

theorem Stage.filter_begin (parent number : Nat) (s : Stage) :
    (s.events level now parent number).filter (·.kind = .begin) = [s.opening now parent number] := by
  have hpoints : (s.points level now number).filter (·.kind = .begin) = [] := by
    refine List.filter_eq_nil_iff.mpr fun e he => ?_
    obtain ⟨m, -, rfl⟩ := List.mem_map.mp he
    exact Bool.false_ne_true
  rw [Stage.events, List.filter_cons_of_pos rfl, List.filter_append, hpoints]
  rfl

theorem begun_stagesEvents (parent n : Nat) (ss : List Stage) :
    begun (stagesEvents level now parent n ss) = List.range' (n + 1) ss.length := by
  induction ss generalizing n with
  | nil => rfl
  | cons s ss ih =>
    rw [stagesEvents, begun_append, ih, begun, s.filter_begin, List.length_cons, List.range'_succ]
    rfl

theorem names_stagesEvents (parent n : Nat) (ss : List Stage) :
    ((stagesEvents level now parent n ss).filter (·.kind = .begin)).map Event.name =
      ss.map Stage.name := by
  induction ss generalizing n with
  | nil => rfl
  | cons s ss ih =>
    rw [stagesEvents, List.filter_append, List.map_append, ih, s.filter_begin]
    rfl

theorem scope_of_mem_stagesEvents {parent n : Nat} {ss : List Stage} {e : Event}
    (he : e ∈ stagesEvents level now parent n ss) : e.scope = .pass ∨ ∃ m : Mark, e.scope = m.scope := by
  induction ss generalizing n with
  | nil => exact absurd he List.not_mem_nil
  | cons s ss ih =>
    rcases List.mem_append.mp he with he | he
    · rcases List.mem_cons.mp he with rfl | he
      · exact Or.inl rfl
      · rcases List.mem_append.mp he with he | he
        · obtain ⟨m, -, rfl⟩ := List.mem_map.mp he
          exact Or.inr ⟨m, rfl⟩
        · rw [List.mem_singleton.mp he]
          exact Or.inl rfl
    · exact ih he

theorem ne_error_of_mem_stagesEvents {parent n : Nat} {ss : List Stage} {e : Event}
    (he : e ∈ stagesEvents level now parent n ss) : e.scope ≠ .error := by
  rcases scope_of_mem_stagesEvents he with hscope | ⟨m, hscope⟩
  · rw [hscope]
    decide
  · rw [hscope]
    cases m <;> exact fun h => nomatch h

end Passes
end Trace

namespace Lowering

open Ir Trace

/-! ## Accounts -/

namespace Account

def opening (now : Timestamp) (span number : Nat) : Event :=
  { time := now, kind := .begin, scope := .driver, span := number, parent := span, name := "lower" }

def closing (now : Timestamp) (span number : Nat) (detail : Text) (extra : Extra) : Event :=
  { time := now, kind := .finish, scope := .driver, span := number, parent := span, name := "lower",
    detail, extra }

def failure (now : Timestamp) (parent : Nat) (e : LowerError) : Event :=
  { time := now, kind := .point, scope := .error, parent, name := "lower", detail := e.message }

def ending (now : Timestamp) (span number position : Nat) (a : Account) : List Event :=
  match a.outcome with
  | .error e => [failure now number e, closing now span number "failed" .none]
  | .ok _ => [closing now span number [] (.span position)]

/-- The events of an account, after `n` spans and `position` spans with pairs. -/
def events (level : Level) (now : Timestamp) (span n position : Nat) (a : Account) : List Event :=
  opening now span (n + 1) ::
    (stagesEvents level now (n + 1) (n + 1) a.stages ++ a.ending now span (n + 1) position)

def pairs (a : Account) : List Pairs :=
  match a.outcome with
  | .error _ => []
  | .ok c =>
    [[("types", Text.ofNat a.types), ("functions", Text.ofNat c.module.listed.length)]]

theorem modify_concat {α : Type} (l : List α) (x : α) (f : α → α) :
    (l ++ [x]).modify l.length f = l ++ [f x] := by
  simp [List.modify_eq_take_cons_drop]

variable {a : Account} {span : Nat} {journal : Journal}

theorem write_eq (h : journal.level.passes .pass = true) :
    a.write span journal = { journal with
      spans := journal.spans + 1 + a.stages.length
      pairs := journal.pairs ++ a.pairs
      events := journal.events ++
        a.events journal.level journal.now span journal.spans journal.pairs.length } := by
  have hdriver : journal.level.passes .driver = true := journal.level.passes_driver.trans h
  have herror : journal.level.passes .error = true :=
    Level.passes_error (Level.passes_pass_iff.mp h).1
  unfold write events ending pairs
  rw [Journal.begin_of_passes hdriver]
  dsimp only
  rw [Journal.stages_eq (by exact h)]
  cases a.outcome with
  | error e =>
    dsimp only
    rw [Journal.point, if_pos herror, Journal.append, Journal.finish, if_pos rfl, Journal.append]
    simp only [List.append_assoc, List.append_nil]
    rfl
  | ok c =>
    have hput : (journal.pairs ++ [[(Text.ofString "types", Text.ofNat a.types)]]).modify
        journal.pairs.length
        (Pairs.put · (Text.ofString "functions") (Text.ofNat c.module.listed.length)) =
        journal.pairs ++ [[(Text.ofString "types", Text.ofNat a.types),
          (Text.ofString "functions", Text.ofNat c.module.listed.length)]] := by
      rw [modify_concat]
      rfl
    dsimp only [Journal.annotate]
    simp only [if_true, hput, Journal.finish, Journal.append, List.append_assoc]
    rfl

/-- A level that records no spans records at most the report of a failure. -/
theorem write_of_quiet (h : journal.level.passes .pass = false) :
    a.write span journal =
      match a.outcome with
      | .error e => journal.point .error "lower" e.message span
      | .ok _ => journal := by
  have hdriver : journal.level.passes .driver = false := journal.level.passes_driver.trans h
  unfold write
  rw [Journal.begin_of_quiet hdriver]
  dsimp only
  rw [Journal.stages_of_quiet h]
  cases a.outcome <;> rfl

section Events

variable {level : Level} {now : Timestamp} {n position : Nat}

theorem nests_events (h : level.passes .pass = true) :
    Nests level span [] (a.events level now span n position) [] := by
  have hroot : (opening now span (n + 1)).scope = .driver := rfl
  refine .begin rfl ⟨rfl, rfl⟩ ((nests_stagesEvents hroot (n + 1) a.stages).append ?_)
  unfold ending
  cases a.outcome with
  | ok c => exact .finish ⟨rfl, rfl, rfl, rfl, rfl⟩ .nil
  | error e =>
    refine .point rfl ⟨rfl, ?_⟩ (.finish ⟨rfl, rfl, rfl, rfl, rfl⟩ .nil)
    have hdriver : level.passes .driver = true := level.passes_driver.trans h
    exact (if_pos hdriver).symm

theorem filter_begin_ending (number : Nat) :
    (a.ending now span number position).filter (·.kind = .begin) = [] := by
  unfold ending
  cases a.outcome <;> rfl

theorem begun_events :
    begun (a.events level now span n position) = List.range' (n + 1) (a.stages.length + 1) := by
  have hending : begun (a.ending now span (n + 1) position) = [] := by
    rw [begun, filter_begin_ending]
    rfl
  rw [events, begun_cons_of_begin rfl, begun_append, begun_stagesEvents, hending, List.append_nil,
    List.range'_succ]
  rfl

theorem names_events :
    ((a.events level now span n position).filter (·.kind = .begin)).map Event.name =
      Text.ofString "lower" :: a.stages.map Stage.name := by
  rw [events, List.filter_cons_of_pos rfl, List.filter_append, filter_begin_ending, List.append_nil,
    List.map_cons, names_stagesEvents]
  rfl

theorem scope_of_mem_ending {number : Nat} {e : Event} (he : e ∈ a.ending now span number position) :
    e.scope = .driver ∨ e.scope = .error := by
  unfold ending at he
  cases hout : a.outcome with
  | ok c =>
    rw [hout, List.mem_singleton] at he
    exact Or.inl (he ▸ rfl)
  | error err =>
    rw [hout] at he
    rcases List.mem_pair.mp he with rfl | rfl
    · exact Or.inr rfl
    · exact Or.inl rfl

/-- What the events of an account show is what was marked. -/
theorem reported_events (a : Account) (level : Level) (now : Timestamp) (span n position : Nat)
    (m : Mark) :
    reported m.scope (a.events level now span n position) =
      if level.passes m.scope then Mark.select m.scope a.marks else [] := by
  have hpass : m.scope ≠ .pass := by cases m <;> exact fun h => nomatch h
  have hother : ∀ e : Event, e.scope = .driver ∨ e.scope = .error → e.scope ≠ m.scope := by
    intro e he heq
    rw [heq] at he
    cases m <;> rcases he with he | he <;> cases he
  have hending : reported m.scope (a.ending now span (n + 1) position) = [] := by
    exact reported_eq_nil fun e he => hother e (scope_of_mem_ending he)
  have hopening : reported m.scope [opening now span (n + 1)] = [] := by
    refine reported_eq_nil fun e he => hother e ?_
    rw [List.mem_singleton.mp he]
    exact Or.inl rfl
  rw [events, ← List.singleton_append, reported_append, hopening, reported_append, hending,
    reported_stagesEvents hpass, List.append_nil, List.nil_append, marks]

end Events
end Account

/-! ## Traces -/

/-- Events that report a failure once, right before the end of the lowering. -/
def FailsWith (level : Level) (e : LowerError) (es : List Event) : Prop :=
  ∃ front report back, es = front ++ report :: back ∧ report.kind = .point ∧ report.scope = .error ∧
    report.name = Text.ofString "lower" ∧ report.detail = e.message ∧
    (∀ e' ∈ front ++ back, e'.scope ≠ .error) ∧
    back.map (fun e' => (e'.kind, e'.scope)) =
      if level.passes .driver then [(.finish, .driver)] else []

/-- Events that report no failure, every declaration and every function, as far as the
level records them. -/
structure SucceedsWith (level : Level) (p : Program) (c : Compiler) (es : List Event) : Prop where
  no_error : ∀ e ∈ es, e.scope ≠ .error
  declared : reported .decl es = if level.passes .decl then
    (p.typeList.map fun d => (typeLabel d, d.genericId)) ++
      p.libfuncList.map (fun d => (libfuncLabel d, d.genericId)) else []
  lowered : (reported .instr es).map Prod.fst =
    if level.passes .instr then c.module.listed.map Function.name else []

/-- The events of a lowering with a given result, inside `span` and after `n` spans. -/
structure IsTrace (level : Level) (span n : Nat) (p : Program) (result : Except LowerError Compiler)
    (es : List Event) : Prop where
  bracketed : WellBracketed level span es
  fresh : ∀ id ∈ begun es, n < id
  spans : (es.filter (·.kind = .begin)).map Event.name <+: Text.ofString "lower" :: passNames
  fails : ∀ e, result = .error e → FailsWith level e es
  succeeds : ∀ c, result = .ok c → SucceedsWith level p c es

section Traces

variable {level : Level} {now : Timestamp} {span n position : Nat} {a : Account} {p : Program}
  {o : Options}

theorem failsWith_events {e : LowerError} (h : level.passes .pass = true)
    (hout : a.outcome = .error e) : FailsWith level e (a.events level now span n position) := by
  have hdriver : level.passes .driver = true := level.passes_driver.trans h
  refine ⟨Account.opening now span (n + 1) :: stagesEvents level now (n + 1) (n + 1) a.stages,
    Account.failure now (n + 1) e, [Account.closing now span (n + 1) "failed" .none], ?_, rfl, rfl, rfl,
    rfl, fun e' he' => ?_, (if_pos hdriver).symm⟩
  · rw [Account.events, Account.ending, hout]
    rfl
  · rcases List.mem_append.mp he' with he' | he'
    · rcases List.mem_cons.mp he' with rfl | he'
      · exact fun h => nomatch h
      · exact ne_error_of_mem_stagesEvents he'
    · rw [List.mem_singleton.mp he']
      exact fun h => nomatch h

theorem succeedsWith_events {c : Compiler} (hcovers : a.Covers o p) (hout : a.outcome = .ok c)
    (hlisted : c.module.listed = c.module.functions) :
    SucceedsWith level p c (a.events level now span n position) := by
  have hreports := hcovers.reports c hout
  refine ⟨fun e he => ?_, ?_, ?_⟩
  · rw [Account.events, Account.ending, hout] at he
    rcases List.mem_cons.mp he with rfl | he
    · exact fun h => nomatch h
    · rcases List.mem_append.mp he with he | he
      · exact ne_error_of_mem_stagesEvents he
      · rw [List.mem_singleton.mp he]
        exact fun h => nomatch h
  · refine (a.reported_events level now span n position (.declared [] [])).trans ?_
    have hmarks : (p.marks.map fun m => (m.name, m.detail)) =
        (p.typeList.map fun d => (typeLabel d, d.genericId)) ++
          p.libfuncList.map (fun d => (libfuncLabel d, d.genericId)) := by
      rw [Program.marks, List.map_append, List.map_map, List.map_map]
      rfl
    rw [← hmarks, ← hreports.select_declared]
    rfl
  · have hinstr := a.reported_events level now span n position (.lowered [] [])
    rw [hlisted, ← hreports.select_lowered (new_functions o)]
    refine (congrArg (List.map Prod.fst) hinstr).trans ?_
    exact apply_ite (List.map Prod.fst) _ _ _

theorem isTrace_events (h : level.passes .pass = true) (hcovers : a.Covers o p)
    (hlisted : ∀ c, a.outcome = .ok c → c.module.listed = c.module.functions) :
    IsTrace level span n p a.outcome (a.events level now span n position) where
  bracketed := by
    refine wellBracketed_of_nests (Account.nests_events h) ?_
    rw [Account.begun_events]
    exact List.nodup_range'
  fresh := by
    intro id hid
    rw [Account.begun_events, List.mem_range'_1] at hid
    omega
  spans := by
    rw [Account.names_events]
    exact List.cons_prefix_cons.mpr ⟨rfl, hcovers.passes⟩
  fails := fun _ he => failsWith_events h he
  succeeds := fun c hc => succeedsWith_events hcovers hc (hlisted c hc)

theorem isTrace_failure (h : level.passes .driver = false) (e : LowerError) :
    IsTrace level span n p (.error e) [Account.failure now span e] where
  bracketed := by
    refine wellBracketed_of_nests (.point rfl ⟨rfl, ?_⟩ .nil) List.nodup_nil
    exact (if_neg (Bool.eq_false_iff.mp h)).symm
  fresh := fun _ hid => absurd hid List.not_mem_nil
  spans := List.nil_prefix
  fails := by
    intro e' he'
    cases he'
    refine ⟨[], _, [], rfl, rfl, rfl, rfl, rfl, fun _ h => absurd h List.not_mem_nil, ?_⟩
    exact (if_neg (Bool.eq_false_iff.mp h)).symm
  succeeds := fun _ hc => nomatch hc

theorem isTrace_nil (h : level.passes .pass = false) (c : Compiler) :
    IsTrace level span n p (.ok c) [] where
  bracketed := wellBracketed_of_nests .nil List.nodup_nil
  fresh := fun _ hid => absurd hid List.not_mem_nil
  spans := List.nil_prefix
  fails := fun _ he => nomatch he
  succeeds := by
    have hdecl : level.passes .decl = false := Level.not_passes_mark h (.declared [] [])
    have hinstr : level.passes .instr = false := Level.not_passes_mark h (.lowered [] [])
    refine fun c' _ => ⟨fun _ he => absurd he List.not_mem_nil, ?_, ?_⟩
    · rw [hdecl]
      rfl
    · rw [hinstr]
      rfl

end Traces

/-- At every level that records anything, the events of a lowering are well bracketed,
whether it succeeds, fails or is canceled.  A failure is reported once, right before the
end; a success reports every declaration and every function in order. -/
theorem lowering_trace_is_wellBracketed (env : Environment) (journal : Journal) (p : Program)
    (o : Options) (hlevel : journal.level ≠ .off) :
    ∃ es, (lowerProgram env journal p o).1.events = journal.events ++ es ∧
      IsTrace journal.level env.span journal.spans p (lowerProgram env journal p o).2 es := by
  obtain ⟨a, hcovers, hrun⟩ := exists_account env journal p o
  have hlisted : ∀ c, a.outcome = .ok c → c.module.listed = c.module.functions := by
    intro c hc
    have hok : (lowerProgram env journal p o).2 = .ok c := by rw [hrun, hc]
    exact (Compiler.lowerDecls_reaches (lowerDecls_of_lowerProgram hok)).tabled.listed_eq
  rw [hrun]
  by_cases hpass : journal.level.passes .pass = true
  · exact ⟨_, congrArg Journal.events (Account.write_eq hpass),
      isTrace_events hpass hcovers hlisted⟩
  · -- Only failures are recorded.
    have hquiet := Bool.eq_false_iff.mpr hpass
    rw [Account.write_of_quiet hquiet]
    cases hout : a.outcome with
    | error e =>
      refine ⟨[Account.failure journal.now env.span e], ?_,
        isTrace_failure (journal.level.passes_driver.trans hquiet) e⟩
      exact congrArg Journal.events (if_pos (Level.passes_error hlevel))
    | ok c => exact ⟨[], (List.append_nil _).symm, isTrace_nil hquiet c⟩

/-- A trace inside another span, canceled before the first libfunc. -/
theorem mixedProgram_canceled_trace :
    ∃ es, (lowerProgram { canceledAfter 9 with span := 7 } { level := .debug, spans := 8 } mixedProgram
        {}).1.events = es ∧ es.length = 13 ∧
      IsTrace .debug 7 8 mixedProgram (.error .canceled) es := by
  have hrun : (lowerProgram { canceledAfter 9 with span := 7 } { level := .debug, spans := 8 }
        mixedProgram {}).2 = .error .canceled ∧
      (lowerProgram { canceledAfter 9 with span := 7 } { level := .debug, spans := 8 }
        mixedProgram {}).1.events.length = 13 := by decide +kernel
  obtain ⟨es, hevents, htrace⟩ := lowering_trace_is_wellBracketed { canceledAfter 9 with span := 7 }
    { level := .debug, spans := 8 } mixedProgram {} (fun h => nomatch h)
  rw [hrun.1] at htrace
  rw [hevents] at hrun
  exact ⟨es, hevents, hrun.2, htrace⟩

end Lowering
end FeltLowering
