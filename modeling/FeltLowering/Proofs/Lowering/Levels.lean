import FeltLowering.Proofs.Lowering.Events
import FeltLowering.Proofs.Trace.Recording

/-
Tracers and levels.

A lowering that is never canceled has one account, so neither its outcome nor what is
written from the account depends on who is watching.  The events at a coarser level are
some of those at the finest one: a level that records spans at all numbers them alike and
leaves out points only (`Account.filter_events`).
-/
namespace FeltLowering
namespace Trace

theorem Stage.filter_points (level : Level) (now : Timestamp) (number : Nat) (s : Stage) :
    (s.points .debug now number).filter (fun e => level.passes e.scope) =
      s.points level now number := by
  have hall : s.marks.filter (fun m => Level.debug.passes m.scope) = s.marks :=
    List.filter_eq_self.mpr fun _ _ => rfl
  unfold Stage.points
  rw [hall, List.filter_map]
  rfl

/-- A pass at a level that records it is that pass at the finest level, with fewer points. -/
theorem Stage.filter_events {level : Level} (h : level.passes .pass = true) (now : Timestamp)
    (parent number : Nat) (s : Stage) :
    (s.events .debug now parent number).filter (fun e => level.passes e.scope) =
      s.events level now parent number := by
  unfold Stage.events
  rw [List.filter_cons_of_pos (by exact h), List.filter_append, s.filter_points,
    List.filter_cons_of_pos (by exact h)]
  rfl

theorem filter_stagesEvents {level : Level} (h : level.passes .pass = true) (now : Timestamp)
    (parent n : Nat) (ss : List Stage) :
    (stagesEvents .debug now parent n ss).filter (fun e => level.passes e.scope) =
      stagesEvents level now parent n ss := by
  induction ss generalizing n with
  | nil => rfl
  | cons s ss ih => rw [stagesEvents, List.filter_append, s.filter_events h, ih, stagesEvents]

end Trace

namespace Lowering

open Trace

namespace Account

variable {a : Account} {level : Level} {now : Timestamp} {span n position : Nat}

theorem filter_events (h : level.passes .pass = true) :
    (a.events .debug now span n position).filter (fun e => level.passes e.scope) =
      a.events level now span n position := by
  have hdriver : level.passes .driver = true := level.passes_driver.trans h
  have herror : level.passes .error = true := Level.passes_error (Level.passes_pass_iff.mp h).1
  have hending : (a.ending now span (n + 1) position).filter (fun e => level.passes e.scope) =
      a.ending now span (n + 1) position := by
    refine List.filter_eq_self.mpr fun e he => ?_
    rcases scope_of_mem_ending he with hscope | hscope
    · rw [hscope]
      exact hdriver
    · rw [hscope]
      exact herror
  unfold events
  rw [List.filter_cons_of_pos (by exact hdriver), List.filter_append, filter_stagesEvents h, hending]

theorem passes_of_mem_events (h : level.passes .pass = true) {e : Event}
    (he : e ∈ a.events level now span n position) : level.passes e.scope = true := by
  rw [← filter_events h] at he
  exact (List.mem_filter.mp he).2

/-- What is recorded of an account at the level for failures. -/
def reports (now : Timestamp) (span : Nat) (a : Account) : List Event :=
  match a.outcome with
  | .error e => [failure now span e]
  | .ok _ => []

theorem scope_of_mem_reports {e : Event} (he : e ∈ a.reports now span) : e.scope = .error := by
  unfold reports at he
  cases hout : a.outcome with
  | ok c =>
    rw [hout] at he
    exact absurd he List.not_mem_nil
  | error err =>
    rw [hout, List.mem_singleton] at he
    rw [he]
    rfl

/-- A level that records spans reports a failure as the level for failures does. -/
theorem reported_error_events :
    reported .error (a.events level now span n position) = reported .error (a.reports now span) := by
  have hstages : reported .error (stagesEvents level now (n + 1) (n + 1) a.stages) = [] :=
    reported_eq_nil fun e he => ne_error_of_mem_stagesEvents he
  have hopening : reported .error [opening now span (n + 1)] = [] := rfl
  rw [events, ← List.singleton_append, reported_append, hopening, reported_append, hstages, ending,
    reports]
  cases a.outcome <;> rfl

end Account

/-! ## Tracers -/

/-- A lowering watched by a tracer, or by none: what the tracer holds in the end, the pairs
of the spans, and the outcome.  The journal says what was traced before. -/
def lowerUnder (base : Journal) (r : Option Recording) (span : Nat) (p : Program) (o : Options) :
    Option Recording × List Pairs × Except LowerError Compiler :=
  let level := (r.map fun r => r.tracer.level).getD .off
  let (journal, result) := lowerProgram { span } { base with level, events := [] } p o
  (r.map (·.record journal), journal.pairs, result)

/-- What a ring shows after a lowering. -/
def ringTrace (base : Journal) (seq : Nat) (size : Int) (level : Level) (span : Nat) (p : Program)
    (o : Options) : List Event :=
  let (r, pairs, _) := lowerUnder base (some ⟨.single (.ring (.ofSize size level)), seq⟩) span p o
  (r.toList.flatMap (·.tracer.rings)).flatMap (Ring.snapshot pairs)

/-- A ring that has room for all events of a lowering. -/
def Fits (base : Journal) (size : Int) (level : Level) (span : Nat) (p : Program) (o : Options) : Prop :=
  (lowerProgram { span } { base with level, events := [] } p o).1.events.length ≤
    (Ring.ofSize size level).capacity

section Rings

variable {base : Journal} {size : Int} {level : Level} {span : Nat} {p : Program} {o : Options}

theorem ringTrace_eq {j : Journal} (seq : Nat)
    (hj : (lowerProgram { span } { base with level, events := [] } p o).1 = j) (hlevel : j.level = level)
    (hpass : ∀ e ∈ j.events, level.passes e.scope = true) (hfit : Fits base size level span p o) :
    ringTrace base seq size level span p o = (numbered seq j.events).map (Event.resolve j.pairs) := by
  have hlower : lowerUnder base (some ⟨.single (.ring (.ofSize size level)), seq⟩) span p o =
      (some (Recording.record ⟨.single (.ring (.ofSize size level)), seq⟩ j), j.pairs,
        (lowerProgram { span } { base with level, events := [] } p o).2) := by
    rw [← hj]
    rfl
  rw [Fits, hj] at hfit
  subst hlevel
  rw [ringTrace, hlower, Recording.record_ring seq hpass hfit]
  exact List.append_nil _

variable {a : Account}

/-- A level that records spans: the ring shows the events of the account. -/
theorem ringTrace_of_passes
    (hrun : (lowerProgram { span } { base with level, events := [] } p o).1 =
      a.write span { base with level, events := [] })
    (h : level.passes .pass = true) (hfit : Fits base size level span p o) (seq : Nat) :
    ringTrace base seq size level span p o =
      (numbered seq (a.events level base.now span base.spans base.pairs.length)).map
        (Event.resolve (base.pairs ++ a.pairs)) := by
  rw [Account.write_eq (by exact h)] at hrun
  exact ringTrace_eq seq hrun rfl (fun e he => Account.passes_of_mem_events h he) hfit

/-- The level for failures: the ring shows the report of a failure, if there was one. -/
theorem ringTrace_error
    (hrun : (lowerProgram { span } { base with level := .error, events := [] } p o).1 =
      a.write span { base with level := .error, events := [] })
    (hfit : Fits base size .error span p o) (seq : Nat) :
    ringTrace base seq size .error span p o =
      (numbered seq (a.reports base.now span)).map (Event.resolve base.pairs) := by
  have hwrite : (lowerProgram { span } { base with level := .error, events := [] } p o).1 =
      { base with level := .error, events := a.reports base.now span } := by
    rw [hrun, Account.write_of_quiet rfl, Account.reports]
    cases a.outcome <;> rfl
  exact ringTrace_eq seq hwrite rfl (fun e he => by rw [Account.scope_of_mem_reports he]; rfl) hfit

end Rings

/-- Tracing only observes.  The outcome of a lowering is the same whatever watches it, and
wherever it is attached; a ring at a coarser level shows, numbers apart, those events of
the finest level that pass, and at the level for failures the reports of failures. -/
theorem tracing_only_observes (p : Program) (o : Options) :
    (∀ base base' r r' span span',
      (lowerUnder base r span p o).2.2 = (lowerUnder base' r' span' p o).2.2) ∧
    ∀ base span seq size, Fits base size .debug span p o → ∀ seq' size',
      (∀ level, level = .phase ∨ level = .detail → Fits base size' level span p o →
        (ringTrace base seq' size' level span p o).map Event.unnumbered =
          ((ringTrace base seq size .debug span p o).map Event.unnumbered).filter
            fun e => level.passes e.scope) ∧
      (Fits base size' .error span p o →
        (∀ e ∈ ringTrace base seq' size' .error span p o, e.scope = .error) ∧
        reported .error (ringTrace base seq' size' .error span p o) =
          reported .error (ringTrace base seq size .debug span p o)) := by
  obtain ⟨a, -, hwrite⟩ := lowerProgram_account p o
  have hrun : ∀ span journal, lowerProgram { span } journal p o = (a.write span journal, a.outcome) :=
    fun span journal => hwrite { span } journal fun _ => rfl
  have hjournal : ∀ span journal, (lowerProgram { span } journal p o).1 = a.write span journal :=
    fun span journal => congrArg Prod.fst (hrun span journal)
  have houtcome : ∀ base r span, (lowerUnder base r span p o).2.2 = a.outcome :=
    fun base r span => congrArg Prod.snd (hrun span _)
  refine ⟨fun base base' r r' span span' => ?_, fun base span seq size hfit seq' size' => ?_⟩
  · rw [houtcome, houtcome]
  · have hdebug := ringTrace_of_passes (hjournal _ _) rfl hfit seq
    refine ⟨fun level hlevel hfit' => ?_, fun hfit' => ?_⟩
    · have hpass : level.passes .pass = true := by
        rcases hlevel with rfl | rfl <;> rfl
      rw [hdebug, ringTrace_of_passes (hjournal _ _) hpass hfit', unnumbered_snapshot,
        unnumbered_snapshot, filter_snapshot, Account.filter_events hpass]
    · rw [hdebug, ringTrace_error (hjournal _ _) hfit', reported_snapshot, reported_snapshot,
        Account.reported_error_events]
      exact ⟨mem_scope_snapshot fun e he => Account.scope_of_mem_reports he, rfl⟩

/-- A program that fails at its last declaration. -/
def repeatedLibfunc : Program := { mixedProgram with libfuncs := some [times, minusFive, times] }

instance (base : Journal) (size : Int) (level : Level) (span : Nat) (p : Program) (o : Options) :
    Decidable (Fits base size level span p o) := Nat.decLe _ _

/-- Rings of the least sizes that are large enough, inside another span. -/
theorem repeatedLibfunc_rings :
    (lowerUnder { spans := 8 } none 7 repeatedLibfunc {}).2.2 =
        (lowerUnder {} (some { tracer := .single (.ring (.ofSize 1 .debug)) }) 0 repeatedLibfunc {}).2.2 ∧
      ((ringTrace { spans := 8 } 0 18 .debug 7 repeatedLibfunc {}).map Event.unnumbered).filter
          (fun e => Level.detail.passes e.scope) =
        (ringTrace { spans := 8 } 40 15 .detail 7 repeatedLibfunc {}).map Event.unnumbered ∧
      reported .error (ringTrace { spans := 8 } 40 1 .error 7 repeatedLibfunc {}) =
        reported .error (ringTrace { spans := 8 } 0 18 .debug 7 repeatedLibfunc {}) ∧
      (ringTrace { spans := 8 } 40 1 .error 7 repeatedLibfunc {}).length = 1 := by
  have hdebug : Fits { spans := 8 } 18 .debug 7 repeatedLibfunc {} := by decide +kernel
  have hdetail : Fits { spans := 8 } 15 .detail 7 repeatedLibfunc {} := by decide +kernel
  have herror : Fits { spans := 8 } 1 .error 7 repeatedLibfunc {} := by decide +kernel
  obtain ⟨houtcome, hrings⟩ := tracing_only_observes repeatedLibfunc {}
  obtain ⟨hfilter, -⟩ := hrings { spans := 8 } 7 0 18 hdebug 40 15
  obtain ⟨-, hreports⟩ := hrings { spans := 8 } 7 0 18 hdebug 40 1
  exact ⟨houtcome _ _ _ _ _ _, (hfilter .detail (Or.inr rfl) hdetail).symm, (hreports herror).2,
    by decide +kernel⟩

end Lowering
end FeltLowering
