import FeltLowering.Timing
import Mathlib.Data.List.Nodup
import Mathlib.Logic.Function.Basic

/-
One timer, many workers.

Workers share a timer and make their steps in any order, each step whole.  A worker that
begins a phase is told the index, and all it does later may depend on it.  Phases are only
appended, so an index stays with the phase it was given out for; the log of a run says who
made which step, and `Crew.Recorded` ties the timer to it.  One turn keeps that
(`Crew.Recorded.turn`), so it holds after every order of turns.
-/
namespace FeltLowering
namespace Timing

/-! ## Steps on the timer -/

/-- A phase that was begun under a name, after the last of its ends. -/
def outcome (name : Text) (last : Option (Int64 × Text)) : Phase :=
  last.elim { name } fun e => { name, nanos := e.1, note := e.2 }

theorem getElem?_finish (t : Timing) (index : Int) (nanos : Int64) (note : Text) (i : Nat) :
    (t.finish index nanos note).phases[i]? =
      if index = i then t.phases[i]?.map fun p => { p with nanos, note } else t.phases[i]? := by
  cases index with
  | ofNat j =>
    show (t.phases.modify j _)[i]? = _
    rw [List.getElem?_modify]
    by_cases h : j = i
    · subst h
      simp
    · have hne : Int.ofNat j ≠ i := fun he => h (Int.ofNat.inj he)
      rw [if_neg hne]
      simp [h]
  | negSucc j =>
    have hne : Int.negSucc j ≠ i := nofun
    rw [if_neg hne]
    rfl

theorem names_finish (t : Timing) (index : Int) (nanos : Int64) (note : Text) :
    (t.finish index nanos note).phases.map Phase.name = t.phases.map Phase.name := by
  apply List.ext_getElem?
  intro i
  rw [List.getElem?_map, List.getElem?_map, getElem?_finish]
  by_cases h : index = i
  · rw [if_pos h, Option.map_map]
    rfl
  · rw [if_neg h]

theorem finish_eq_self {t : Timing} {index : Int} (h : ∀ i < t.phases.length, index ≠ i)
    (nanos : Int64) (note : Text) : t.finish index nanos note = t := by
  have hphases : (t.finish index nanos note).phases = t.phases := by
    apply List.ext_getElem?
    intro i
    rw [getElem?_finish]
    by_cases hi : i < t.phases.length
    · rw [if_neg (h i hi)]
    · rw [List.getElem?_eq_none (by omega), Option.map_none, ite_self]
  show Timing.mk (t.finish index nanos note).phases = Timing.mk t.phases
  rw [hphases]

theorem getElem?_begin {t : Timing} {i : Nat} (h : i < t.phases.length) (name : Text) :
    (t.begin name).2.phases[i]? = t.phases[i]? :=
  List.getElem?_append_left h

/-! ## Workers -/

/-- What a worker does on the timer.  The clock is not the worker's, so an end may come with
any duration. -/
inductive Work where
  | rest
  | begin (name : Text) (next : Nat → Work)
  | finish (index : Int) (nanos : Int64) (note : Text) (next : Work)

/-- A step that has been made; a begin has been told an index. -/
inductive Step where
  | began (name : Text) (index : Nat)
  | finished (index : Int) (nanos : Int64) (note : Text)
  deriving DecidableEq, Repr

/-- The next step of some work: the step, the timer after it and the work that is left. -/
def Work.step (t : Timing) : Work → Option (Step × Timing × Work)
  | .rest => none
  | .begin name next =>
    let (i, t') := t.begin name
    some (.began name i, t', next i)
  | .finish index nanos note next =>
    some (.finished index nanos note, t.finish index nanos note, next)

/-- The next step ends the phase at an index. -/
def Work.Ends (i : Nat) : Work → Prop
  | .finish index _ _ _ => index = i
  | _ => False

/-- The steps that some work consists of, up to the work that is left. -/
inductive Work.Makes : Work → List Step → Work → Prop
  | nil (k : Work) : Makes k [] k
  | begin {name : Text} {next : Nat → Work} {i : Nat} {steps : List Step} {k : Work}
      (h : Makes (next i) steps k) : Makes (.begin name next) (.began name i :: steps) k
  | finish {index : Int} {nanos : Int64} {note : Text} {next : Work} {steps : List Step} {k : Work}
      (h : Makes next steps k) :
      Makes (.finish index nanos note next) (.finished index nanos note :: steps) k

theorem Work.Makes.append {k k' k'' : Work} {steps more : List Step} (h : k.Makes steps k')
    (h' : k'.Makes more k'') : k.Makes (steps ++ more) k'' := by
  induction h with
  | nil => exact h'
  | begin _ ih => exact .begin (ih h')
  | finish _ ih => exact .finish (ih h')

theorem Work.makes_step {t t' : Timing} {k k' : Work} {step : Step}
    (h : k.step t = some (step, t', k')) : k.Makes [step] k' := by
  cases k with
  | rest => cases h
  | begin name next =>
    cases h
    exact .begin (.nil _)
  | finish index nanos note next =>
    cases h
    exact .finish (.nil _)

/-! ## The log -/

structure Entry (n : Nat) where
  worker : Fin n
  step : Step
  deriving DecidableEq, Repr

section Log

variable {n : Nat}

/-- The phase a step began, by its name and its index. -/
def Step.begun? : Step → Option (Text × Nat)
  | .began name i => some (name, i)
  | .finished .. => none

/-- The duration and the note that a step gave to the phase at an index. -/
def Step.ended? (i : Nat) : Step → Option (Int64 × Text)
  | .began .. => none
  | .finished index nanos note => if index = i then some (nanos, note) else none

def begun (log : List (Entry n)) : List (Text × Nat) := log.filterMap fun e => e.step.begun?

/-- The last end of the phase at an index. -/
def lastEnd? (i : Nat) (log : List (Entry n)) : Option (Int64 × Text) :=
  (log.filterMap fun e => e.step.ended? i).getLast?

def madeBy (w : Fin n) (log : List (Entry n)) : List Step :=
  (log.filter fun e => e.worker = w).map Entry.step

theorem begun_concat (log : List (Entry n)) (e : Entry n) :
    begun (log ++ [e]) = begun log ++ e.step.begun?.toList := by
  unfold begun
  rw [List.filterMap_append]
  cases h : e.step.begun? <;> simp [h]

theorem lastEnd?_concat (i : Nat) (log : List (Entry n)) (e : Entry n) :
    lastEnd? i (log ++ [e]) = (e.step.ended? i).or (lastEnd? i log) := by
  unfold lastEnd?
  rw [List.filterMap_append]
  cases h : e.step.ended? i <;> simp [h]

theorem madeBy_concat_self (log : List (Entry n)) (w : Fin n) (step : Step) :
    madeBy w (log ++ [⟨w, step⟩]) = madeBy w log ++ [step] := by
  simp [madeBy]

theorem madeBy_concat_of_ne {v w : Fin n} (h : w ≠ v) (log : List (Entry n)) (step : Step) :
    madeBy v (log ++ [⟨w, step⟩]) = madeBy v log := by
  simp [madeBy, h]

/-- An entry of a log that has grown by one is the new one, or it stands in the old log. -/
theorem concat_eq_split {log before after : List (Entry n)} {last e : Entry n}
    (h : log ++ [last] = before ++ e :: after) :
    (e = last ∧ after = []) ∨ ∃ rest, after = rest ++ [last] ∧ log = before ++ e :: rest := by
  rcases List.eq_nil_or_concat' after with rfl | ⟨rest, x, rfl⟩
  · obtain ⟨-, hlast⟩ := List.append_inj' h rfl
    exact Or.inl ⟨(List.cons.inj hlast).1.symm, rfl⟩
  · rw [← List.cons_append, ← List.append_assoc] at h
    obtain ⟨hlog, hlast⟩ := List.append_inj' h rfl
    obtain rfl : last = x := (List.cons.inj hlast).1
    exact Or.inr ⟨rest, rfl, hlog⟩

end Log

/-! ## Turns -/

/-- Workers, the timer they share, and the log of their steps. -/
structure Crew (n : Nat) where
  timing : Timing := {}
  work : Fin n → Work
  log : List (Entry n) := []

namespace Crew

variable {n : Nat}

/-- A worker makes its next step, if it has one. -/
def turn (q : Crew n) (w : Fin n) : Crew n :=
  match (q.work w).step q.timing with
  | none => q
  | some (step, timing, left) =>
    { timing, work := Function.update q.work w left, log := q.log ++ [⟨w, step⟩] }

def run (q : Crew n) (order : List (Fin n)) : Crew n := order.foldl turn q

/-- The timer holds what the log says. -/
structure Recorded (q : Crew n) : Prop where
  begun : begun q.log = (q.timing.phases.map Phase.name).zipIdx
  phases : ∀ before e name i after, q.log = before ++ e :: after → e.step = .began name i →
    q.timing.phases[i]? = some (outcome name (lastEnd? i after))

theorem Recorded.indexes {q : Crew n} (h : q.Recorded) :
    (Timing.begun q.log).map Prod.snd = List.range q.timing.phases.length := by
  rw [h.begun, List.zipIdx_map_snd, List.length_map, List.range_eq_range']

theorem Recorded.lt_of_mem {q : Crew n} (h : q.Recorded) {w : Fin n} {name : Text} {i : Nat}
    (he : ⟨w, .began name i⟩ ∈ q.log) : i < q.timing.phases.length := by
  have hmem : i ∈ (Timing.begun q.log).map Prod.snd :=
    List.mem_map.mpr ⟨(name, i), List.mem_filterMap.mpr ⟨_, he, rfl⟩, rfl⟩
  rw [h.indexes] at hmem
  exact List.mem_range.mp hmem

/-- A phase is given the number of phases that were begun before it. -/
theorem Recorded.index_eq {q : Crew n} (h : q.Recorded) {before after : List (Entry n)} {w : Fin n}
    {name : Text} {i : Nat} (hlog : q.log = before ++ ⟨w, .began name i⟩ :: after) :
    i = (Timing.begun before).length := by
  have hbegun : Timing.begun q.log = Timing.begun before ++ (name, i) :: Timing.begun after := by
    rw [hlog]
    exact List.filterMap_append
  have hindexes := h.indexes
  rw [hbegun, List.map_append, List.map_cons] at hindexes
  have hat := congrArg (·[(Timing.begun before).length]?) hindexes
  simp only at hat
  rw [List.getElem?_append_right (by simp), List.length_map, Nat.sub_self] at hat
  obtain ⟨hlt, hi⟩ := List.getElem?_eq_some_iff.mp hat.symm
  rw [← hi, List.getElem_range]

theorem recorded_start (work : Fin n → Work) : Recorded { work } where
  begun := rfl
  phases := by
    intro before e name i after h
    exact absurd h (by simp)

theorem Recorded.begin {q : Crew n} (h : q.Recorded) (w : Fin n) (name : Text)
    (work : Fin n → Work) :
    Recorded { timing := (q.timing.begin name).2, work,
               log := q.log ++ [⟨w, .began name (q.timing.begin name).1⟩] } where
  begun := by
    rw [begun_concat, h.begun]
    simp only [Timing.begin, List.map_append, List.zipIdx_append, List.length_map, Nat.zero_add]
    rfl
  phases := by
    intro before e name' i after hlog he
    rcases concat_eq_split hlog with ⟨rfl, rfl⟩ | ⟨rest, rfl, hold⟩
    · cases he
      exact List.getElem?_concat_length
    · have hphase := h.phases before e name' i rest hold he
      have hlt := (List.getElem?_eq_some_iff.mp hphase).1
      rw [getElem?_begin hlt, hphase, lastEnd?_concat]
      rfl

theorem Recorded.finish {q : Crew n} (h : q.Recorded) (w : Fin n) (index : Int) (nanos : Int64)
    (note : Text) (work : Fin n → Work) :
    Recorded { timing := q.timing.finish index nanos note, work,
               log := q.log ++ [⟨w, .finished index nanos note⟩] } where
  begun := by
    rw [begun_concat, h.begun, names_finish]
    exact List.append_nil _
  phases := by
    intro before e name i after hlog he
    rcases concat_eq_split hlog with ⟨rfl, -⟩ | ⟨rest, rfl, hold⟩
    · cases he
    · rw [getElem?_finish, h.phases before e name i rest hold he, lastEnd?_concat]
      by_cases hi : index = i
      · simp only [hi, if_true, Step.ended?, Option.map_some, Option.some_or]
        cases lastEnd? i rest <;> rfl
      · simp only [hi, if_false, Step.ended?, Option.none_or]

/-- One turn, whoever takes it. -/
theorem Recorded.turn {q : Crew n} (h : q.Recorded) (w : Fin n) : (q.turn w).Recorded := by
  unfold Crew.turn
  cases q.work w with
  | rest => exact h
  | begin name next => exact h.begin w name _
  | finish index nanos note next => exact h.finish w index nanos note _

theorem Recorded.run {q : Crew n} (h : q.Recorded) (order : List (Fin n)) :
    (q.run order).Recorded := by
  induction order generalizing q with
  | nil => exact h
  | cons w rest ih => exact ih (h.turn w)

/-- Every worker has made the steps that the log has of it, and goes on with the rest. -/
def Follows (work : Fin n → Work) (q : Crew n) : Prop :=
  ∀ w, (work w).Makes (madeBy w q.log) (q.work w)

theorem Follows.turn {work : Fin n → Work} {q : Crew n} (h : Follows work q) (w : Fin n) :
    Follows work (q.turn w) := by
  intro v
  unfold Crew.turn
  split
  · exact h v
  · next step timing left hstep =>
    by_cases hv : w = v
    · subst hv
      simp only [madeBy_concat_self, Function.update_self]
      exact (h w).append (Work.makes_step hstep)
    · simp only [madeBy_concat_of_ne hv, Function.update_of_ne (Ne.symm hv)]
      exact h v

theorem Follows.run {work : Fin n → Work} {q : Crew n} (h : Follows work q) (order : List (Fin n)) :
    Follows work (q.run order) := by
  induction order generalizing q with
  | nil => exact h
  | cons w rest ih => exact ih (h.turn w)

/-- A turn that ends no phase at an index leaves the phase there as it is. -/
theorem getElem?_turn {q : Crew n} {w : Fin n} {i : Nat}
    (hi : i < q.timing.phases.length) (hends : ¬ (q.work w).Ends i) :
    (q.turn w).timing.phases[i]? = q.timing.phases[i]? := by
  unfold Crew.turn
  cases hwork : q.work w with
  | rest => rfl
  | begin name next => exact getElem?_begin hi name
  | finish index nanos note next =>
    rw [hwork] at hends
    have hne : index ≠ i := hends
    show (q.timing.finish index nanos note).phases[i]? = _
    rw [getElem?_finish, if_neg hne]

/-- An end under an index that was never given out has no effect. -/
theorem Recorded.timing_turn {q : Crew n} (h : q.Recorded) {w : Fin n} {index : Int}
    {nanos : Int64} {note : Text} {left : Work} (hwork : q.work w = .finish index nanos note left)
    (hunknown : ∀ i ∈ (Timing.begun q.log).map Prod.snd, index ≠ i) :
    (q.turn w).timing = q.timing := by
  rw [h.indexes] at hunknown
  unfold Crew.turn
  rw [hwork]
  exact finish_eq_self (fun i hi => hunknown i (List.mem_range.mpr hi)) nanos note

end Crew

theorem getElem?_report (t : Timing) (i : Nat) :
    t.report.phases[i]? = t.phases[i]?.map fun p => ⟨p.name, millis p.nanos, p.note⟩ :=
  List.getElem?_map

/-- Whatever the workers do and in whatever order they come to it, the report has one phase
for each that was begun, in order and under its name; no index is given out twice; and a
phase shows the last end that named it after it was begun.  An end under an index that was
not given out changes nothing, a step of one worker changes a phase of another only by naming
its index, and the log has of every worker exactly what it did. -/
theorem timer_loses_no_update {n : Nat} (work : Fin n → Work) (order : List (Fin n)) :
    let q := Crew.run { work } order
    q.timing.report.phases.map PhaseReport.name = (begun q.log).map Prod.fst ∧
      ((begun q.log).map Prod.snd).Nodup ∧
      (∀ before w name i after, q.log = before ++ ⟨w, .began name i⟩ :: after →
        i = (begun before).length ∧
          q.timing.report.phases[i]? = some ((lastEnd? i after).elim ⟨name, millis 0, []⟩
            fun e => ⟨name, millis e.1, e.2⟩)) ∧
      (∀ w index nanos note left, q.work w = .finish index nanos note left →
        (∀ i ∈ (begun q.log).map Prod.snd, index ≠ i) → (q.turn w).timing = q.timing) ∧
      (∀ v w name i, ⟨v, .began name i⟩ ∈ q.log → v ≠ w → ¬ (q.work w).Ends i →
        (q.turn w).timing.phases[i]? = q.timing.phases[i]?) ∧
      ∀ w, (work w).Makes (madeBy w q.log) (q.work w) := by
  intro q
  have hq : q.Recorded := (Crew.recorded_start work).run order
  have hfollows : Crew.Follows work q :=
    Crew.Follows.run (fun w => .nil (work w)) order
  refine ⟨?_, ?_, ?_, ?_, ?_, hfollows⟩
  · rw [hq.begun, List.zipIdx_map_fst]
    exact List.map_map
  · rw [hq.indexes]
    exact List.nodup_range
  · intro before w name i after hlog
    refine ⟨hq.index_eq hlog, ?_⟩
    rw [getElem?_report, hq.phases before _ name i after hlog rfl]
    cases lastEnd? i after <;> rfl
  · intro w index nanos note left hwork hunknown
    exact hq.timing_turn hwork hunknown
  · intro v w name i hbegan _ hends
    exact Crew.getElem?_turn (hq.lt_of_mem hbegan) hends

/-- One worker ends its phase twice.  The other ends a phase that is not there yet and one
that never is, begins a phase, and ends the phase of the first. -/
def hurriedWork : Fin 2 → Work
  | 0 => .begin "decode" fun i => .finish i 7 "first" (.finish i 9 "again" .rest)
  | 1 =>
    .finish 1 5 "early" (.finish (-1) 5 "never" (.begin "lower" fun _ => .finish 0 3 "late" .rest))

theorem hurriedWork_reported :
    let q := Crew.run { work := hurriedWork } [1, 0, 1, 0, 1, 0, 1]
    q.timing.report.phases.map PhaseReport.name = [Text.ofString "decode", Text.ofString "lower"] ∧
      q.timing.report.phases[0]? = some ⟨"decode", millis 3, "late"⟩ ∧
      q.timing.report.phases[1]? = some ⟨"lower", millis 0, []⟩ ∧
      (Crew.run { work := hurriedWork } [1, 0, 1]).timing =
        (Crew.run { work := hurriedWork } [1, 0]).timing := by
  intro q
  obtain ⟨hnames, -, hphase, -⟩ := timer_loses_no_update hurriedWork [1, 0, 1, 0, 1, 0, 1]
  obtain ⟨-, -, -, hunknown, -⟩ := timer_loses_no_update hurriedWork [1, 0]
  refine ⟨hnames.trans (by decide), ?_, ?_, ?_⟩
  · exact (hphase [⟨1, .finished 1 5 "early"⟩] 0 "decode" 0 _ rfl).2
  · exact (hphase [⟨1, .finished 1 5 "early"⟩, ⟨0, .began "decode" 0⟩,
      ⟨1, .finished (-1) 5 "never"⟩, ⟨0, .finished 0 7 "first"⟩] 1 "lower" 1 _ rfl).2
  · exact hunknown 1 (-1) 5 "never" _ rfl (by decide)

end Timing
end FeltLowering
