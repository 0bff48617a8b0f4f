import FeltLowering.Trace.Journal

/-
The events of passes and of the points marked in them.

`Journal.markAll` and `Journal.stages` write points and whole passes into a journal.  Their
events are known from the level, the number of spans so far and what is written:
`Journal.markAll_eq`, `Journal.stages_eq`.  A level that records no spans records nothing
of all this (`Journal.stages_of_quiet`).
-/
namespace FeltLowering
namespace Trace

/-- A point that a declaration gives rise to. -/
inductive Mark where
  | declared (label generic : Text)
  | lowered (name size : Text)
  deriving DecidableEq, Repr

namespace Mark

def scope : Mark → Scope
  | .declared .. => .decl
  | .lowered .. => .instr

def name : Mark → Text
  | .declared label _ => label
  | .lowered name _ => name

def detail : Mark → Text
  | .declared _ generic => generic
  | .lowered _ size => size

def event (now : Timestamp) (parent : Nat) (m : Mark) : Event :=
  { time := now, kind := .point, scope := m.scope, parent, name := m.name, detail := m.detail }

end Mark

/-- A pass, with the points marked in it. -/
structure Stage where
  name : Text
  marks : List Mark
  /-- The detail that the pass ends with. -/
  detail : Text
  deriving DecidableEq, Repr

namespace Stage

def opening (now : Timestamp) (parent number : Nat) (s : Stage) : Event :=
  { time := now, kind := .begin, scope := .pass, span := number, parent, name := s.name }

def closing (now : Timestamp) (parent number : Nat) (s : Stage) : Event :=
  { time := now, kind := .finish, scope := .pass, span := number, parent, name := s.name,
    detail := s.detail }

def points (level : Level) (now : Timestamp) (number : Nat) (s : Stage) : List Event :=
  (s.marks.filter fun m => level.passes m.scope).map (Mark.event now number)

def events (level : Level) (now : Timestamp) (parent number : Nat) (s : Stage) : List Event :=
  s.opening now parent number :: (s.points level now number ++ [s.closing now parent number])

end Stage

def stagesEvents (level : Level) (now : Timestamp) (parent : Nat) : Nat → List Stage → List Event
  | _, [] => []
  | n, s :: rest => s.events level now parent (n + 1) ++ stagesEvents level now parent (n + 1) rest

/-! ## Levels -/

namespace Level

/-- A level either records spans of all kinds or none. -/
theorem passes_driver (l : Level) : l.passes .driver = l.passes .pass := by
  cases l <;> rfl

theorem not_passes_mark {l : Level} (h : l.passes .pass = false) (m : Mark) :
    l.passes m.scope = false := by
  cases m <;> cases l <;> first | rfl | cases h

theorem passes_error {l : Level} (h : l ≠ .off) : l.passes .error = true := by
  cases l with
  | off => exact absurd rfl h
  | _ => rfl

theorem passes_pass_iff {l : Level} : l.passes .pass = true ↔ l ≠ .off ∧ l ≠ .error := by
  cases l <;> decide

end Level

namespace Journal

def markAll (j : Journal) (parent : Nat) (ms : List Mark) : Journal :=
  ms.foldl (fun j m => j.point m.scope m.name m.detail parent) j

theorem markAll_append (j : Journal) (parent : Nat) (ms ms' : List Mark) :
    j.markAll parent (ms ++ ms') = (j.markAll parent ms).markAll parent ms' := List.foldl_append

theorem markAll_eq (j : Journal) (parent : Nat) (ms : List Mark) :
    j.markAll parent ms = { j with
      events := j.events ++ (ms.filter fun m => j.level.passes m.scope).map (Mark.event j.now parent) } := by
  induction ms generalizing j with
  | nil =>
    rw [List.filter_nil, List.map_nil, List.append_nil]
    rfl
  | cons m ms ih =>
    have hstep : j.markAll parent (m :: ms) =
        (j.point m.scope m.name m.detail parent).markAll parent ms := rfl
    rw [hstep, ih]
    by_cases hm : j.level.passes m.scope = true
    · rw [point, if_pos hm, List.filter_cons_of_pos (by exact hm), List.map_cons]
      show { j with events := _ } = { j with events := _ }
      rw [List.append_cons]
      rfl
    · rw [point, if_neg hm, List.filter_cons_of_neg (by exact hm)]

/-- A pass that has not ended. -/
def enter (j : Journal) (parent : Nat) (name : Text) (ms : List Mark) : Journal :=
  let (span, j) := j.begin .pass name parent
  j.markAll span.id ms

def stage (j : Journal) (parent : Nat) (s : Stage) : Journal :=
  (j.enter parent s.name s.marks).finish (j.begin .pass s.name parent).1 s.detail

def stages (j : Journal) (parent : Nat) (ss : List Stage) : Journal :=
  ss.foldl (fun j s => j.stage parent s) j

theorem stages_concat (j : Journal) (parent : Nat) (ss : List Stage) (s : Stage) :
    j.stages parent (ss ++ [s]) = (j.stages parent ss).stage parent s := List.foldl_append

section Loud

variable {j : Journal}

theorem begin_of_passes {scope : Scope} (h : j.level.passes scope = true) (name : Text) (parent : Nat) :
    j.begin scope name parent =
      (⟨true, j.spans + 1, parent, scope, name, none⟩,
        { j with
          spans := j.spans + 1
          events := j.events ++
            [{ time := j.now, kind := .begin, scope, span := j.spans + 1, parent, name }] }) := by
  unfold Journal.begin
  rw [if_pos h]
  rfl

theorem enter_eq (h : j.level.passes .pass = true) (parent : Nat) (s : Stage) :
    j.enter parent s.name s.marks = { j with
      spans := j.spans + 1
      events := j.events ++
        s.opening j.now parent (j.spans + 1) :: s.points j.level j.now (j.spans + 1) } := by
  unfold enter
  rw [begin_of_passes h]
  dsimp only
  rw [markAll_eq]
  dsimp only
  rw [List.append_assoc]
  rfl

theorem stage_eq (h : j.level.passes .pass = true) (parent : Nat) (s : Stage) :
    j.stage parent s = { j with
      spans := j.spans + 1
      events := j.events ++ s.events j.level j.now parent (j.spans + 1) } := by
  unfold stage
  rw [begin_of_passes h, enter_eq h, finish, if_pos rfl, append]
  dsimp only
  rw [List.append_assoc]
  rfl

theorem stages_eq (h : j.level.passes .pass = true) (parent : Nat) (ss : List Stage) :
    j.stages parent ss = { j with
      spans := j.spans + ss.length
      events := j.events ++ stagesEvents j.level j.now parent j.spans ss } := by
  induction ss generalizing j with
  | nil =>
    rw [stagesEvents, List.append_nil]
    rfl
  | cons s ss ih =>
    have hstep : j.stages parent (s :: ss) = (j.stage parent s).stages parent ss := rfl
    have hlevel : (j.stage parent s).level.passes .pass = true := by
      rw [stage_eq h]
      exact h
    rw [hstep, ih hlevel, stage_eq h]
    dsimp only
    rw [stagesEvents, List.append_assoc, List.length_cons, Nat.add_assoc, Nat.add_comm 1]

end Loud

section Quiet

variable {j : Journal}

theorem begin_of_quiet {scope : Scope} (h : j.level.passes scope = false) (name : Text) (parent : Nat) :
    j.begin scope name parent = (⟨false, 0, parent, .unnamed 0, [], none⟩, j) := by
  unfold Journal.begin
  rw [if_neg (Bool.eq_false_iff.mp h)]

theorem enter_of_quiet (h : j.level.passes .pass = false) (parent : Nat) (name : Text)
    (ms : List Mark) : j.enter parent name ms = j := by
  have hnone : ms.filter (fun m => j.level.passes m.scope) = [] := by
    refine List.filter_eq_nil_iff.mpr fun m _ => ?_
    exact Bool.eq_false_iff.mp (Level.not_passes_mark h m)
  unfold enter
  rw [begin_of_quiet h]
  dsimp only
  rw [markAll_eq, hnone, List.map_nil, List.append_nil]

theorem stage_of_quiet (h : j.level.passes .pass = false) (parent : Nat) (s : Stage) :
    j.stage parent s = j := by
  unfold stage
  rw [begin_of_quiet h, enter_of_quiet h]
  rfl

theorem stages_of_quiet (h : j.level.passes .pass = false) (parent : Nat) (ss : List Stage) :
    j.stages parent ss = j := by
  induction ss with
  | nil => rfl
  | cons s ss ih =>
    have hstep : j.stages parent (s :: ss) = (j.stage parent s).stages parent ss := rfl
    rw [hstep, stage_of_quiet h, ih]

end Quiet
end Journal

/-! ## Points in a list of events -/

/-- Names and details of the events of a scope. -/
def reported (scope : Scope) (es : List Event) : List (Text × Text) :=
  (es.filter (·.scope = scope)).map fun e => (e.name, e.detail)

theorem reported_append (scope : Scope) (es es' : List Event) :
    reported scope (es ++ es') = reported scope es ++ reported scope es' := by
  unfold reported
  rw [List.filter_append, List.map_append]

/-- Names and details of the points of a scope. -/
def Mark.select (scope : Scope) (ms : List Mark) : List (Text × Text) :=
  (ms.filter (·.scope = scope)).map fun m => (m.name, m.detail)

theorem Mark.select_append (scope : Scope) (ms ms' : List Mark) :
    select scope (ms ++ ms') = select scope ms ++ select scope ms' := by
  unfold select
  rw [List.filter_append, List.map_append]

theorem reported_points (scope : Scope) (level : Level) (now : Timestamp) (number : Nat) (s : Stage) :
    reported scope (s.points level now number) =
      if level.passes scope then Mark.select scope s.marks else [] := by
  have hevents : ∀ ms, reported scope (ms.map (Mark.event now number)) = Mark.select scope ms := by
    intro ms
    rw [reported, List.filter_map, List.map_map]
    rfl
  rw [Stage.points, hevents, Mark.select, List.filter_filter]
  by_cases hpass : level.passes scope = true
  · rw [if_pos hpass, Mark.select]
    congr 1
    refine List.filter_congr fun m _ => ?_
    by_cases hm : m.scope = scope
    · rw [hm, hpass, Bool.and_true]
    · rw [decide_eq_false hm, Bool.false_and]
  · rw [if_neg hpass]
    refine List.map_eq_nil_iff.mpr (List.filter_eq_nil_iff.mpr fun m _ hm => ?_)
    obtain ⟨hscope, hlevel⟩ := Bool.and_eq_true_iff.mp hm
    exact hpass (of_decide_eq_true hscope ▸ hlevel)

/-- What passes report of a scope is what was marked, if the level records it. -/
theorem reported_stagesEvents {scope : Scope} (hscope : scope ≠ .pass) (level : Level)
    (now : Timestamp) (parent n : Nat) (ss : List Stage) :
    reported scope (stagesEvents level now parent n ss) =
      if level.passes scope then Mark.select scope (ss.flatMap Stage.marks) else [] := by
  induction ss generalizing n with
  | nil =>
    show [] = _
    split <;> rfl
  | cons s ss ih =>
    have hspan : ∀ e : Event, e.scope = .pass → reported scope [e] = [] := by
      intro e he
      rw [reported, List.filter_cons_of_neg]
      · rfl
      · rw [he, decide_eq_true_iff]
        exact fun h => hscope h.symm
    rw [stagesEvents, reported_append, ih, Stage.events, ← List.singleton_append, reported_append,
      reported_append, hspan _ rfl, hspan _ rfl, reported_points, List.flatMap_cons,
      Mark.select_append]
    split
    · rw [List.nil_append, List.append_nil]
    · rfl

theorem reported_eq_nil {scope : Scope} {es : List Event} (h : ∀ e ∈ es, e.scope ≠ scope) :
    reported scope es = [] := by
  refine List.map_eq_nil_iff.mpr (List.filter_eq_nil_iff.mpr fun e he hscope => ?_)
  exact h e he (of_decide_eq_true hscope)

namespace Journal

/-- What is shown of a pass that has not ended and of those before it. -/
theorem reported_enter (j : Journal) (parent : Nat) (ss : List Stage) (name : Text) (ms : List Mark) :
    ∃ fresh, ((j.stages parent ss).enter parent name ms).events = j.events ++ fresh ∧
      ∀ m : Mark, reported m.scope fresh = if j.level.passes m.scope then
        Mark.select m.scope (ss.flatMap Stage.marks ++ ms) else [] := by
  by_cases hpass : j.level.passes .pass = true
  · have hlevel : (j.stages parent ss).level.passes .pass = true := by
      rw [stages_eq hpass]
      exact hpass
    have hevents := congrArg Journal.events (enter_eq hlevel parent ⟨name, ms, []⟩)
    rw [stages_eq hpass] at hevents ⊢
    dsimp only at hevents
    rw [List.append_assoc] at hevents
    refine ⟨_, hevents, fun m => ?_⟩
    have hscope : m.scope ≠ .pass := by
      cases m <;> exact fun h => nomatch h
    rw [reported_append, reported_stagesEvents hscope, ← List.singleton_append, reported_append,
      reported_points, reported_eq_nil, Mark.select_append]
    · split
      · rfl
      · rfl
    · intro e he
      rw [List.mem_singleton.mp he]
      exact hscope.symm
  · have hquiet := Bool.eq_false_iff.mpr hpass
    refine ⟨[], ?_, fun m => ?_⟩
    · rw [stages_of_quiet hquiet, enter_of_quiet hquiet, List.append_nil]
    · rw [Level.not_passes_mark hquiet]
      rfl

theorem begin_scope (j : Journal) (scope : Scope) (name : Text) (parent : Nat) :
    (j.begin scope name parent).1.scope = scope ∨
      (j.begin scope name parent).1.scope = .unnamed 0 := by
  unfold Journal.begin
  split
  · exact Or.inl rfl
  · exact Or.inr rfl

theorem begin_events (j : Journal) (scope : Scope) (name : Text) (parent : Nat) :
    (j.begin scope name parent).2.level = j.level ∧
      ∃ es, (j.begin scope name parent).2.events = j.events ++ es ∧ ∀ e ∈ es, e.scope = scope := by
  unfold Journal.begin
  split
  · refine ⟨rfl, [_], rfl, fun e he => ?_⟩
    rw [List.mem_singleton.mp he]
  · exact ⟨rfl, [], (List.append_nil _).symm, fun e he => absurd he List.not_mem_nil⟩

theorem finish_events (j : Journal) (span : Span) (detail : Text) :
    ∃ es, (j.finish span detail).events = j.events ++ es ∧ ∀ e ∈ es, e.scope = span.scope := by
  unfold finish
  split
  · refine ⟨[_], rfl, fun e he => ?_⟩
    rw [List.mem_singleton.mp he]
  · exact ⟨[], (List.append_nil _).symm, fun e he => absurd he List.not_mem_nil⟩

theorem point_events (j : Journal) (scope : Scope) (name detail : Text) (parent : Nat) :
    ∃ es, (j.point scope name detail parent).events = j.events ++ es ∧ ∀ e ∈ es, e.scope = scope := by
  unfold point
  split
  · refine ⟨[_], rfl, fun e he => ?_⟩
    rw [List.mem_singleton.mp he]
  · exact ⟨[], (List.append_nil _).symm, fun e he => absurd he List.not_mem_nil⟩

end Journal
end Trace
end FeltLowering
