import FeltLowering.Proofs.Trace.Recording
import FeltLowering.Proofs.Trace.Ring

/-
Programs of nested spans.

A forest is a program that opens and closes spans and marks points, each under the id of
the span around it.  `Forest.moments` lists what such a program does, level or no level,
with the spans around it.  What is recorded are the moments whose scope passes, and each
refers to the innermost span around it that is recorded (`run_eq`): a filtered span gives
its parent's id to what is inside.

A forest is recorded in full at the level `debug`.  A filtered recording is the full one of
the forest in which the filtered spans are replaced by what is inside them
(`run_contract`), and of no other forest (`run_full_events_iff`).
-/
namespace FeltLowering
namespace Trace

inductive Forest where
  | nil
  | point (scope : Scope) (name detail : Text) (rest : Forest)
  | span (scope : Scope) (name detail : Text) (inside rest : Forest)
  deriving DecidableEq, Repr

/-- Something a program does. -/
structure Moment where
  kind : Kind
  scope : Scope
  name : Text
  detail : Text := []
  /-- The span that begins or ends, by its position among all spans. -/
  own : Option Nat := none
  /-- The spans around it, by their positions, innermost first. -/
  around : List Nat
  deriving DecidableEq, Repr

namespace Forest

/-- Traces a forest under a parent. -/
def run : Forest → Journal → (parent : Nat) → Journal
  | .nil, j, _ => j
  | .point scope name detail rest, j, parent =>
    rest.run (j.point scope name detail parent) parent
  | .span scope name detail inside rest, j, parent =>
    let opened := j.begin scope name parent
    rest.run ((inside.run opened.2 opened.1.id).finish opened.1 detail) parent

def scopes : Forest → List Scope
  | .nil => []
  | .point _ _ _ rest => rest.scopes
  | .span scope _ _ inside rest => scope :: (inside.scopes ++ rest.scopes)

/-- What a forest does, after `next` spans and inside the spans `around`. -/
def moments : Forest → (next : Nat) → (around : List Nat) → List Moment
  | .nil, _, _ => []
  | .point scope name detail rest, next, around =>
    { kind := .point, scope, name, detail, around } :: rest.moments next around
  | .span scope name detail inside rest, next, around =>
    { kind := .begin, scope, name, own := some next, around } ::
      (inside.moments (next + 1) (next :: around) ++
        { kind := .finish, scope, name, detail, own := some next, around } ::
          rest.moments (next + 1 + inside.scopes.length) around)

end Forest

/-! ## What is recorded -/

section Recorded

variable (level : Level) (n : Nat) (scopes : List Scope)

/-- The number of the spans among the first `k` that a level records. -/
def recordedBefore (k : Nat) : Nat := (scopes.take k).countP level.passes

/-- The id of a recorded span, after `n` earlier ones. -/
def spanId (k : Nat) : Nat := n + recordedBefore level scopes (k + 1)

def isRecorded (k : Nat) : Bool := scopes[k]?.any level.passes

/-- The id of the innermost recorded span around a moment, or else the parent of all. -/
def nearestId (parent : Nat) (around : List Nat) : Nat :=
  ((around.find? (isRecorded level scopes)).map (spanId level n scopes)).getD parent

def Moment.event (now : Timestamp) (parent : Nat) (m : Moment) : Event :=
  { time := now, kind := m.kind, scope := m.scope,
    span := (m.own.map (spanId level n scopes)).getD 0,
    parent := nearestId level n scopes parent m.around, name := m.name, detail := m.detail }

def recorded (now : Timestamp) (parent : Nat) (ms : List Moment) : List Event :=
  (ms.filter fun m => level.passes m.scope).map (Moment.event level n scopes now parent)

variable {level n scopes}

theorem recorded_append (now : Timestamp) (parent : Nat) (ms ms' : List Moment) :
    recorded level n scopes now parent (ms ++ ms') =
      recorded level n scopes now parent ms ++ recorded level n scopes now parent ms' := by
  unfold recorded
  rw [List.filter_append, List.map_append]

theorem recorded_cons_of_passes {m : Moment} (h : level.passes m.scope = true) (now : Timestamp)
    (parent : Nat) (ms : List Moment) :
    recorded level n scopes now parent (m :: ms) =
      m.event level n scopes now parent :: recorded level n scopes now parent ms := by
  unfold recorded
  rw [List.filter_cons_of_pos (by exact h), List.map_cons]

theorem recorded_cons_of_quiet {m : Moment} (h : level.passes m.scope = false) (now : Timestamp)
    (parent : Nat) (ms : List Moment) :
    recorded level n scopes now parent (m :: ms) = recorded level n scopes now parent ms := by
  unfold recorded
  rw [List.filter_cons_of_neg (by simp [h])]

theorem recordedBefore_succ {k : Nat} {scope : Scope} (h : scopes[k]? = some scope) :
    recordedBefore level scopes (k + 1) =
      recordedBefore level scopes k + (level.passes scope).toNat := by
  unfold recordedBefore
  rw [List.take_add_one, List.countP_append, h]
  cases hp : level.passes scope <;> simp [hp]

theorem nearestId_cons_of_passes {k parent : Nat} {scope : Scope} {around : List Nat}
    (h : scopes[k]? = some scope) (hp : level.passes scope = true) :
    nearestId level n scopes parent (k :: around) = spanId level n scopes k := by
  have hk : isRecorded level scopes k = true := by simp [isRecorded, h, hp]
  unfold nearestId
  rw [List.find?_cons_of_pos hk]
  rfl

theorem nearestId_cons_of_quiet {k parent : Nat} {scope : Scope} {around : List Nat}
    (h : scopes[k]? = some scope) (hp : level.passes scope = false) :
    nearestId level n scopes parent (k :: around) = nearestId level n scopes parent around := by
  have hk : ¬isRecorded level scopes k = true := by simp [isRecorded, h, hp]
  unfold nearestId
  rw [List.find?_cons_of_neg hk]

end Recorded

namespace Journal

variable {j : Journal} {scope : Scope}

theorem point_of_passes (h : j.level.passes scope = true) (name detail : Text) (parent : Nat) :
    j.point scope name detail parent = { j with
      events := j.events ++ [{ time := j.now, kind := .point, scope, parent, name, detail }] } := by
  unfold point
  rw [if_pos h]
  rfl

theorem point_of_quiet (h : j.level.passes scope = false) (name detail : Text) (parent : Nat) :
    j.point scope name detail parent = j := by
  unfold point
  rw [if_neg (Bool.eq_false_iff.mp h)]

theorem level_point (j : Journal) (scope : Scope) (name detail : Text) (parent : Nat) :
    (j.point scope name detail parent).level = j.level := by
  unfold point
  split <;> rfl

def full (j : Journal) : Journal := { j with level := .debug }

theorem full_point (h : j.level.passes scope = true) (name detail : Text) (parent : Nat) :
    j.full.point scope name detail parent = (j.point scope name detail parent).full := by
  rw [point_of_passes h, point_of_passes rfl]
  rfl

theorem full_begin (h : j.level.passes scope = true) (name : Text) (parent : Nat) :
    (j.full.begin scope name parent).2 = (j.begin scope name parent).2.full := by
  rw [begin_of_passes h, begin_of_passes rfl]
  rfl

theorem full_append (j : Journal) (e : Event) : j.full.append e = (j.append e).full := rfl

end Journal

namespace Forest

section Prefix

variable {all before after : List Scope} {scope : Scope} {next : Nat}

theorem getElem?_of_cons_prefix (h : scope :: (before ++ after) <+: all.drop next) :
    all[next]? = some scope ∧ before <+: all.drop (next + 1) ∧
      after <+: all.drop (next + 1 + before.length) := by
  obtain ⟨rest, hrest⟩ := h
  have hhead : all[next]? = some scope := by
    have := congrArg (fun l => l[0]?) hrest
    simpa using this.symm
  have htail : all.drop (next + 1) = before ++ (after ++ rest) := by
    rw [← List.tail_drop, ← hrest]
    simp
  refine ⟨hhead, ⟨after ++ rest, htail.symm⟩, rest, ?_⟩
  rw [← List.drop_drop, htail, List.drop_left]

end Prefix

section Span

variable {j : Journal} {scope : Scope}

/-- Step: a recorded span stands around its inside under the next id. -/
theorem run_span_of_passes (h : j.level.passes scope = true) (name detail : Text)
    (inside rest : Forest) (parent : Nat) :
    (span scope name detail inside rest).run j parent =
      rest.run ((inside.run (j.begin scope name parent).2 (j.spans + 1)).append
        { kind := .finish, scope, span := j.spans + 1, parent, name, detail }) parent := by
  rw [run, Journal.begin_of_passes h]
  rfl

/-- Step: a filtered span is its inside. -/
theorem run_span_of_quiet (h : j.level.passes scope = false) (name detail : Text)
    (inside rest : Forest) (parent : Nat) :
    (span scope name detail inside rest).run j parent = rest.run (inside.run j parent) parent := by
  rw [run, Journal.begin_of_quiet h]
  rfl

end Span

/-- Run: a forest inside some spans records its moments. -/
theorem run_eq {level : Level} {n parent next : Nat} {all : List Scope} {around : List Nat}
    {f : Forest} {j : Journal} (hlevel : j.level = level)
    (hspans : j.spans = n + recordedBefore level all next) (hscopes : f.scopes <+: all.drop next) :
    f.run j (nearestId level n all parent around) =
      { j with
        spans := n + recordedBefore level all (next + f.scopes.length)
        events := j.events ++ recorded level n all j.now parent (f.moments next around) } := by
  induction f generalizing next around j with
  | nil =>
    have hnone : recorded level n all j.now parent [] = [] := rfl
    rw [scopes, List.length_nil, Nat.add_zero, ← hspans, moments, hnone, List.append_nil]
    rfl
  | point scope name detail rest ih =>
    rw [run, moments, scopes]
    cases hp : level.passes scope with
    | true =>
      rw [Journal.point_of_passes (hlevel ▸ hp), recorded_cons_of_passes (by exact hp),
        ih (by exact hlevel) (by exact hspans) hscopes]
      dsimp only
      rw [List.append_assoc]
      rfl
    | false =>
      rw [Journal.point_of_quiet (hlevel ▸ hp), recorded_cons_of_quiet (by exact hp),
        ih hlevel hspans hscopes]
  | span scope name detail inside rest ihi ihr =>
    obtain ⟨hscope, hinside, hrest⟩ := getElem?_of_cons_prefix hscopes
    have hnext : recordedBefore level all (next + 1) =
        recordedBefore level all next + (level.passes scope).toNat := recordedBefore_succ hscope
    have hlen : next + (span scope name detail inside rest).scopes.length =
        next + 1 + inside.scopes.length + rest.scopes.length := by
      simp only [scopes, List.length_cons, List.length_append]
      omega
    rw [moments, hlen]
    cases hp : level.passes scope with
    | true =>
      -- The span is recorded, and its id is what its inside refers to.
      have hid : j.spans + 1 = spanId level n all next := by
        rw [spanId, hnext, hp, hspans, Bool.toNat_true, Nat.add_assoc]
      have hown : nearestId level n all parent (next :: around) = j.spans + 1 :=
        (nearestId_cons_of_passes hscope hp).trans hid.symm
      rw [run_span_of_passes (hlevel ▸ hp), Journal.begin_of_passes (hlevel ▸ hp), ← hown,
        ihi (by exact hlevel) (by exact hown.trans hid) hinside, Journal.append,
        ihr (by exact hlevel) rfl hrest, hown, recorded_cons_of_passes (by exact hp),
        recorded_append, recorded_cons_of_passes (by exact hp)]
      simp only [Moment.event, Option.map_some, Option.getD_some, ← hid, List.append_assoc,
        List.cons_append, List.nil_append]
    | false =>
      have hsame : j.spans = n + recordedBefore level all (next + 1) := by
        rw [hnext, hp, hspans]
        rfl
      have hparent : nearestId level n all parent (next :: around) =
          nearestId level n all parent around := nearestId_cons_of_quiet hscope hp
      rw [run_span_of_quiet (hlevel ▸ hp), ← hparent, ihi hlevel hsame hinside, hparent,
        ihr (by exact hlevel) rfl hrest, recorded_cons_of_quiet (by exact hp), recorded_append,
        recorded_cons_of_quiet (by exact hp)]
      simp only [List.append_assoc]

theorem run_top (f : Forest) (j : Journal) (parent : Nat) :
    f.run j parent =
      { j with
        spans := j.spans + f.scopes.countP j.level.passes
        events := j.events ++ recorded j.level j.spans f.scopes j.now parent (f.moments 0 []) } := by
  have hall : recordedBefore j.level f.scopes (0 + f.scopes.length) =
      f.scopes.countP j.level.passes := by
    rw [recordedBefore, Nat.zero_add, List.take_length]
  rw [← hall]
  exact @run_eq j.level j.spans parent 0 f.scopes [] f j rfl rfl List.prefix_rfl

theorem run_level (f : Forest) (j : Journal) (parent : Nat) : (f.run j parent).level = j.level := by
  rw [run_top]

/-! ## Contraction -/

def append : Forest → Forest → Forest
  | .nil, g => g
  | .point scope name detail rest, g => .point scope name detail (rest.append g)
  | .span scope name detail inside rest, g => .span scope name detail inside (rest.append g)

/-- The forest without what a level filters out: a filtered span leaves what is inside it in
its place. -/
def contract (level : Level) : Forest → Forest
  | .nil => .nil
  | .point scope name detail rest =>
    if level.passes scope then .point scope name detail (rest.contract level)
    else rest.contract level
  | .span scope name detail inside rest =>
    if level.passes scope then
      .span scope name detail (inside.contract level) (rest.contract level)
    else (inside.contract level).append (rest.contract level)

theorem run_append (f g : Forest) (j : Journal) (parent : Nat) :
    (f.append g).run j parent = g.run (f.run j parent) parent := by
  induction f generalizing j with
  | nil => rfl
  | point scope name detail rest ih => exact ih _
  | span scope name detail inside rest _ ih => exact ih _

/-- What a level records of a forest is all that there is to record of its contraction. -/
theorem run_contract {level : Level} (f : Forest) {j : Journal} (hlevel : j.level = level)
    (parent : Nat) : (f.contract level).run j.full parent = (f.run j parent).full := by
  induction f generalizing j parent with
  | nil => rfl
  | point scope name detail rest ih =>
    cases hp : level.passes scope with
    | true =>
      rw [contract, if_pos hp, run, run, Journal.full_point (hlevel ▸ hp),
        ih ((j.level_point ..).trans hlevel)]
    | false =>
      rw [contract, if_neg (Bool.eq_false_iff.mp hp), run, Journal.point_of_quiet (hlevel ▸ hp),
        ih hlevel]
  | span scope name detail inside rest ihi ihr =>
    cases hp : level.passes scope with
    | true =>
      have hopened : (j.begin scope name parent).2.level = level :=
        (j.begin_events scope name parent).1.trans hlevel
      rw [contract, if_pos hp, run_span_of_passes rfl, run_span_of_passes (hlevel ▸ hp),
        Journal.full_begin (hlevel ▸ hp), ihi hopened, Journal.full_append]
      exact ihr (by exact (run_level ..).trans hopened) parent
    | false =>
      rw [contract, if_neg (Bool.eq_false_iff.mp hp), run_append, run_span_of_quiet (hlevel ▸ hp),
        ihi hlevel, ihr ((run_level ..).trans hlevel)]

end Forest

def Event.shape (e : Event) : Kind × Scope × Text × Text := (e.kind, e.scope, e.name, e.detail)

namespace Forest

def outline : Forest → List (Kind × Scope × Text × Text)
  | .nil => []
  | .point scope name detail rest => (.point, scope, name, detail) :: rest.outline
  | .span scope name detail inside rest =>
    (.begin, scope, name, []) :: (inside.outline ++ (.finish, scope, name, detail) :: rest.outline)

/-- Nothing follows, or else the end of a span. -/
def Closes (x : List (Kind × Scope × Text × Text)) : Prop := ∀ s ∈ x.head?, s.1 = .finish

theorem closes_finish (s : Scope × Text × Text) (x : List (Kind × Scope × Text × Text)) :
    Closes ((.finish, s) :: x) := by
  intro s hs
  cases hs
  rfl

theorem outline_append_inj {f g : Forest} {x y : List (Kind × Scope × Text × Text)}
    (hx : Closes x) (hy : Closes y) (h : f.outline ++ x = g.outline ++ y) : f = g ∧ x = y := by
  -- What follows is generalised, since the outline of an inside ends where the span does.
  induction f generalizing g x y with
  | nil =>
    cases g with
    | nil => exact ⟨rfl, h⟩
    | point | span => exact nomatch hx _ (congrArg List.head? h)
  | point scope name detail rest ih =>
    cases g with
    | nil => exact nomatch hy _ (congrArg List.head? h.symm)
    | point =>
      obtain ⟨hhead, htail⟩ := List.cons.inj h
      obtain ⟨rfl, rfl⟩ := ih hx hy htail
      cases hhead
      exact ⟨rfl, rfl⟩
    | span => exact nomatch (List.cons.inj h).1
  | span scope name detail inside rest ihi ihr =>
    cases g with
    | nil => exact nomatch hy _ (congrArg List.head? h.symm)
    | point => exact nomatch (List.cons.inj h).1
    | span scope' name' detail' inside' rest' =>
      rw [outline, outline, List.cons_append, List.cons_append, List.append_assoc,
        List.append_assoc] at h
      obtain ⟨-, htail⟩ := List.cons.inj h
      obtain ⟨rfl, hafter⟩ := ihi (closes_finish _ _) (closes_finish _ _) htail
      obtain ⟨hhead, hrest⟩ := List.cons.inj hafter
      obtain ⟨rfl, rfl⟩ := ihr hx hy hrest
      cases hhead
      exact ⟨rfl, rfl⟩

theorem outline_injective {f g : Forest} (h : f.outline = g.outline) : f = g := by
  have hnone : Closes [] := fun _ hs => nomatch hs
  refine (outline_append_inj hnone hnone ?_).1
  rw [h]

/-- A full recording has the outline of the forest. -/
theorem shape_run (f : Forest) {j : Journal} (hlevel : j.level = .debug) (parent : Nat) :
    (f.run j parent).events.map Event.shape = j.events.map Event.shape ++ f.outline := by
  induction f generalizing j parent with
  | nil => exact (List.append_nil _).symm
  | point scope name detail rest ih =>
    rw [run, Journal.point_of_passes (by rw [hlevel]; rfl), ih (by exact hlevel)]
    dsimp only
    rw [List.map_append, List.append_assoc]
    rfl
  | span scope name detail inside rest ihi ihr =>
    have hp : j.level.passes scope = true := by
      rw [hlevel]
      rfl
    rw [run_span_of_passes hp, Journal.begin_of_passes hp,
      ihr (by exact (run_level _ _ _).trans hlevel), Journal.append]
    dsimp only
    rw [List.map_append, ihi (by exact hlevel), List.map_append]
    simp only [outline, List.append_assoc, List.map_cons, List.map_nil, List.cons_append,
      List.nil_append]
    rfl

/-- A full recording belongs to one forest. -/
theorem run_full_events_iff {f g : Forest} {j : Journal} {parent : Nat} :
    (g.run j.full parent).events = (f.run j.full parent).events ↔ g = f := by
  refine ⟨fun h => ?_, fun h => by rw [h]⟩
  have hshape := congrArg (List.map Event.shape) h
  rw [shape_run g rfl, shape_run f rfl] at hshape
  exact outline_injective (List.append_cancel_left hshape)

end Forest

theorem resolve_of_mem_numbered {pairs : List Pairs} {n : Nat} {es : List Event} {e : Event}
    (h : ∀ e ∈ es, e.extra = .none) (he : e ∈ numbered n es) : e.resolve pairs = e := by
  induction es generalizing n with
  | nil => exact absurd he List.not_mem_nil
  | cons e' es ih =>
    rcases List.mem_cons.mp he with rfl | he
    · simp only [Event.resolve, h e' List.mem_cons_self]
    · exact ih (fun e he => h e (List.mem_cons_of_mem _ he)) he

theorem Recording.record_ring_snapshot {j : Journal} (size : Int) (seq : Nat)
    (hpass : ∀ e ∈ j.events, j.level.passes e.scope = true)
    (hextra : ∀ e ∈ j.events, e.extra = .none) :
    ∃ r, (⟨.single (.ring (.ofSize size j.level)), seq⟩ : Recording).record j =
        ⟨.single (.ring r), seq + j.events.length⟩ ∧
      r.snapshot j.pairs = (numbered seq j.events).rtake (Ring.ofSize size j.level).capacity := by
  refine ⟨_, record_ring_last size seq hpass, ?_⟩
  refine (List.map_congr_left fun e he => ?_).trans (List.map_id _)
  exact resolve_of_mem_numbered hextra (List.mem_of_mem_drop he)

theorem mem_recorded {level : Level} {n : Nat} {scopes : List Scope} {now : Timestamp}
    {parent : Nat} {ms : List Moment} {e : Event} (h : e ∈ recorded level n scopes now parent ms) :
    level.passes e.scope = true ∧ e.extra = .none := by
  obtain ⟨m, hm, rfl⟩ := List.mem_map.mp h
  exact ⟨(List.mem_filter.mp hm).2, rfl⟩

/-- A ring that is given what a forest does under a level shows, of the last events it has
room for, exactly the moments whose scope passes.  Each refers to the innermost span around it
that is recorded, or else to the parent of all.  Filtered spans use no id, and what is recorded
is the full recording of the contracted forest and of no other. -/
theorem events_attach_to_nearest_recorded_span (size : Int) (level : Level) (now : Timestamp)
    (n seq parent : Nat) (f : Forest) :
    let j := f.run { level, now, spans := n } parent
    (∃ r, (⟨.single (.ring (.ofSize size level)), seq⟩ : Recording).record j =
        ⟨.single (.ring r), seq + j.events.length⟩ ∧
      r.snapshot j.pairs = (numbered seq j.events).rtake (Ring.ofSize size level).capacity) ∧
    j.events = recorded level n f.scopes now parent (f.moments 0 []) ∧
    j.spans = n + f.scopes.countP level.passes ∧
    ∀ g : Forest, (g.run { level := .debug, now, spans := n } parent).events = j.events ↔
      g = f.contract level := by
  intro j
  have hrun : j = { level, now
                    spans := n + f.scopes.countP level.passes
                    events := recorded level n f.scopes now parent (f.moments 0 []) } :=
    f.run_top { level, now, spans := n } parent
  have hevents : j.events = recorded level n f.scopes now parent (f.moments 0 []) := by rw [hrun]
  have hlevel : j.level = level := by rw [hrun]
  refine ⟨?_, hevents, by rw [hrun], fun g => ?_⟩
  · rw [← hlevel]
    refine Recording.record_ring_snapshot size seq (fun e he => ?_) fun e he => ?_
    · rw [hevents] at he
      exact hlevel ▸ (mem_recorded he).1
    · rw [hevents] at he
      exact (mem_recorded he).2
  · have hcontract := f.run_contract (j := { level, now, spans := n }) rfl parent
    have hfull : ((f.contract level).run { level := .debug, now, spans := n } parent).events =
        j.events := (congrArg Journal.events hcontract :)
    rw [← hfull]
    exact Forest.run_full_events_iff (j := { level, now, spans := n })

-- A filtered span between two recorded ones, and a point in each of the three.
example :
    ((Forest.span .driver [] [] (.span .decl [] [] (.span .pass [] []
      (.point .error [] [] .nil) (.point .error [] [] .nil)) (.point .error [] [] .nil)) .nil).run
        { level := .phase } 7).events.map (fun e => (e.kind, e.span, e.parent)) =
      [(.begin, 1, 7), (.begin, 2, 1), (.point, 0, 2), (.finish, 2, 1), (.point, 0, 1),
        (.point, 0, 1), (.finish, 1, 7)] := by decide

end Trace
end FeltLowering
