import FeltLowering.Proofs.Trace.Recording
import FeltLowering.Proofs.Trace.Ring

/-
Tracers that share a counter.

Events are handed to several tracers in any order, and each recorder that accepts an event
draws a number for it.  The log of a run lists the numbers in the order they are drawn, so
they increase along it (`Ensemble.seq_log`), and a recorder ends up as if it had taken in
its own part of the log and nothing else (`Ensemble.recorder?_after`): neither the other
tracers, nor the recorders beside it, nor what their sinks refuse can be seen from it.
-/
namespace FeltLowering
namespace Trace

/-- An event handed to one of several tracers, with the pairs of all spans at that time. -/
structure Emission where
  tracer : Nat
  event : Event
  pairs : List Pairs := []

def Emission.number (m : Emission) (n : Nat) : Emission :=
  { m with event := { m.event with seq := n } }

/-- An event under the number that the recorder at a place of a tracer drew for it. -/
structure Stamp extends Emission where
  place : Nat

def drawnBy (i j : Nat) (log : List Stamp) : List Stamp :=
  log.filter fun s => s.tracer = i ∧ s.place = j

theorem drawnBy_append (i j : Nat) (log more : List Stamp) :
    drawnBy i j (log ++ more) = drawnBy i j log ++ drawnBy i j more :=
  List.filter_append ..

theorem drawnBy_cons_of_eq {s : Stamp} {i j : Nat} (hi : s.tracer = i) (hj : s.place = j)
    (log : List Stamp) : drawnBy i j (s :: log) = s :: drawnBy i j log :=
  List.filter_cons_of_pos (decide_eq_true ⟨hi, hj⟩)

theorem drawnBy_cons_of_ne {s : Stamp} {j : Nat} (h : s.place ≠ j) (i : Nat) (log : List Stamp) :
    drawnBy i j (s :: log) = drawnBy i j log :=
  List.filter_cons_of_neg fun hown => h (of_decide_eq_true hown).2

theorem drawnBy_eq_nil {i j : Nat} {log : List Stamp}
    (h : ∀ s ∈ log, s.tracer ≠ i ∨ s.place ≠ j) : drawnBy i j log = [] := by
  refine List.filter_eq_nil_iff.mpr fun s hs hown => ?_
  have hown : s.tracer = i ∧ s.place = j := of_decide_eq_true hown
  rcases h s hs with hne | hne
  · exact hne hown.1
  · exact hne hown.2

theorem Event.resolve_seq (pairs : List Pairs) (e : Event) : (e.resolve pairs).seq = e.seq := by
  unfold resolve
  split <;> rfl

/-! ## Recorders in a row -/

namespace Recorder

def take (r : Recorder) (m : Emission) : Recorder :=
  match r with
  | .stream s => .stream { s with sink := keep s.sink ((m.event.resolve m.pairs).render s.format) }
  | .ring q => .ring (q.push m.event)

theorem level_take (r : Recorder) (m : Emission) : (r.take m).level = r.level := by
  cases r <;> rfl

theorem emit_of_passes {r : Recorder} {m : Emission} (h : r.level.passes m.event.scope = true)
    (seq : Nat) :
    (r.emit m.pairs seq m.event).1 = r.take (m.number (seq + 1)) ∧
      (r.emit m.pairs seq m.event).2.1 = seq + 1 := by
  cases r with
  | stream s =>
    rw [emit, if_pos h]
    exact ⟨rfl, rfl⟩
  | ring q =>
    rw [emit, if_pos h]
    exact ⟨rfl, rfl⟩

theorem emit_of_not_passes {r : Recorder} {e : Event} (h : ¬r.level.passes e.scope = true)
    (pairs : List Pairs) (seq : Nat) : r.emit pairs seq e = (r, seq, e) := by
  rw [emit, if_neg h]

/-- The numbers that recorders in a row draw for an event; the places are counted from
`place`. -/
def draws (m : Emission) : (seq place : Nat) → List Recorder → List Stamp
  | _, _, [] => []
  | seq, place, r :: rest =>
    let next := (r.emit m.pairs seq m.event).2.1
    (if next = seq then [] else [⟨m.number next, place⟩]) ++ draws m next (place + 1) rest

section Row

variable {m : Emission} {r : Recorder}

theorem draws_of_passes (h : r.level.passes m.event.scope = true) (seq place : Nat)
    (rest : List Recorder) :
    draws m seq place (r :: rest) =
      ⟨m.number (seq + 1), place⟩ :: draws m (seq + 1) (place + 1) rest := by
  rw [draws, (emit_of_passes h seq).2, if_neg (Nat.succ_ne_self seq), List.singleton_append]

theorem draws_of_not_passes (h : ¬r.level.passes m.event.scope = true) (seq place : Nat)
    (rest : List Recorder) : draws m seq place (r :: rest) = draws m seq (place + 1) rest := by
  rw [draws, emit_of_not_passes h, if_pos rfl, List.nil_append]

theorem emitAll_of_passes (h : r.level.passes m.event.scope = true) (seq : Nat)
    (rest : List Recorder) :
    emitAll m.pairs seq m.event (r :: rest) =
      (r.take (m.number (seq + 1)) :: (emitAll m.pairs (seq + 1) m.event rest).1,
        (emitAll m.pairs (seq + 1) m.event rest).2) := by
  have hemit := emit_of_passes h seq
  rw [← hemit.1, ← hemit.2]
  rfl

theorem emitAll_of_not_passes (h : ¬r.level.passes m.event.scope = true) (seq : Nat)
    (rest : List Recorder) :
    emitAll m.pairs seq m.event (r :: rest) =
      (r :: (emitAll m.pairs seq m.event rest).1, (emitAll m.pairs seq m.event rest).2) := by
  rw [emitAll, emit_of_not_passes h]

end Row

/-- The numbers drawn are the next ones of the counter. -/
theorem seq_draws (m : Emission) (seq place : Nat) (rs : List Recorder) :
    (draws m seq place rs).map (·.event.seq) = List.range' (seq + 1) (draws m seq place rs).length ∧
      (emitAll m.pairs seq m.event rs).2 = seq + (draws m seq place rs).length := by
  induction rs generalizing seq place with
  | nil => exact ⟨rfl, rfl⟩
  | cons r rs ih =>
    by_cases h : r.level.passes m.event.scope = true
    · obtain ⟨hseq, hlast⟩ := ih (seq + 1) (place + 1)
      rw [draws_of_passes h, emitAll_of_passes h, List.map_cons, hseq, hlast, List.length_cons,
        List.range'_succ]
      exact ⟨rfl, by omega⟩
    · rw [draws_of_not_passes h, emitAll_of_not_passes h]
      exact ih seq (place + 1)

theorem mem_draws {m : Emission} {seq place : Nat} {rs : List Recorder} {s : Stamp}
    (h : s ∈ draws m seq place rs) : s.tracer = m.tracer ∧ place ≤ s.place := by
  induction rs generalizing seq place with
  | nil => exact absurd h List.not_mem_nil
  | cons r rs ih =>
    by_cases hpass : r.level.passes m.event.scope = true
    · rw [draws_of_passes hpass] at h
      rcases List.mem_cons.mp h with rfl | h
      · exact ⟨rfl, Nat.le_refl place⟩
      · exact ⟨(ih h).1, Nat.le_of_succ_le (ih h).2⟩
    · rw [draws_of_not_passes hpass] at h
      exact ⟨(ih h).1, Nat.le_of_succ_le (ih h).2⟩

/-- One recorder in a row takes in the event under the number it drew, if it drew one. -/
theorem emitAll_at (m : Emission) {rs : List Recorder} {j : Nat} {r : Recorder}
    (h : rs[j]? = some r) (seq place : Nat) :
    (emitAll m.pairs seq m.event rs).1[j]? =
        some (((drawnBy m.tracer (place + j) (draws m seq place rs)).map Stamp.toEmission).foldl
          take r) ∧
      (drawnBy m.tracer (place + j) (draws m seq place rs)).map (·.event.unnumbered) =
        if r.level.passes m.event.scope then [m.event.unnumbered] else [] := by
  induction rs generalizing j seq place with
  | nil => exact absurd h (by simp)
  | cons r' rs ih =>
    cases j with
    | zero =>
      obtain rfl : r' = r := Option.some.inj h
      -- The recorders behind this one draw for later places.
      have hrest : ∀ seq, drawnBy m.tracer place (draws m seq (place + 1) rs) = [] :=
        fun seq => drawnBy_eq_nil fun s hs => Or.inr (Nat.ne_of_gt (mem_draws hs).2)
      rw [Nat.add_zero]
      by_cases hpass : r'.level.passes m.event.scope = true
      · rw [draws_of_passes hpass, emitAll_of_passes hpass, if_pos hpass,
          drawnBy_cons_of_eq (by rfl) (by rfl), hrest]
        exact ⟨rfl, rfl⟩
      · rw [draws_of_not_passes hpass, emitAll_of_not_passes hpass, if_neg hpass, hrest]
        exact ⟨rfl, rfl⟩
    | succ j =>
      have hplace : place + (j + 1) = place + 1 + j := by omega
      rw [hplace]
      by_cases hpass : r'.level.passes m.event.scope = true
      · have hfirst : place ≠ place + 1 + j := by omega
        rw [draws_of_passes hpass, emitAll_of_passes hpass, drawnBy_cons_of_ne (by exact hfirst)]
        exact ih h (seq + 1) (place + 1)
      · rw [draws_of_not_passes hpass, emitAll_of_not_passes hpass]
        exact ih h seq (place + 1)

end Recorder

theorem Tracer.recorders_emit (pairs : List Pairs) (seq : Nat) (e : Event) (t : Tracer) :
    (t.emit pairs seq e).1.recorders = (Recorder.emitAll pairs seq e t.recorders).1 ∧
      (t.emit pairs seq e).2.1 = (Recorder.emitAll pairs seq e t.recorders).2 := by
  cases t <;> exact ⟨rfl, rfl⟩

/-! ## Tracers side by side -/

/-- Tracers that number their events by one counter. -/
structure Ensemble where
  tracers : List Tracer
  seq : Nat := 0

namespace Ensemble

def hand (s : Ensemble) (m : Emission) : Ensemble :=
  match s.tracers[m.tracer]? with
  | none => s
  | some t =>
    let r := Recording.hand m.pairs ⟨t, s.seq⟩ m.event
    ⟨s.tracers.set m.tracer r.tracer, r.seq⟩

def after (s : Ensemble) (run : List Emission) : Ensemble := run.foldl hand s

def recorder? (s : Ensemble) (i j : Nat) : Option Recorder := s.tracers[i]?.bind (·.recorders[j]?)

/-- The numbers drawn when an event is handed on. -/
def stamps (s : Ensemble) (m : Emission) : List Stamp :=
  Recorder.draws m s.seq 0 ((s.tracers[m.tracer]?.map Tracer.recorders).getD [])

def log (s : Ensemble) : List Emission → List Stamp
  | [] => []
  | m :: run => s.stamps m ++ (s.hand m).log run

/-- The events of a run that a recorder of a tracer accepts at its level. -/
def accepted (i : Nat) (level : Level) (run : List Emission) : List Event :=
  ((run.filter (·.tracer = i)).map (·.event)).filter fun e => level.passes e.scope

theorem hand_of_some {s : Ensemble} {m : Emission} {t : Tracer} (h : s.tracers[m.tracer]? = some t) :
    s.hand m = ⟨s.tracers.set m.tracer (t.emit m.pairs s.seq m.event).1,
      (Recorder.emitAll m.pairs s.seq m.event t.recorders).2⟩ := by
  rw [hand, h, ← (t.recorders_emit m.pairs s.seq m.event).2]
  rfl

theorem stamps_of_some {s : Ensemble} {m : Emission} {t : Tracer}
    (h : s.tracers[m.tracer]? = some t) : s.stamps m = Recorder.draws m s.seq 0 t.recorders := by
  rw [stamps, h]
  rfl

theorem seq_stamps (s : Ensemble) (m : Emission) :
    (s.stamps m).map (·.event.seq) = List.range' (s.seq + 1) (s.stamps m).length ∧
      (s.hand m).seq = s.seq + (s.stamps m).length := by
  cases h : s.tracers[m.tracer]? with
  | none =>
    rw [hand, stamps, h]
    exact ⟨rfl, rfl⟩
  | some t =>
    rw [hand_of_some h, stamps_of_some h]
    exact Recorder.seq_draws m s.seq 0 t.recorders

/-- The numbers of a log are those of the counter, each once and in order. -/
theorem seq_log (s : Ensemble) (run : List Emission) :
    (s.log run).map (·.event.seq) = List.range' (s.seq + 1) (s.log run).length := by
  induction run generalizing s with
  | nil => rfl
  | cons m run ih =>
    obtain ⟨hstamps, hseq⟩ := s.seq_stamps m
    rw [log, List.map_append, hstamps, ih, hseq, List.length_append, ← List.range'_append_1]
    congr 2
    omega

/-- Step: a recorder takes in what it drew itself, and it draws a number for each event of
its tracer that it accepts. -/
theorem recorder?_hand {s : Ensemble} {i j : Nat} {r : Recorder} (h : s.recorder? i j = some r)
    (m : Emission) :
    (s.hand m).recorder? i j =
        some (((drawnBy i j (s.stamps m)).map Stamp.toEmission).foldl Recorder.take r) ∧
      (drawnBy i j (s.stamps m)).map (·.event.unnumbered) =
        (accepted i r.level [m]).map Event.unnumbered := by
  obtain ⟨t, ht, hr⟩ := Option.bind_eq_some_iff.mp h
  by_cases hi : m.tracer = i
  · subst hi
    obtain ⟨hlt, -⟩ := List.getElem?_eq_some_iff.mp ht
    have hat := Recorder.emitAll_at m hr s.seq 0
    rw [Nat.zero_add] at hat
    rw [hand_of_some ht, stamps_of_some ht, hat.2]
    refine ⟨?_, ?_⟩
    · rw [recorder?, List.getElem?_set_self hlt, Option.bind_some, (t.recorders_emit ..).1, hat.1]
    · by_cases hpass : r.level.passes m.event.scope = true <;> simp [accepted, hpass]
  · have hnone : drawnBy i j (s.stamps m) = [] := by
      refine drawnBy_eq_nil fun st hst => Or.inl ?_
      rw [(Recorder.mem_draws hst).1]
      exact hi
    have hsame : (s.hand m).tracers[i]? = s.tracers[i]? := by
      cases hm : s.tracers[m.tracer]? with
      | none => rw [hand, hm]
      | some t' => rw [hand_of_some hm, List.getElem?_set_ne hi]
    rw [hnone, recorder?, hsame, ← recorder?, h]
    exact ⟨rfl, by simp [accepted, hi]⟩

theorem level_foldl_take (ms : List Emission) (r : Recorder) :
    (ms.foldl Recorder.take r).level = r.level := by
  induction ms generalizing r with
  | nil => rfl
  | cons m ms ih => rw [List.foldl_cons, ih, Recorder.level_take]

/-- Run: a recorder takes in its own part of the log, which has one number for each event
it accepts. -/
theorem recorder?_after {s : Ensemble} {i j : Nat} {r : Recorder} (h : s.recorder? i j = some r)
    (run : List Emission) :
    (s.after run).recorder? i j =
        some (((drawnBy i j (s.log run)).map Stamp.toEmission).foldl Recorder.take r) ∧
      (drawnBy i j (s.log run)).map (·.event.unnumbered) =
        (accepted i r.level run).map Event.unnumbered := by
  induction run generalizing s r with
  | nil => exact ⟨h, rfl⟩
  | cons m run ih =>
    obtain ⟨hstep, hdrawn⟩ := recorder?_hand h m
    obtain ⟨hrun, hrest⟩ := ih hstep
    rw [level_foldl_take] at hrest
    have haccepted : accepted i r.level (m :: run) = accepted i r.level [m] ++ accepted i r.level run := by
      rw [← List.singleton_append, accepted, List.filter_append, List.map_append, List.filter_append]
      rfl
    rw [log, drawnBy_append, List.map_append, List.map_append, List.foldl_append, haccepted,
      List.map_append, hdrawn, hrest]
    exact ⟨hrun, rfl⟩

/-! ## Rings among the recorders -/

theorem foldl_take_ring (ms : List Emission) (q : Ring) :
    ms.foldl Recorder.take (.ring q) = .ring ((ms.map (·.event)).foldl Ring.push q) := by
  induction ms generalizing q with
  | nil => rfl
  | cons m ms ih => exact ih (q.push m.event)

def taken (s : Ensemble) (run : List Emission) (i j : Nat) : List Event :=
  (drawnBy i j (s.log run)).map (·.event)

theorem taken_increasing (s : Ensemble) (run : List Emission) (i j : Nat) :
    (s.taken run i j).Pairwise fun e e' => e.seq < e'.seq := by
  have hlog : (s.log run).Pairwise fun st st' => st.event.seq < st'.event.seq := by
    rw [← List.pairwise_map (f := fun st : Stamp => st.event.seq), seq_log]
    exact List.pairwise_lt_range'
  exact List.pairwise_map.mpr (hlog.filter _)

/-- A ring among the recorders keeps the last of the events it took in, and so would slots
that are written in turn. -/
theorem ring_after {s : Ensemble} {i j : Nat} {size : Int} {level : Level}
    (h : s.recorder? i j = some (.ring (.ofSize size level))) (run : List Emission) :
    ∃ r, (s.after run).recorder? i j = some (.ring r) ∧
      r.kept = (s.taken run i j).rtake (Ring.ofSize size level).capacity ∧
      ∀ zero, r.kept = ((s.taken run i j).foldl Buffer.push
        (Buffer.blank (Ring.ofSize size level).capacity zero)).contents := by
  obtain ⟨hrun, -⟩ := recorder?_after h run
  rw [foldl_take_ring, List.map_map] at hrun
  exact ⟨_, hrun, Ring.ofSize_kept size level _,
    fun zero => Ring.ofSize_kept_eq_contents size level zero _⟩

theorem unnumbered_snapshot_eq (pairs : List Pairs) (r : Ring) :
    (r.snapshot pairs).map Event.unnumbered =
      (r.kept.map Event.unnumbered).map fun e => (e.resolve pairs).unnumbered := by
  rw [Ring.snapshot, List.map_map, List.map_map]
  exact List.map_congr_left fun e _ => (Event.unnumbered_resolve pairs e 0).symm

theorem map_rtake {α β : Type} (f : α → β) (n : Nat) (l : List α) :
    (l.rtake n).map f = (l.map f).rtake n := by
  rw [List.rtake, List.rtake, List.map_drop, List.length_map]

/-- What a ring among the recorders shows, numbers apart, is the last of the events that it
accepts. -/
theorem snapshot_after {s : Ensemble} {i j : Nat} {size : Int} {level : Level}
    (h : s.recorder? i j = some (.ring (.ofSize size level))) {run : List Emission} {r : Ring}
    (hr : r.kept = (s.taken run i j).rtake (Ring.ofSize size level).capacity) (pairs : List Pairs) :
    (r.snapshot pairs).map Event.unnumbered =
        ((accepted i level run).rtake (Ring.ofSize size level).capacity).map
          (fun e => (e.resolve pairs).unnumbered) := by
  obtain ⟨-, htaken⟩ := recorder?_after h run
  have haccepted : (s.taken run i j).map Event.unnumbered =
      (accepted i level run).map Event.unnumbered := by
    rw [taken, List.map_map]
    exact htaken
  have hresolve : (fun e : Event => (e.resolve pairs).unnumbered) =
      (fun e => (e.resolve pairs).unnumbered) ∘ Event.unnumbered :=
    funext fun e => (Event.unnumbered_resolve pairs e 0).symm
  rw [unnumbered_snapshot_eq, hr, map_rtake, haccepted, ← map_rtake, List.map_map, ← hresolve]

theorem snapshot_increasing {s : Ensemble} {i j n : Nat} {run : List Emission} {r : Ring}
    (hr : r.kept = (s.taken run i j).rtake n) (pairs : List Pairs) :
    (r.snapshot pairs).Pairwise fun e e' => e.seq < e'.seq := by
  have hkept : r.kept.Pairwise fun e e' => e.seq < e'.seq := by
    rw [hr, List.rtake]
    exact (s.taken_increasing run i j).drop
  refine List.pairwise_map.mpr (hkept.imp fun {e e'} hlt => ?_)
  rw [Event.resolve_seq, Event.resolve_seq]
  exact hlt

/-- The events that a run hands to one tracer, handed to the only tracer there is. -/
def alone (i : Nat) (run : List Emission) : List Emission :=
  (run.filter (·.tracer = i)).map fun m => { m with tracer := 0 }

theorem accepted_alone (i : Nat) (level : Level) (run : List Emission) :
    accepted 0 level (alone i run) = accepted i level run := by
  have hall : (alone i run).filter (fun m => m.tracer = 0) = alone i run := by
    refine List.filter_eq_self.mpr fun m hm => ?_
    obtain ⟨m', -, rfl⟩ := List.mem_map.mp hm
    rfl
  rw [accepted, hall, alone, List.map_map]
  rfl

/-- Rings keep exactly the last events, alone or beside other recorders of a tracer.
Whatever events are handed to whichever tracers, a ring shows, numbers apart, the last of
those events handed to its tracer that pass its level, as many as it has room for, and
under increasing numbers; it shows the same when it is given these events alone, under any
numbers.  Every recorder is as if it had taken in its own part of the log, and no number
of the log is drawn twice. -/
theorem rings_keep_last_events (s : Ensemble) (run : List Emission) :
    (∀ i j size level, s.recorder? i j = some (.ring (.ofSize size level)) →
      ∃ r, (s.after run).recorder? i j = some (.ring r) ∧
        (∀ pairs,
          (r.snapshot pairs).map Event.unnumbered =
            ((accepted i level run).rtake (if size ≤ 0 then 4096 else size.toNat)).map
              (fun e => (e.resolve pairs).unnumbered) ∧
          (r.snapshot pairs).Pairwise fun e e' => e.seq < e'.seq) ∧
        (∀ zero, r.kept = ((s.taken run i j).foldl Buffer.push
          (Buffer.blank (if size ≤ 0 then 4096 else size.toNat) zero)).contents) ∧
        ∀ seq, ∃ r',
          ((⟨[.single (.ring (.ofSize size level))], seq⟩ : Ensemble).after (alone i run)).recorder? 0 0 =
            some (.ring r') ∧
          ∀ pairs, (r.snapshot pairs).map Event.unnumbered =
            (r'.snapshot pairs).map Event.unnumbered) ∧
    ((s.log run).map (·.event.seq)).Nodup ∧
    ∀ i j r, s.recorder? i j = some r →
      (s.after run).recorder? i j =
          some (((drawnBy i j (s.log run)).map Stamp.toEmission).foldl Recorder.take r) ∧
        (s.taken run i j).map Event.unnumbered = (accepted i r.level run).map Event.unnumbered := by
  refine ⟨fun i j size level h => ?_, ?_, fun i j r h => ?_⟩
  · obtain ⟨r, hr, hkept, hslots⟩ := ring_after h run
    refine ⟨r, hr, fun pairs => ⟨snapshot_after h hkept pairs, snapshot_increasing hkept pairs⟩,
      hslots, fun seq => ?_⟩
    have hsingle : (⟨[.single (.ring (.ofSize size level))], seq⟩ : Ensemble).recorder? 0 0 =
        some (.ring (.ofSize size level)) := rfl
    obtain ⟨r', hr', hkept', -⟩ := ring_after hsingle (alone i run)
    refine ⟨r', hr', fun pairs => ?_⟩
    rw [snapshot_after h hkept, snapshot_after hsingle hkept', accepted_alone]
  · rw [seq_log]
    exact List.nodup_range'
  · obtain ⟨hrun, htaken⟩ := recorder?_after h run
    refine ⟨hrun, ?_⟩
    rw [taken, List.map_map]
    exact htaken

/-- A fan-out over a stream that cannot write and two rings, and a ring of its own. -/
def crowd : Ensemble where
  tracers :=
    [.multi .phase [.stream { level := .debug, format := .text, sink := { refuses := [.write] } },
      .ring (.ofSize 2 .detail), .ring (.ofSize 0 .error)],
     .single (.ring (.ofSize 1 .debug))]
  seq := 7

/-- Four events for the fan-out, one of them too fine for its rings, around two others. -/
def crowdRun : List Emission :=
  [{ tracer := 0, event := { kind := .point, scope := .decl, name := "a" } },
   { tracer := 1, event := { kind := .point, scope := .instr, name := "b" } },
   { tracer := 0, event := { kind := .point, scope := .instr, name := "c" } },
   { tracer := 0, event := { kind := .finish, scope := .pass, name := "d", extra := .span 0 },
     pairs := [[("count", "1")]] },
   { tracer := 1, event := { kind := .point, scope := .instr, name := "e" } },
   { tracer := 0, event := { kind := .point, scope := .error, name := "f" } }]

/-- The fan-out's first ring has come round, the other has room, and both show what they
would show alone. -/
theorem crowd_rings :
    crowd.recorder? 0 1 = some (.ring (.ofSize 2 .detail)) ∧
      (∃ r, (crowd.after crowdRun).recorder? 0 1 = some (.ring r) ∧
        (r.snapshot [[("count", "2")]]).map Event.unnumbered =
          [{ kind := .finish, scope := .pass, name := "d", extra := .own [("count", "2")] },
           { kind := .point, scope := .error, name := "f" }] ∧
        (r.snapshot []).Pairwise fun e e' => e.seq < e'.seq) ∧
      (∃ r, (crowd.after crowdRun).recorder? 0 2 = some (.ring r) ∧
        (r.snapshot []).map Event.unnumbered = [{ kind := .point, scope := .error, name := "f" }]) ∧
      (crowd.log crowdRun).map (fun st => (st.tracer, st.place, st.event.seq)) =
        [(0, 0, 8), (0, 1, 9), (1, 0, 10), (0, 0, 11), (0, 0, 12), (0, 1, 13), (1, 0, 14), (0, 0, 15),
          (0, 1, 16), (0, 2, 17)] ∧
      ((crowd.log crowdRun).map (·.event.seq)).Nodup := by
  obtain ⟨hrings, hnodup, -⟩ := rings_keep_last_events crowd crowdRun
  obtain ⟨r, hr, hshown, -⟩ := hrings 0 1 2 .detail rfl
  obtain ⟨q, hq, hshown', -⟩ := hrings 0 2 0 .error rfl
  exact ⟨rfl, ⟨r, hr, (hshown _).1.trans (by decide), (hshown _).2⟩,
    ⟨q, hq, (hshown' _).1.trans (by decide)⟩, by decide, hnodup⟩

end Ensemble
end Trace
end FeltLowering
