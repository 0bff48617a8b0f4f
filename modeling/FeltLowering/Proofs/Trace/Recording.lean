import FeltLowering.Proofs.Trace.Journal
import FeltLowering.Proofs.Trace.Ring

/-
What a ring holds after a journal has been recorded.

A ring is given the events it accepts in order, under consecutive numbers, and keeps the
last of them (`Recording.record_ring_last`), all of them if it is large enough
(`Recording.record_ring`).  Numbers apart, its events are those of the journal.
-/
namespace FeltLowering
namespace Trace

/-- Events under the numbers after `n`. -/
def numbered : Nat → List Event → List Event
  | _, [] => []
  | n, e :: es => { e with seq := n + 1 } :: numbered (n + 1) es

theorem length_numbered (n : Nat) (es : List Event) : (numbered n es).length = es.length := by
  induction es generalizing n with
  | nil => rfl
  | cons e es ih => rw [numbered, List.length_cons, List.length_cons, ih]

namespace Event

def unnumbered (e : Event) : Event := { e with seq := 0 }

theorem resolve_scope (pairs : List Pairs) (e : Event) : (e.resolve pairs).scope = e.scope := by
  unfold resolve
  split <;> rfl

theorem resolve_report (pairs : List Pairs) (e : Event) :
    ((e.resolve pairs).name, (e.resolve pairs).detail) = (e.name, e.detail) := by
  unfold resolve
  split <;> rfl

theorem unnumbered_resolve (pairs : List Pairs) (e : Event) (n : Nat) :
    (resolve pairs { e with seq := n }).unnumbered = (e.resolve pairs).unnumbered := by
  unfold resolve
  dsimp only
  split <;> rfl

end Event

theorem unnumbered_snapshot (pairs : List Pairs) (n : Nat) (es : List Event) :
    ((numbered n es).map (Event.resolve pairs)).map Event.unnumbered =
      (es.map (Event.resolve pairs)).map Event.unnumbered := by
  induction es generalizing n with
  | nil => rfl
  | cons e es ih =>
    rw [numbered, List.map_cons, List.map_cons, List.map_cons, List.map_cons, ih,
      Event.unnumbered_resolve]

theorem filter_snapshot (level : Level) (pairs : List Pairs) (es : List Event) :
    ((es.map (Event.resolve pairs)).map Event.unnumbered).filter (fun e => level.passes e.scope) =
      ((es.filter fun e => level.passes e.scope).map (Event.resolve pairs)).map Event.unnumbered := by
  have hscope : ∀ e : Event, (e.resolve pairs).unnumbered.scope = e.scope :=
    fun e => e.resolve_scope pairs
  rw [List.filter_map, List.filter_map]
  simp only [Function.comp_def, hscope]

theorem reported_snapshot (scope : Scope) (pairs : List Pairs) (n : Nat) (es : List Event) :
    reported scope ((numbered n es).map (Event.resolve pairs)) = reported scope es := by
  induction es generalizing n with
  | nil => rfl
  | cons e es ih =>
    have hone : reported scope [Event.resolve pairs { e with seq := n + 1 }] = reported scope [e] := by
      unfold reported
      by_cases hscope : e.scope = scope
      · rw [List.filter_cons_of_pos (by rwa [Event.resolve_scope, decide_eq_true_iff]),
          List.filter_cons_of_pos (by rwa [decide_eq_true_iff]), List.filter_nil, List.map_singleton,
          List.map_singleton, Event.resolve_report]
      · rw [List.filter_cons_of_neg (by rwa [Event.resolve_scope, decide_eq_true_iff]),
          List.filter_cons_of_neg (by rwa [decide_eq_true_iff]), List.filter_nil]
    rw [numbered, List.map_cons, ← List.singleton_append, reported_append, hone, ih, ← reported_append,
      List.singleton_append]

theorem mem_scope_snapshot {pairs : List Pairs} {n : Nat} {es : List Event} {scope : Scope}
    (h : ∀ e ∈ es, e.scope = scope) :
    ∀ e ∈ (numbered n es).map (Event.resolve pairs), e.scope = scope := by
  induction es generalizing n with
  | nil => exact fun _ he => absurd he List.not_mem_nil
  | cons e es ih =>
    intro e' he'
    rcases List.mem_cons.mp he' with rfl | he'
    · rw [Event.resolve_scope]
      exact h e List.mem_cons_self
    · exact ih (fun e he => h e (List.mem_cons_of_mem _ he)) e' he'

namespace Recording

theorem hand_ring {r : Ring} {e : Event} (pairs : List Pairs) (seq : Nat)
    (hpass : r.level.passes e.scope = true) :
    hand pairs ⟨.single (.ring r), seq⟩ e =
      ⟨.single (.ring (r.push { e with seq := seq + 1 })), seq + 1⟩ := by
  have hemit : (Recorder.ring r).emit pairs seq e =
      (.ring (r.push { e with seq := seq + 1 }), seq + 1, e) := by
    unfold Recorder.emit
    exact if_pos hpass
  simp only [hand, Tracer.emit, hemit]

/-- Run: a ring is given every event under the next number. -/
theorem foldl_hand_ring {r : Ring} {es : List Event} (pairs : List Pairs) (seq : Nat)
    (hpass : ∀ e ∈ es, r.level.passes e.scope = true) :
    es.foldl (hand pairs) ⟨.single (.ring r), seq⟩ =
      ⟨.single (.ring ((numbered seq es).foldl Ring.push r)), seq + es.length⟩ := by
  induction es generalizing r seq with
  | nil => rfl
  | cons e es ih =>
    have hrest : ∀ e' ∈ es, (r.push { e with seq := seq + 1 }).level.passes e'.scope = true :=
      fun e' he' => hpass e' (List.mem_cons_of_mem e he')
    rw [List.foldl_cons, hand_ring pairs seq (hpass e List.mem_cons_self), ih (seq + 1) hrest,
      numbered, List.foldl_cons, List.length_cons, Nat.add_assoc, Nat.add_comm 1]

/-- A ring that is given a journal ends with the last of its events. -/
theorem record_ring_last {j : Journal} (size : Int) (seq : Nat)
    (hpass : ∀ e ∈ j.events, j.level.passes e.scope = true) :
    (⟨.single (.ring (.ofSize size j.level)), seq⟩ : Recording).record j =
      ⟨.single (.ring { Ring.ofSize size j.level with
        kept := (numbered seq j.events).rtake (Ring.ofSize size j.level).capacity }),
        seq + j.events.length⟩ := by
  rw [← Ring.ofSize_kept, ← Ring.foldl_push_eq]
  exact foldl_hand_ring j.pairs seq hpass

theorem record_ring {size : Int} {j : Journal} (seq : Nat)
    (hpass : ∀ e ∈ j.events, j.level.passes e.scope = true)
    (hfit : j.events.length ≤ (Ring.ofSize size j.level).capacity) :
    (⟨.single (.ring (.ofSize size j.level)), seq⟩ : Recording).record j =
      ⟨.single (.ring { Ring.ofSize size j.level with kept := numbered seq j.events }),
        seq + j.events.length⟩ := by
  have hall : (numbered seq j.events).rtake (Ring.ofSize size j.level).capacity =
      numbered seq j.events := by
    rw [List.rtake, length_numbered, Nat.sub_eq_zero_of_le hfit, List.drop_zero]
  rw [record_ring_last size seq hpass, hall]

end Recording
end Trace
end FeltLowering
