import FeltLowering.Trace.Tracer
import Mathlib.Data.List.DropRight

/-
Rings that run over.

A ring keeps the last events it was given, as many as it has room for:
`Ring.kept_pushes`.  It needs no more than a fixed number of slots, which are written in
turn and from the first again after the last; what such a buffer holds is what the ring
keeps, however often it has come round (`Ring.kept_eq_contents`).
-/
namespace FeltLowering
namespace Trace

/-! ## Slots written in turn -/

/-- Slots that are written in turn. -/
structure Buffer (α : Type) where
  slots : List α
  /-- The slot that is written next. -/
  head : Nat := 0
  /-- Whether every slot has been written. -/
  full : Bool := false

namespace Buffer

variable {α : Type}

def blank (capacity : Nat) (zero : α) : Buffer α := { slots := List.replicate capacity zero }

def push (b : Buffer α) (x : α) : Buffer α :=
  let head := (b.head + 1) % b.slots.length
  { slots := b.slots.set b.head x, head, full := b.full || head = 0 }

def contents (b : Buffer α) : List α :=
  if b.full then b.slots.drop b.head ++ b.slots.take b.head else b.slots.take b.head

theorem length_push (b : Buffer α) (x : α) : (b.push x).slots.length = b.slots.length :=
  List.length_set

theorem head_push_lt {b : Buffer α} (h : b.head < b.slots.length) (x : α) :
    (b.push x).head < (b.push x).slots.length := by
  rw [length_push]
  exact Nat.mod_lt _ (by omega)

theorem take_set_succ {slots : List α} {head : Nat} (h : head < slots.length) (x : α) :
    (slots.set head x).take (head + 1) = slots.take head ++ [x] := by
  have hlen : (slots.take head).length = head := List.length_take_of_le (Nat.le_of_lt h)
  rw [List.set_eq_take_append_cons_drop, if_pos h, List.take_append, hlen,
    List.take_of_length_le (by omega), Nat.add_sub_cancel_left]
  rfl

/-- Writing a slot: the element that stood there goes, and the new one is the last. -/
theorem contents_push_eq {b : Buffer α} (h : b.head < b.slots.length) (x : α) :
    (b.push x).contents =
      (if b.full then b.slots.drop (b.head + 1) else []) ++ b.slots.take b.head ++ [x] := by
  obtain ⟨slots, head, full⟩ := b
  replace h : head < slots.length := h
  have htake := take_set_succ h x
  by_cases hlast : head + 1 = slots.length
  · -- The last slot is written, so the next one is the first and none is left blank.
    have hall : slots.set head x = slots.take head ++ [x] := by
      rw [← htake, hlast]
      exact (List.take_of_length_le (by rw [List.length_set])).symm
    have hnone : slots.drop (head + 1) = [] := List.drop_of_length_le (by omega)
    have hwrap : (head + 1) % slots.length = 0 := by rw [hlast, Nat.mod_self]
    simp only [push, contents, hwrap, hall, hnone, decide_true, Bool.or_true, if_true, ite_self,
      List.drop_zero, List.take_zero, List.append_nil, List.nil_append]
  · have hnext : (head + 1) % slots.length = head + 1 := Nat.mod_eq_of_lt (by omega)
    have hdrop : (slots.set head x).drop (head + 1) = slots.drop (head + 1) :=
      List.drop_set_of_lt (Nat.lt_succ_self head)
    simp only [push, contents, hnext, htake, hdrop, Nat.add_one_ne_zero, decide_false,
      Bool.or_false]
    cases full <;> simp

theorem contents_without_oldest {b : Buffer α} (h : b.head < b.slots.length) :
    (if b.contents.length < b.slots.length then b.contents else b.contents.tail) =
      (if b.full then b.slots.drop (b.head + 1) else []) ++ b.slots.take b.head := by
  obtain ⟨slots, head, full⟩ := b
  replace h : head < slots.length := h
  cases full with
  | false =>
    have hlen : (slots.take head).length < slots.length := by
      rw [List.length_take]
      omega
    exact if_pos hlen
  | true =>
    have hlen : ¬(slots.drop head ++ slots.take head).length < slots.length := by
      rw [List.length_append, List.length_drop, List.length_take]
      omega
    refine (if_neg hlen).trans ?_
    show (slots.drop head ++ slots.take head).tail = slots.drop (head + 1) ++ slots.take head
    rw [List.drop_eq_getElem_cons h]
    rfl

/-- One more element behind what is there, in place of the oldest once all slots are
written. -/
theorem contents_push {b : Buffer α} (h : b.head < b.slots.length) (x : α) :
    (b.push x).contents =
      (if b.contents.length < b.slots.length then b.contents else b.contents.tail) ++ [x] := by
  rw [contents_push_eq h, contents_without_oldest h]

end Buffer

/-! ## Rings -/

namespace Ring

theorem capacity_pos (size : Int) (level : Level) : 0 < (ofSize size level).capacity := by
  unfold ofSize defaultCapacity
  dsimp only
  split <;> omega

/-- Step: a ring that keeps the last of some events keeps the last of one more. -/
theorem kept_push {r : Ring} {es : List Event} (hpos : 0 < r.capacity)
    (h : r.kept = es.rtake r.capacity) (e : Event) :
    (r.push e).kept = (es ++ [e]).rtake r.capacity := by
  have hlen : r.kept.length = min r.capacity es.length := by
    rw [h, List.rtake, List.length_drop]
    omega
  show (if r.kept.length < r.capacity then r.kept else r.kept.tail) ++ [e] = _
  by_cases hroom : es.length < r.capacity
  · rw [if_pos (by omega), h, List.rtake, List.rtake, List.length_append, List.length_singleton]
    rw [Nat.sub_eq_zero_of_le (by omega), Nat.sub_eq_zero_of_le (by omega)]
    rfl
  · rw [if_neg (by omega), h, List.rtake, List.rtake, List.tail_drop, List.length_append,
      List.length_singleton, List.drop_append_of_le_length (by omega)]
    congr 2
    omega

/-- Run: a ring keeps the last of the events it was given. -/
theorem kept_pushes {r : Ring} {es : List Event} (hpos : 0 < r.capacity)
    (h : r.kept = es.rtake r.capacity) (more : List Event) :
    (more.foldl push r).kept = (es ++ more).rtake r.capacity := by
  induction more generalizing r es with
  | nil => rw [List.append_nil, List.foldl_nil, h]
  | cons e more ih =>
    have hnext : (r.push e).kept = (es ++ [e]).rtake (r.push e).capacity := kept_push hpos h e
    rw [List.foldl_cons, ih (r := r.push e) hpos hnext, List.append_assoc]
    rfl

theorem foldl_push_eq (r : Ring) (es : List Event) :
    es.foldl push r = { r with kept := (es.foldl push r).kept } := by
  induction es generalizing r with
  | nil => rfl
  | cons e es ih => exact ih (r.push e)

/-- Run: slots that are written in turn hold what a ring keeps. -/
theorem kept_eq_contents {r : Ring} {b : Buffer Event} (hhead : b.head < b.slots.length)
    (hcap : b.slots.length = r.capacity) (h : r.kept = b.contents) (es : List Event) :
    (es.foldl push r).kept = (es.foldl Buffer.push b).contents := by
  induction es generalizing r b with
  | nil => exact h
  | cons e es ih =>
    refine ih (Buffer.head_push_lt hhead e) ((b.length_push e).trans hcap) ?_
    rw [Buffer.contents_push hhead, hcap, ← h]
    rfl

theorem ofSize_kept (size : Int) (level : Level) (es : List Event) :
    (es.foldl push (ofSize size level)).kept = es.rtake (ofSize size level).capacity :=
  kept_pushes (capacity_pos size level) (List.rtake_nil _).symm es

theorem ofSize_kept_eq_contents (size : Int) (level : Level) (zero : Event) (es : List Event) :
    (es.foldl push (ofSize size level)).kept =
      (es.foldl Buffer.push (Buffer.blank (ofSize size level).capacity zero)).contents := by
  have hlen : (Buffer.blank (ofSize size level).capacity zero).slots.length =
      (ofSize size level).capacity := List.length_replicate
  refine kept_eq_contents ?_ hlen rfl es
  rw [hlen]
  exact capacity_pos size level

end Ring
end Trace
end FeltLowering
