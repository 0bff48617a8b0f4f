import FeltLowering.Trace.Event
import Mathlib.Data.List.Nodup

/-
Nested spans.

`Nests` reads a list of events with the spans that are open, innermost first: a span is
begun inside those, and the one begun last is ended first.  It also checks that an event
names the innermost open span as its parent and that the open spans are those its scope
belongs under.

If no span is left open and no two spans have the same id, every beginning has exactly one
end (`Nests.matched`).
-/
namespace FeltLowering
namespace Trace

/-- The end of the span that an event begins. -/
structure Event.ClosedBy (b e : Event) : Prop where
  kind : e.kind = .finish
  span : e.span = b.span
  scope : e.scope = b.scope
  name : e.name = b.name
  parent : e.parent = b.parent

/-- The spans that events of a scope stand in, innermost first.  A level that records no
spans still records failures. -/
def enclosing (level : Level) : Scope → List Scope
  | .driver => []
  | .pass => [.driver]
  | .decl => [.pass, .driver]
  | .instr => [.pass, .driver]
  | .error => if level.passes .driver then [.driver] else []
  | .unnamed _ => []

/-- An event at its place: `opened` are the open spans, and `span` is the one around all of
them. -/
structure Placed (level : Level) (span : Nat) (opened : List Event) (e : Event) : Prop where
  parent : e.parent = (opened.head?.map Event.span).getD span
  scopes : opened.map Event.scope = enclosing level e.scope

/-- Events between the open spans before and after them. -/
inductive Nests (level : Level) (span : Nat) : List Event → List Event → List Event → Prop
  | nil {opened : List Event} : Nests level span opened [] opened
  | begin {opened rest left : List Event} {e : Event} (hkind : e.kind = .begin)
      (hplace : Placed level span opened e) (h : Nests level span (e :: opened) rest left) :
      Nests level span opened (e :: rest) left
  | finish {opened rest left : List Event} {b e : Event} (hclose : b.ClosedBy e)
      (h : Nests level span opened rest left) : Nests level span (b :: opened) (e :: rest) left
  | point {opened rest left : List Event} {e : Event} (hkind : e.kind = .point)
      (hplace : Placed level span opened e) (h : Nests level span opened rest left) :
      Nests level span opened (e :: rest) left

def begun (es : List Event) : List Nat := (es.filter (·.kind = .begin)).map Event.span

def ended (es : List Event) : List Nat := (es.filter (·.kind = .finish)).map Event.span

theorem begun_append (es es' : List Event) : begun (es ++ es') = begun es ++ begun es' := by
  unfold begun
  rw [List.filter_append, List.map_append]

theorem ended_append (es es' : List Event) : ended (es ++ es') = ended es ++ ended es' := by
  unfold ended
  rw [List.filter_append, List.map_append]

theorem begun_cons_of_begin {e : Event} (h : e.kind = .begin) (es : List Event) :
    begun (e :: es) = e.span :: begun es := by
  rw [begun, List.filter_cons_of_pos (by rwa [decide_eq_true_iff])]
  rfl

theorem begun_cons_of_ne {e : Event} (h : e.kind ≠ .begin) (es : List Event) :
    begun (e :: es) = begun es := by
  rw [begun, List.filter_cons_of_neg (by rwa [decide_eq_true_iff])]
  rfl

theorem ended_cons_of_finish {e : Event} (h : e.kind = .finish) (es : List Event) :
    ended (e :: es) = e.span :: ended es := by
  rw [ended, List.filter_cons_of_pos (by rwa [decide_eq_true_iff])]
  rfl

theorem ended_cons_of_ne {e : Event} (h : e.kind ≠ .finish) (es : List Event) :
    ended (e :: es) = ended es := by
  rw [ended, List.filter_cons_of_neg (by rwa [decide_eq_true_iff])]
  rfl

namespace Nests

variable {level : Level} {span : Nat} {opened mid left es es' : List Event}

theorem append (h : Nests level span opened es mid) (h' : Nests level span mid es' left) :
    Nests level span opened (es ++ es') left := by
  induction h with
  | nil => exact h'
  | begin hkind hplace _ ih => exact .begin hkind hplace (ih h')
  | finish hclose _ ih => exact .finish hclose (ih h')
  | point hkind hplace _ ih => exact .point hkind hplace (ih h')

theorem of_points (h : ∀ e ∈ es, e.kind = .point ∧ Placed level span opened e) :
    Nests level span opened es opened := by
  induction es with
  | nil => exact .nil
  | cons e es ih =>
    obtain ⟨hkind, hplace⟩ := h e List.mem_cons_self
    exact .point hkind hplace (ih fun e' he' => h e' (List.mem_cons_of_mem e he'))

/-- A span around events that leave no other open. -/
theorem wrap {b e : Event} (hkind : b.kind = .begin) (hplace : Placed level span opened b)
    (h : Nests level span (b :: opened) es (b :: opened)) (hclose : b.ClosedBy e) :
    Nests level span opened (b :: (es ++ [e])) opened :=
  .begin hkind hplace (h.append (.finish hclose .nil))

theorem split {es : List Event} (h : Nests level span opened (es ++ es') left) :
    ∃ mid, Nests level span opened es mid ∧ Nests level span mid es' left := by
  induction es generalizing opened with
  | nil => exact ⟨opened, .nil, h⟩
  | cons e es ih =>
    cases h with
    | begin hkind hplace h =>
      obtain ⟨mid, hes, hrest⟩ := ih h
      exact ⟨mid, .begin hkind hplace hes, hrest⟩
    | finish hclose h =>
      obtain ⟨mid, hes, hrest⟩ := ih h
      exact ⟨mid, .finish hclose hes, hrest⟩
    | point hkind hplace h =>
      obtain ⟨mid, hes, hrest⟩ := ih h
      exact ⟨mid, .point hkind hplace hes, hrest⟩

/-- What is open at the start ends, if nothing is open at the end. -/
theorem closes (h : Nests level span opened es []) {b : Event} (hb : b ∈ opened) :
    ∃ inside e rest, es = inside ++ e :: rest ∧ b.ClosedBy e := by
  generalize hleft : ([] : List Event) = left at h
  induction h with
  | nil =>
    rw [← hleft] at hb
    exact absurd hb List.not_mem_nil
  | @begin _ rest _ e' _ _ _ ih =>
    obtain ⟨inside, e, rest, rfl, hclose⟩ := ih (List.mem_cons_of_mem e' hb) hleft
    exact ⟨e' :: inside, e, rest, rfl, hclose⟩
  | @finish _ rest _ b' e' hclose' _ ih =>
    rcases List.mem_cons.mp hb with rfl | hb
    · exact ⟨[], e', rest, rfl, hclose'⟩
    · obtain ⟨inside, e, rest, rfl, hclose⟩ := ih hb hleft
      exact ⟨e' :: inside, e, rest, rfl, hclose⟩
  | @point _ rest _ e' _ _ _ ih =>
    obtain ⟨inside, e, rest, rfl, hclose⟩ := ih hb hleft
    exact ⟨e' :: inside, e, rest, rfl, hclose⟩

/-- The spans that end are those that begin or were open, but for those still open. -/
theorem ended_perm (h : Nests level span opened es left) :
    (ended es ++ left.map Event.span).Perm (begun es ++ opened.map Event.span) := by
  induction h with
  | nil => exact .refl _
  | begin hkind _ _ ih =>
    rw [ended_cons_of_ne (by rw [hkind]; decide), begun_cons_of_begin hkind]
    exact ih.trans List.perm_middle
  | finish hclose _ ih =>
    rw [ended_cons_of_finish hclose.kind,
      begun_cons_of_ne (by rw [hclose.kind]; decide), hclose.span]
    exact (ih.cons _).trans List.perm_middle.symm
  | point hkind _ _ ih =>
    rw [ended_cons_of_ne (by rw [hkind]; decide), begun_cons_of_ne (by rw [hkind]; decide)]
    exact ih

/-- Every beginning has exactly one end. -/
theorem matched (h : Nests level span [] es []) (hids : (begun es).Nodup)
    {before after : List Event} {b : Event} (hsplit : es = before ++ b :: after)
    (hkind : b.kind = .begin) :
    ∃ inside e rest, after = inside ++ e :: rest ∧ b.ClosedBy e ∧
      ∀ e' ∈ before ++ inside ++ rest, e'.kind = .finish → e'.span ≠ b.span := by
  subst hsplit
  obtain ⟨mid, -, hrest⟩ := h.split
  have hopen : Nests level span (b :: mid) after [] := by
    cases hrest with
    | begin _ _ h => exact h
    | finish hclose _ => exact nomatch hkind.symm.trans hclose.kind
    | point hpoint _ _ => exact nomatch hkind.symm.trans hpoint
  obtain ⟨inside, e, rest, rfl, hclose⟩ := hopen.closes List.mem_cons_self
  refine ⟨inside, e, rest, rfl, hclose, fun e' he' hfinish heq => ?_⟩
  -- What ends is what begins, so no id ends twice.
  have hended : (ended (before ++ b :: (inside ++ e :: rest))).Nodup := by
    have hperm := h.ended_perm
    rw [List.map_nil, List.append_nil, List.append_nil] at hperm
    exact hperm.nodup_iff.mpr hids
  rw [ended_append, ended_cons_of_ne (by rw [hkind]; decide), ended_append,
    ended_cons_of_finish hclose.kind, ← List.append_assoc, List.nodup_middle, List.nodup_cons,
    ← ended_append, ← ended_append] at hended
  refine hended.1 (List.mem_map.mpr ⟨e', List.mem_filter.mpr ⟨he', decide_eq_true hfinish⟩, ?_⟩)
  rw [heq, hclose.span]

end Nests

/-- Spans nest, none is left open, every one of them ends exactly once, and no two have the
same id. -/
structure WellBracketed (level : Level) (span : Nat) (es : List Event) : Prop where
  nested : Nests level span [] es []
  ids : (begun es).Nodup
  matched : ∀ before b after, es = before ++ b :: after → b.kind = .begin →
    ∃ inside e rest, after = inside ++ e :: rest ∧ b.ClosedBy e ∧
      ∀ e' ∈ before ++ inside ++ rest, e'.kind = .finish → e'.span ≠ b.span

theorem wellBracketed_of_nests {level : Level} {span : Nat} {es : List Event}
    (h : Nests level span [] es []) (hids : (begun es).Nodup) : WellBracketed level span es :=
  ⟨h, hids, fun _ _ _ hsplit hkind => h.matched hids hsplit hkind⟩

end Trace
end FeltLowering
