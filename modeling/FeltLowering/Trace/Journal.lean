import FeltLowering.Trace.Event

/-
Spans.

A journal hands out spans and lists the events they give rise to, in order.  A scope
that the level filters out gives no event and uses no span number; the span that stands
for it reports its parent, so what is opened below attaches to the nearest recorded
span.
-/
namespace FeltLowering
namespace Trace

structure Journal where
  level : Level := .off
  /-- The time given to every event. -/
  now : Timestamp := .unset
  /-- The number of spans opened so far, which is also the id of the last one. -/
  spans : Nat := 0
  /-- The pairs of the spans that have any. -/
  pairs : List Pairs := []
  /-- The events handed out, oldest first. -/
  events : List Event := []
  deriving DecidableEq, Repr

structure Span where
  /-- Whether the level records the span. -/
  live : Bool
  number : Nat := 0
  parent : Nat
  scope : Scope := .unnamed 0
  name : Text := []
  /-- The position of the pairs of the span, once it has any. -/
  pairs : Option Nat := none
  deriving DecidableEq, Repr

/-- The id that what happens inside the span attaches to. -/
def Span.id (s : Span) : Nat := if s.live then s.number else s.parent

namespace Journal

def append (j : Journal) (e : Event) : Journal :=
  { j with events := j.events ++ [{ e with time := j.now }] }

def begin (j : Journal) (scope : Scope) (name : Text) (parent : Nat) : Span × Journal :=
  if j.level.passes scope then
    let number := j.spans + 1
    let span : Span := { live := true, number, parent, scope, name }
    (span, { j with spans := number }.append
      { kind := .begin, scope, span := number, parent, name })
  else ({ live := false, parent }, j)

def finish (j : Journal) (s : Span) (detail : Text) : Journal :=
  if s.live then
    j.append
      { kind := .finish, scope := s.scope, span := s.number, parent := s.parent, name := s.name,
        detail, extra := (s.pairs.map Extra.span).getD .none }
  else j

/-- Sets a pair of a span.  End events of the span, earlier ones included, show it as
soon as the span had pairs when they were written. -/
def annotate (j : Journal) (s : Span) (key value : Text) : Span × Journal :=
  if s.live then
    match s.pairs with
    | some i => (s, { j with pairs := j.pairs.modify i (·.put key value) })
    | none =>
      ({ s with pairs := some j.pairs.length }, { j with pairs := j.pairs ++ [[(key, value)]] })
  else (s, j)

def point (j : Journal) (scope : Scope) (name detail : Text) (parent : Nat) : Journal :=
  if j.level.passes scope then j.append { kind := .point, scope, parent, name, detail } else j

end Journal
end Trace
end FeltLowering
