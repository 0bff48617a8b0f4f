import FeltLowering.Trace.Format
import FeltLowering.Trace.Journal

/-
Tracers.

A stream writes each event at once, a ring keeps the last ones, and a fan-out hands
each event to several of them.  Sequence numbers come from one counter, which every
tracer that accepts an event advances.
-/
namespace FeltLowering
namespace Trace

/-! ## Sinks -/

inductive SinkFault where
  | write
  | flush
  | close
  deriving DecidableEq, Repr

def SinkFault.text : SinkFault → Text
  | .write => "write failed"
  | .flush => "flush failed"
  | .close => "close failed"

/-- Where a stream writes to.  A sink may be unable to flush or close, and may refuse
what it is asked. -/
structure Sink where
  canFlush : Bool := false
  canClose : Bool := false
  refuses : List SinkFault := []
  /-- The number of writes it accepts, if bounded. -/
  limit : Option Nat := none
  writes : Nat := 0
  written : Text := []
  /-- The flushes and closes it was asked for. -/
  log : List SinkFault := []
  deriving DecidableEq, Repr

namespace Sink

def accepts (s : Sink) : Bool :=
  !s.refuses.contains .write &&
    match s.limit with
    | none => true
    | some n => s.writes < n

def write (s : Sink) (t : Text) : Except SinkFault Sink :=
  if s.accepts then .ok { s with writes := s.writes + 1, written := s.written ++ t }
  else .error .write

def answer (s : Sink) (what : SinkFault) : Sink × List SinkFault :=
  ({ s with log := s.log ++ [what] }, if s.refuses.contains what then [what] else [])

def flush (s : Sink) : Sink × List SinkFault := if s.canFlush then s.answer .flush else (s, [])

/-- Flushes, and closes if the flush succeeds. -/
def close (s : Sink) : Sink × List SinkFault :=
  match s.flush with
  | (s, []) => if s.canClose then s.answer .close else (s, [])
  | failed => failed

end Sink

/-! ## Tracers -/

structure Stream where
  level : Level
  format : Format
  sink : Sink
  deriving DecidableEq, Repr

structure Ring where
  capacity : Nat
  level : Level
  /-- The events kept, oldest first. -/
  kept : List Event := []
  deriving DecidableEq, Repr

namespace Ring

def defaultCapacity : Nat := 4096

/-- An empty ring; a size that is not positive gives the default capacity. -/
def ofSize (size : Int) (level : Level) : Ring :=
  { capacity := if size ≤ 0 then defaultCapacity else size.toNat, level }

/-- Keeps an event, in place of the oldest once the ring is full. -/
def push (r : Ring) (e : Event) : Ring :=
  { r with kept := (if r.kept.length < r.capacity then r.kept else r.kept.tail) ++ [e] }

/-- The events kept, oldest first, with the pairs of their spans as they are now. -/
def snapshot (pairs : List Pairs) (r : Ring) : List Event := r.kept.map (Event.resolve pairs)

def writeAll (f : Format) : List Event → Sink → Sink × List SinkFault
  | [], s => (s, [])
  | e :: rest, s =>
    match s.write (e.render f) with
    | .ok s => writeAll f rest s
    | .error fault => (s, [fault])

def dump (pairs : List Pairs) (r : Ring) (f : Format) (s : Sink) : Sink × List SinkFault :=
  writeAll f (r.snapshot pairs) s

end Ring

inductive Recorder where
  | stream (s : Stream)
  | ring (r : Ring)
  deriving DecidableEq, Repr

namespace Recorder

def level : Recorder → Level
  | .stream s => s.level
  | .ring r => r.level

/-- A sink that refuses a write is left as it is. -/
def keep (s : Sink) (t : Text) : Sink :=
  match s.write t with
  | .ok s => s
  | .error _ => s

/-- Records an event under the number after `seq`.  Answers with the recorder, the last
number in use and the event as the caller sees it: a stream numbers the event itself, a
ring its copy. -/
def emit (pairs : List Pairs) (seq : Nat) (e : Event) (r : Recorder) : Recorder × Nat × Event :=
  if r.level.passes e.scope then
    let numbered := { e with seq := seq + 1 }
    match r with
    | .stream s =>
      let sink := keep s.sink ((numbered.resolve pairs).render s.format)
      (.stream { s with sink }, seq + 1, numbered)
    | .ring q => (.ring (q.push numbered), seq + 1, e)
  else (r, seq, e)

def emitAll (pairs : List Pairs) (seq : Nat) (e : Event) : List Recorder → List Recorder × Nat
  | [] => ([], seq)
  | r :: rest =>
    let (r, seq, _) := r.emit pairs seq e
    let (rest, seq) := emitAll pairs seq e rest
    (r :: rest, seq)

def emptied : Recorder → Recorder
  | .stream s => .stream { s with sink := { s.sink with written := [] } }
  | .ring r => .ring r

def flush : Recorder → Recorder × List SinkFault
  | .stream s => let (sink, faults) := s.sink.flush; (.stream { s with sink }, faults)
  | .ring r => (.ring r, [])

def close : Recorder → Recorder × List SinkFault
  | .stream s => let (sink, faults) := s.sink.close; (.stream { s with sink }, faults)
  | .ring r => (.ring r, [])

end Recorder

inductive Tracer where
  /-- Records nothing. -/
  | nop
  | single (r : Recorder)
  /-- Hands each event to several recorders, whatever its scope. -/
  | multi (level : Level) (rs : List Recorder)
  deriving DecidableEq, Repr

namespace Tracer

def level : Tracer → Level
  | .nop => .off
  | .single r => r.level
  | .multi l _ => l

def recorders : Tracer → List Recorder
  | .nop => []
  | .single r => [r]
  | .multi _ rs => rs

def rings (t : Tracer) : List Ring :=
  t.recorders.filterMap fun
    | .ring r => some r
    | .stream _ => none

def streams (t : Tracer) : List Stream :=
  t.recorders.filterMap fun
    | .stream s => some s
    | .ring _ => none

/-- Records an event; a fan-out leaves the caller's event as it is. -/
def emit (pairs : List Pairs) (seq : Nat) (e : Event) : Tracer → Tracer × Nat × Event
  | .nop => (.nop, seq, e)
  | .single r => let (r, seq, e) := r.emit pairs seq e; (.single r, seq, e)
  | .multi l rs => let (rs, seq) := Recorder.emitAll pairs seq e rs; (.multi l rs, seq, e)

def askAll (ask : Recorder → Recorder × List SinkFault) : Tracer → Tracer × List SinkFault
  | .nop => (.nop, [])
  | .single r => let (r, faults) := ask r; (.single r, faults)
  | .multi l rs => (.multi l (rs.map fun r => (ask r).1), rs.flatMap fun r => (ask r).2)

def flush (t : Tracer) : Tracer × List SinkFault := t.askAll Recorder.flush

def close (t : Tracer) : Tracer × List SinkFault := t.askAll Recorder.close

def written (t : Tracer) : Text := t.streams.flatMap (·.sink.written)

def emptied (t : Tracer) : Tracer := (t.askAll fun r => (r.emptied, [])).1

def faultsMessage (faults : List SinkFault) : Text := Text.join "\n" (faults.map SinkFault.text)

end Tracer

/-! ## Configuration -/

inductive Mode where
  | stream
  | ring
  | both
  deriving DecidableEq, Repr

namespace Mode

def text : Mode → Text
  | .stream => "stream"
  | .ring => "ring"
  | .both => "both"

def code : Mode → Nat
  | .stream => 1
  | .ring => 2
  | .both => 3

def all : List Mode := [.stream, .ring, .both]

def nameOfCode (n : Nat) : Text := ((all.find? (·.code = n)).map text).getD "unknown"

def parse? (t : Text) : Option Mode := all.find? (·.text = t.lower)

def parseMessage (t : Text) : Text :=
  "invalid storage mode: " ++ t.quoted ++ " (expected: stream|ring|both)"

end Mode

structure Config where
  level : Level := .off
  /-- The storage mode, if it is a known one. -/
  mode : Option Mode := some .stream
  format : Format := .auto
  /-- The name of the file the trace goes to. -/
  path : Text := []
  ringSize : Int := 0
  deriving DecidableEq, Repr

namespace Config

def modeMessage : Text := "unknown storage mode: unknown"

def writes (c : Config) : Bool :=
  c.level.enabled && (c.mode = some .stream || c.mode = some .both)

/-- The tracer a configuration asks for.  There is none for an unknown mode, unless the
level is off. -/
def tracer? (c : Config) (sink : Sink) : Option Tracer :=
  if c.level = .off then some .nop
  else
    let stream := Recorder.stream { level := c.level, format := c.format.resolve c.path, sink }
    let ring := Recorder.ring (Ring.ofSize c.ringSize c.level)
    match c.mode with
    | some .stream => some (.single stream)
    | some .ring => some (.single ring)
    | some .both => some (.multi c.level [stream, ring])
    | none => none

end Config

/-! ## Recording a journal -/

/-- A tracer together with the counter its events are numbered by. -/
structure Recording where
  tracer : Tracer
  seq : Nat := 0
  deriving DecidableEq, Repr

namespace Recording

def hand (pairs : List Pairs) (r : Recording) (e : Event) : Recording :=
  let (tracer, seq, _) := r.tracer.emit pairs r.seq e
  { tracer, seq }

def record (r : Recording) (j : Journal) : Recording := j.events.foldl (hand j.pairs) r

end Recording

/-- What a caller hands down: a tracer and the span its callees attach to. -/
structure Context (τ : Type) where
  tracer : Option τ := none
  span : Nat := 0

namespace Context

def withTracer {τ : Type} (c : Context τ) (t : Option τ) : Context τ := { c with tracer := t }

def withSpan {τ : Type} (c : Context τ) (id : Nat) : Context τ := { c with span := id }

end Context
end Trace
end FeltLowering
