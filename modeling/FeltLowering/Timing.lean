import FeltLowering.Binary64
import FeltLowering.Text.Width

/-
How long the phases of a build take.

Durations are whole nanoseconds in 64 bits.  They are shown in milliseconds, as
floating-point numbers.
-/
namespace FeltLowering

structure Phase where
  name : Text
  nanos : Int64 := 0
  note : Text := []
  deriving DecidableEq, Repr

structure Timing where
  phases : List Phase := []
  deriving DecidableEq, Repr

structure PhaseReport where
  name : Text
  millis : Binary64
  note : Text
  deriving DecidableEq, Repr

/-- A report on all phases.  The total counts phases that overlap once each. -/
structure TimingReport where
  total : Binary64
  phases : List PhaseReport
  deriving DecidableEq, Repr

namespace TimingReport

def nameWidth (r : TimingReport) : Nat :=
  r.phases.foldl (fun w p => max w p.name.displayWidth) (Text.displayWidth "total")

def row (width : Nat) (name : Text) (millis : Binary64) : Text :=
  "  " ++ Text.padDisplay width name ++ " " ++ Text.padLeft 9 (millis.toFixed 2) ++ " ms"

def table (r : TimingReport) : Text :=
  let line (p : PhaseReport) : Text :=
    row r.nameWidth p.name p.millis ++ Text.when (!p.note.isEmpty) ("  // " ++ p.note) ++ "\n"
  "timings:\n" ++ r.phases.flatMap line ++ row r.nameWidth "total" r.total ++ "\n"

end TimingReport

namespace Timing

def begin (t : Timing) (name : Text) : Nat × Timing :=
  (t.phases.length, ⟨t.phases ++ [{ name := name }]⟩)

/-- Ends the phase at an index; where there is none nothing changes. -/
def finish (t : Timing) (index : Int) (nanos : Int64) (note : Text) : Timing :=
  match index with
  | .ofNat i => ⟨t.phases.modify i fun p => { p with nanos, note }⟩
  | .negSucc _ => t

def total (t : Timing) : Int64 := t.phases.foldl (fun s p => s + p.nanos) 0

def millis (nanos : Int64) : Binary64 := (Binary64.ofInt nanos.toInt).divNat 1000000

def report (t : Timing) : TimingReport where
  total := millis t.total
  phases := t.phases.map fun p => ⟨p.name, millis p.nanos, p.note⟩

def summary (t : Timing) : Text := t.report.table

end Timing
end FeltLowering
