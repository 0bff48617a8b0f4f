import FeltLowering.Cli.Console

/-
Tracing on request of the command line.
-/
namespace FeltLowering
namespace Cli
namespace Tracing

open Trace

/-- The level asked for.  A trace file alone asks for phases. -/
def level (a : Arguments) : Except Failure Level :=
  match Level.parse? (a.text "trace-level") with
  | none => .error (.traceLevel (a.text "trace-level"))
  | some .off => .ok (if (a.text "trace").isEmpty then .off else .phase)
  | some l => .ok l

/-- What the command line asks for.  Nothing else is looked at if the level is off. -/
def config (a : Arguments) : Except Failure Trace.Config := do
  let level ← level a
  if level = .off then .ok {}
  else
    match Mode.parse? (a.text "trace-mode"), Format.parse? (a.text "trace-format") with
    | none, _ => .error (.traceMode (a.text "trace-mode"))
    | _, none => .error (.traceFormat (a.text "trace-format"))
    | some mode, some format =>
      .ok { level, mode := some mode, format, path := a.text "trace",
            ringSize := a.number "trace-ring-size" }

def file? (c : Trace.Config) : Option Text :=
  if c.writes && !c.path.isEmpty && c.path ≠ Text.ofString "-" then some c.path else none

def dumpFormat (c : Trace.Config) : Format := if c.format = .auto then .text else c.format

def start (a : Arguments) : Action Unit := do
  let config ← Action.require id (config a)
  let file := file? config
  Action.touch (file.getD []) Failure.traceOutput
  modify fun c =>
    { c with
      journal := { level := config.level }
      recording := { tracer := (config.tracer? {}).getD .nop }
      traceFile := file
      dumpFormat := dumpFormat config }

end Tracing
end Cli
end FeltLowering
