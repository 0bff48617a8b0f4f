import FeltLowering.Cli.Failure
import FeltLowering.Release
import FeltLowering.Timing

/-
What a command works on: files, output, and a trace of what it does.

A command is a function from a console to a console.  What it has done by the time it
fails stays done.
-/
namespace FeltLowering
namespace Cli

structure Host where
  files : FileTree := {}
  cwd : Text := "/"
  /-- Whether output goes to a terminal. -/
  terminal : Bool := false
  processors : Nat := 1
  release : Release := {}
  deriving DecidableEq, Repr

structure Console where
  host : Host
  stdout : Text := []
  stderr : Text := []
  verbose : Bool := false
  colored : Bool := false
  timing : Timing := {}
  journal : Trace.Journal := {}
  recording : Trace.Recording := { tracer := .nop }
  /-- The file the trace goes to; without one it goes to `stderr`. -/
  traceFile : Option Text := none
  /-- The format that a ring is shown in at the end. -/
  dumpFormat : Trace.Format := .text
  deriving DecidableEq, Repr

abbrev Action := ExceptT Failure (StateM Console)

namespace Console

def print (c : Console) (t : Text) : Console := { c with stdout := c.stdout ++ t }

def complain (c : Console) (t : Text) : Console := { c with stderr := c.stderr ++ t }

/-- Whether a message can stand in a log line without quotes. -/
def isPlain (t : Text) : Bool :=
  !t.isEmpty && t.all fun b => Text.isLetter b || Text.isDigit b || b ∈ Text.ofString "-._/@^+"

def logLine (level message : Text) : Text :=
  "level=" ++ level ++ " msg=" ++ (if isPlain message then message else message.quoted) ++ "\n"

def info (c : Console) (message : Text) : Console := c.complain (logLine "info" message)

def error (c : Console) (message : Text) : Console := c.complain (logLine "error" message)

def debug (c : Console) (message : Text) : Console :=
  if c.verbose then c.complain (logLine "debug" message) else c

def setFiles (c : Console) (files : FileTree) : Console := { c with host := { c.host with files } }

def append (c : Console) (path t : Text) : Console :=
  match c.host.files.read c.host.cwd path with
  | .error _ => c
  | .ok content =>
    match c.host.files.write c.host.cwd path (content ++ t) with
    | .ok files => c.setFiles files
    | .error _ => c

def drain (c : Console) : Console :=
  let t := c.recording.tracer.written
  let c := { c with recording := { c.recording with tracer := c.recording.tracer.emptied } }
  match c.traceFile with
  | none => c.complain t
  | some path => c.append path t

/-- Takes over a journal that continues the one at hand, and records what is new. -/
def adopt (c : Console) (j : Trace.Journal) : Console :=
  let fresh := j.events.drop c.journal.events.length
  drain { c with journal := j, recording := fresh.foldl (Trace.Recording.hand j.pairs) c.recording }

/-- Shows the events that a ring kept.  A ring beside a stream is not shown. -/
def dumpRing (c : Console) : Console :=
  match c.recording.tracer with
  | .single (.ring r) => c.complain (r.dump c.journal.pairs c.dumpFormat {}).1.written
  | _ => c

end Console

namespace Action

def print (t : Text) : Action Unit := modify fun c => c.print t

def complain (t : Text) : Action Unit := modify fun c => c.complain t

def info (t : Text) : Action Unit := modify fun c => c.info t

def debug (t : Text) : Action Unit := modify fun c => c.debug t

def require {ε α : Type} (because : ε → Failure) : Except ε α → Action α
  | .ok a => pure a
  | .error e => throw (because e)

def write (path content : Text) (because : Text → FileFault → Failure) : Action Unit := do
  let c ← get
  let files ← require (because path) (c.host.files.write c.host.cwd path content)
  set (c.setFiles files)

def touch (path : Text) (because : Text → FileFault → Failure) : Action Unit :=
  if path.isEmpty then pure () else write path [] because

/-- Runs an action whose failure does not end this one. -/
def attempt {α : Type} (t : Action α) : Action (Except Failure α) := ExceptT.lift t.run

end Action
end Cli
end FeltLowering
