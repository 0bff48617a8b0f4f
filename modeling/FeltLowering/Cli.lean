import FeltLowering.Cli.Build
import FeltLowering.Cli.Evaluate
import FeltLowering.Cli.Help
import FeltLowering.Cli.Tracing

/-
The command line as a whole.

A line is for a command.  Its flags are read first; then it is either answered with a
help text or run, with tracing around it.
-/
namespace FeltLowering
namespace Cli

def showVersion (a : Arguments) : Action Unit := do
  let c ← get
  let view : ReleaseView :=
    { commit := a.isOn "hash" || a.isOn "full", date := a.isOn "date" || a.isOn "full" }
  let format := (a.text "format").lower
  if format = Text.ofString "pretty" then Action.print (c.host.release.lines c.colored view)
  else if format = Text.ofString "json" then Action.print (c.host.release.jsonLines view)
  else throw (.versionFormat (a.text "format"))

def showHelp (a : Arguments) : Action Unit := do
  match Command.find a.args with
  | .ok (c, _) => Action.print (c.helpText (← get).host.processors)
  | .error _ => Action.complain (Command.unknownTopicMessage a.args)

/-- What a command does; a group of commands does nothing. -/
def action? : Command → Option (Arguments → Action Unit)
  | .build => some Build.profiled
  | .run => some Evaluate.run
  | .version => some showVersion
  | .help => some showHelp
  | .root | .completion => none

def checkCount (c : Command) (a : Arguments) : Except Failure Unit :=
  if c = .run && a.args.length < Evaluate.leastArguments then
    .error (.tooFewArguments Evaluate.leastArguments a.args.length)
  else .ok ()

def prepare (a : Arguments) : Action Unit := do
  modify fun c => { c with verbose := a.isOn "verbose" }
  let colored ← Action.require id (colorMode (a.text "color") (← get).host.terminal)
  modify fun c => { c with colored }
  Tracing.start a

def perform (args : List Text) : Action Unit := do
  let (command, rest) ← Action.require Failure.unknownCommand (Command.find args)
  let host := (← get).host
  let a ← Action.require Failure.flag
    (Arguments.read { flags := command.flags host.processors } rest)
  if a.isOn "help" then Action.print (command.helpText host.processors)
  else if command = .root && a.isOn "version" then
    Action.print (toolName ++ " version " ++ host.release.version ++ "\n")
  else
    match action? command with
    | none => Action.print (command.helpText host.processors)
    | some act =>
      Action.require id (checkCount command a)
      prepare a
      act a

structure Outcome where
  exit : Nat
  stdout : Text
  stderr : Text
  files : FileTree
  deriving DecidableEq, Repr

/-- Runs a command line.  A failure is logged before the trace ends. -/
def run (host : Host) (args : List Text) : Outcome :=
  let (result, c) := (perform args).run.run { host }
  let (exit, c) : Nat × Console :=
    match result with
    | .ok () => (0, c)
    | .error f => (1, c.error f.message)
  let c := c.dumpRing
  { exit, stdout := c.stdout, stderr := c.stderr, files := c.host.files }

end Cli
end FeltLowering
