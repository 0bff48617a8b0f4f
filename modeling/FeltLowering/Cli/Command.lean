import FeltLowering.Cli.Flag
import FeltLowering.Release
import FeltLowering.Text.Lower

/-
Commands.

The command of a line is its first argument that is neither a flag nor the value of one.
A line without a command is for the tool itself.
-/
namespace FeltLowering
namespace Cli

inductive Command where
  /-- The tool itself. -/
  | root
  | build
  | run
  | version
  | help
  | completion
  deriving DecidableEq, Repr

namespace Command

def name : Command → Text
  | .root => toolName
  | .build => "build"
  | .run => "run"
  | .version => "version"
  | .help => "help"
  | .completion => "completion"

def all : List Command := [.build, .run, .version, .help, .completion]

/-! ## Flags -/

def sharedFlags : List Flag :=
  [{ name := "color", kind := .text, default := "auto", usage := "colorize output (auto|on|off)" },
    { name := "trace", kind := .text, usage := "trace output file (- for stderr)" },
    { name := "trace-format", kind := .text, default := "auto",
      usage := "trace format (auto|text|ndjson)" },
    { name := "trace-level", kind := .text, default := "off",
      usage := "trace level (off|error|phase|detail|debug)" },
    { name := "trace-mode", kind := .text, default := "stream",
      usage := "trace storage (stream|ring|both)" },
    { name := "trace-ring-size", kind := .number, default := "4096",
      usage := "events kept in ring mode" },
    { name := "verbose", letter := some 0x76, kind := .switch, usage := "log every step" }]

def buildFlags (processors : Nat) : List Flag :=
  [{ name := "cpu-profile", kind := .text, usage := "write a CPU profile" },
    { name := "debug-info", kind := .switch, usage := "emit debug metadata" },
    { name := "emit-stdout", kind := .switch,
      usage := "print modules to stdout instead of writing files" },
    { name := "jobs", letter := some 0x6A, kind := .number, default := Text.ofNat processors,
      usage := "programs lowered in parallel" },
    { name := "mem-profile", kind := .text, usage := "write a heap profile after the build" },
    { name := "out-dir", letter := some 0x6F, kind := .text, default := "build",
      usage := "directory for the .ll files" },
    { name := "runtime-trace", kind := .text, usage := "write a Go runtime trace" },
    { name := "timings", kind := .switch, usage := "print phase timings" }]

def versionFlags : List Flag :=
  [{ name := "date", kind := .switch, usage := "include build timestamp" },
    { name := "format", kind := .text, default := "pretty",
      usage := "output format (pretty|json)" },
    { name := "full", kind := .switch, usage := "show all build metadata" },
    { name := "hash", kind := .switch, usage := "include git commit hash" }]

def ownFlags (processors : Nat) : Command → List Flag
  | .build => buildFlags processors
  | .run => [{ name := "signed", kind := .switch, usage := "print the result as a signed value" }]
  | .version => versionFlags
  | _ => []

def helpFlag (c : Command) : Flag :=
  { name := "help", letter := some 0x68, kind := .switch, usage := "help for " ++ c.name }

/-- The flags that show something about a command in place of running it. -/
def aboutFlags (c : Command) : List Flag :=
  helpFlag c ::
    if c = .root then [{ name := "version", kind := .switch, usage := "version for " ++ c.name }]
    else []

def flags (processors : Nat) (c : Command) : List Flag :=
  c.ownFlags processors ++ sharedFlags ++ c.aboutFlags

/-! ## The command of a line -/

/-- Whether an argument is a flag whose value is the next argument.  A flag that is not
known is taken for one. -/
def takesNext (known : List Flag) (arg : Text) : Bool :=
  let isSwitch (p : Flag → Bool) : Bool := ((known.find? p).map (·.kind)) = some .switch
  !arg.contains 0x3D &&
    ((Text.startsWith arg "--" && !isSwitch (·.name = arg.drop 2)) ||
      (Text.startsWith arg "-" && arg.length = 2 && !isSwitch (·.letter = arg[1]?)))

/-- The arguments that are neither flags nor values of flags. -/
def words (known : List Flag) : List Text → List Text
  | [] => []
  | arg :: rest =>
    if arg = Arguments.endMark then []
    else if takesNext known arg then
      match rest with
      | [] | [_] => []
      | _ :: rest => words known rest
    else if arg.isEmpty || Text.startsWith arg "-" then words known rest
    else arg :: words known rest

def withoutWord (known : List Flag) (word : Text) : List Text → List Text
  | [] => []
  | arg :: rest =>
    if arg = Arguments.endMark then arg :: rest
    else if takesNext known arg then
      match rest with
      | [] => [arg]
      | value :: rest => arg :: value :: withoutWord known word rest
    else if !Text.startsWith arg "-" && arg = word then rest
    else arg :: withoutWord known word rest

/-- The command a line is for and the line without its name; a first word that is no
command is an error. -/
def find (args : List Text) : Except Text (Command × List Text) :=
  match words sharedFlags args with
  | [] => .ok (.root, args)
  | word :: _ =>
    match all.find? (·.name = word) with
    | some c => .ok (c, withoutWord sharedFlags word args)
    | none => .error word

/-! ## Suggestions -/

/-- A row of the table of distances: the distances of one start of a text from every
start of the other, given those for the start one byte shorter. -/
def nextRow (b : UInt8) (left : Nat) : List Nat → Text → List Nat
  | diagonal :: up :: row, c :: t =>
    let cell := if b = c then diagonal else min (min up left) diagonal + 1
    cell :: nextRow b cell (up :: row) t
  | _, _ => []

/-- The number of bytes to insert, drop or replace to turn one text into another. -/
def editDistance (s t : Text) : Nat :=
  let step (row : List Nat) (b : UInt8) : List Nat :=
    (row.headD 0 + 1) :: nextRow b (row.headD 0 + 1) row t
  (s.foldl step (List.range (t.length + 1))).getLastD 0

def suggestions (word : Text) : List Text :=
  let near (c : Command) : Bool :=
    editDistance word.lower c.name ≤ 2 || Text.startsWith c.name word.lower
  ((all.filter (· ≠ .help)).filter near).map name

def unknownMessage (word : Text) : Text :=
  let near := suggestions word
  "unknown command " ++ word.quoted ++ " for " ++ toolName.quoted ++
    Text.when (!near.isEmpty)
      ("\n\nDid you mean this?\n" ++ near.flatMap fun n => ("\t" ++ n ++ "\n" : Text))

end Command
end Cli
end FeltLowering
