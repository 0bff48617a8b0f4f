import FeltLowering.Cli.Command
import FeltLowering.Codec
import FeltLowering.Ir.Eval
import FeltLowering.Lowering.Error
import FeltLowering.Lowering.Verify
import FeltLowering.Settings
import FeltLowering.Trace.Tracer

/-
Why a command fails.
-/
namespace FeltLowering
namespace Cli

inductive Failure where
  | flag (e : FlagError)
  | unknownCommand (word : Text)
  | tooFewArguments (least given : Nat)
  | colorMode (mode : Text)
  | traceLevel (text : Text)
  | traceMode (text : Text)
  | traceFormat (text : Text)
  | traceOutput (path : Text) (fault : FileFault)
  | versionFormat (format : Text)
  | manifest (e : ManifestError)
  | noInputs
  | collision (c : Settings.Collision)
  /-- An argument that is no number; the first argument is at zero. -/
  | argument (index : Nat) (text : Text)
  | program (e : Codec.FileError)
  | lowering (e : Lowering.LowerError)
  | emission (faults : List Lowering.DebugFault)
  | noFunction (input name : Text)
  | evaluation (e : Ir.EvalError)
  | notInteger (name : Text) (ty : Ir.Ty)
  | cpuProfile (path : Text) (fault : FileFault)
  | runtimeTrace (path : Text) (fault : FileFault)
  | heapProfile (path : Text) (fault : FileFault)
  | outDirectory (path : Text) (fault : FileFault)
  | output (path : Text) (fault : FileFault)
  /-- A failure with one of several inputs. -/
  | input (path : Text) (f : Failure)
  deriving DecidableEq, Repr

namespace Failure

def message : Failure → Text
  | .flag e => e.message
  | .unknownCommand word => Command.unknownMessage word
  | .tooFewArguments least given =>
    "requires at least " ++ Text.ofNat least ++ " arg(s), only received " ++ Text.ofNat given
  | .colorMode mode => "invalid --color value " ++ mode.quoted ++ " (expected auto|on|off)"
  | .traceLevel t => "invalid trace level: " ++ Trace.Level.parseMessage t
  | .traceMode t => "invalid trace mode: " ++ Trace.Mode.parseMessage t
  | .traceFormat t => Trace.Format.parseMessage t
  | .traceOutput path fault =>
    "failed to create tracer: failed to open trace output: " ++ FileTree.writeMessage path fault
  | .versionFormat f => "unsupported format " ++ f.quoted ++ " (must be pretty or json)"
  | .manifest e => e.message
  | .noInputs => Settings.noInputsMessage
  | .collision c => c.message
  | .argument i t =>
    "argument " ++ Text.ofNat (i + 1) ++ ": " ++ t.quoted ++ " is not a decimal integer"
  | .program e => e.message
  | .lowering e => e.message
  | .emission faults => Lowering.Compiler.emitMessage faults
  | .noFunction path name => path ++ ": no function " ++ name.quoted
  | .evaluation e => e.message
  | .notInteger name ty => name ++ " returns " ++ ty.text ++ ", not an integer"
  | .cpuProfile path fault => "failed to start cpu profile: " ++ FileTree.writeMessage path fault
  | .runtimeTrace path fault =>
    "failed to start runtime trace: " ++ FileTree.writeMessage path fault
  | .heapProfile path fault =>
    "failed to write heap profile: " ++ FileTree.writeMessage path fault
  | .outDirectory path fault =>
    "failed to create output directory: mkdir " ++ path ++ ": " ++ fault.text
  | .output path fault => "failed to write " ++ path ++ ": " ++ FileTree.writeMessage path fault
  | .input path f => path ++ ": " ++ f.message

end Failure

def readNumbers (index : Nat) : List Text → Except Failure (List Int)
  | [] => .ok []
  | t :: rest =>
    match Decimal.parse? t with
    | none => .error (.argument index t)
    | some n => (readNumbers (index + 1) rest).map (n :: ·)

/-- Whether output is coloured, by the mode asked for and whether a terminal shows it. -/
def colorMode (mode : Text) (terminal : Bool) : Except Failure Bool :=
  let word := mode.lower
  if word = Text.ofString "auto" then .ok terminal
  else if word = Text.ofString "on" then .ok true
  else if word = Text.ofString "off" then .ok false
  else .error (.colorMode mode)

end Cli
end FeltLowering
