import FeltLowering.Cli.Console
import FeltLowering.Lowering.Program

/-
Evaluating a function of a program.
-/
namespace FeltLowering
namespace Cli
namespace Evaluate

def leastArguments : Nat := 2

/-- The result as it is shown, signed on request. -/
def shown (signed : Bool) (name : Text) (f : Ir.Function) (v : Int) : Except Failure Int :=
  if signed then
    match f.result with
    | .int w => .ok (Ir.toSigned w v)
    | ty => .error (.notInteger name ty)
  else .ok v

def evaluate (signed : Bool) (input name : Text) (args : List Text) : Action Unit := do
  let values ← Action.require id (readNumbers 0 args)
  let c ← get
  let p ← Action.require Failure.program (Codec.decodeFile c.host.files c.host.cwd input)
  let (journal, result) := Lowering.lowerProgram {} c.journal p { sourceFile := input }
  modify fun c => c.adopt journal
  let compiler ← Action.require Failure.lowering result
  let some f := compiler.func? name | throw (.noFunction input name)
  let v ← Action.require Failure.evaluation (compiler.module.call name values)
  let v ← Action.require id (shown signed name f v)
  Action.print (Text.ofInt v ++ "\n")

def run (a : Arguments) : Action Unit :=
  match a.args with
  | input :: name :: args => evaluate (a.isOn "signed") input name args
  | args => throw (.tooFewArguments leastArguments args.length)

end Evaluate
end Cli
end FeltLowering
