import FeltLowering.Cli.Console
import FeltLowering.Lowering.Program

/-
Building modules from programs.

The inputs are lowered one by one.  After a failure the inputs that follow are still
begun, but their lowering is canceled.
-/
namespace FeltLowering
namespace Cli
namespace Build

structure Built where
  input : Text
  text : Text
  functions : Nat
  deriving DecidableEq, Repr

def request (a : Arguments) : Request where
  inputs := a.args
  outDir := a.given? "out-dir"
  debugInfo := (a.given? "debug-info").map fun v => Value.yes.contains v

/-! ## Lowering the inputs -/

def beginPhase (name : Text) : Action Nat := do
  let c ← get
  let (i, timing) := c.timing.begin name
  set { c with timing }
  return i

/-- Ends a phase.  A command takes no time by itself. -/
def endPhase (i : Nat) (note : Text) : Action Unit :=
  modify fun c => { c with timing := c.timing.finish i 0 note }

def settle {ε α : Type} (i : Nat) (because : ε → Failure) (note : α → Text) :
    Except ε α → Action α
  | .ok a => do
    endPhase i (note a)
    return a
  | .error e => do
    endPhase i "failed"
    throw (because e)

def decode (input : Text) : Action Program := do
  let phase ← beginPhase ("decode " ++ Path.base input)
  let c ← get
  settle phase Failure.program
    (fun p => Text.ofNat p.typeList.length ++ " types, " ++ Text.ofNat p.libfuncList.length ++
      " libfuncs")
    (Codec.decodeFile c.host.files c.host.cwd input)

def lowered (env : Lowering.Environment) (p : Program) (o : Lowering.Options) :
    Action (Except Failure (Lowering.Compiler × Text)) := do
  let (journal, result) := Lowering.lowerProgram env (← get).journal p o
  modify fun c => c.adopt journal
  match result with
  | .error e => return .error (.lowering e)
  | .ok compiler =>
    match compiler.emit with
    | .error faults => return .error (.emission faults)
    | .ok text => return .ok (compiler, text)

def functionCount (c : Lowering.Compiler) : Nat := c.module.listed.length

def buildOne (s : Settings) (env : Lowering.Environment) (input : Text) : Action Built := do
  let p ← decode input
  let phase ← beginPhase ("lower " ++ Path.base input)
  let result ← lowered env p (s.compileOptions (← get).host.cwd input)
  let (compiler, text) ←
    settle phase id (fun r => Text.ofNat (functionCount r.1) ++ " functions") result
  let functions := functionCount compiler
  Action.debug ("lowered " ++ input ++ ": " ++ Text.ofNat functions ++ " functions, debug info " ++
    Text.ofString (if compiler.debugInfo then "true" else "false"))
  return { input, text, functions }

/-- Builds the inputs in turn, numbered from `index` on.  The first failure is the one that
counts. -/
def buildInputs (s : Settings) (span : Nat) (failed : Option Failure) (index : Nat) :
    List Text → Action (List (Nat × Built))
  | [] =>
    match failed with
    | some f => throw f
    | none => return []
  | input :: rest => do
    match ← Action.attempt (buildOne s { span, canceled := fun _ => failed.isSome } input) with
    | .ok b => return (index, b) :: (← buildInputs s span failed (index + 1) rest)
    | .error f => buildInputs s span (failed.or (some (.input input f))) (index + 1) rest

/-- What was built for the first `count` inputs, in their order, whatever order it was
finished in. -/
def inOrder (count : Nat) (finished : List (Nat × Built)) : List Built :=
  (List.range count).filterMap fun i => finished.lookup i

def buildAll (s : Settings) : Action (List (Text × Built)) := do
  let names ← Action.require Failure.collision (Settings.outputNames s.inputs)
  let (span, journal) := (← get).journal.begin .driver "build" 0
  modify fun c => c.adopt journal
  let result ← Action.attempt (buildInputs s span.id none 0 s.inputs)
  modify fun c => c.adopt (c.journal.finish span [])
  return names.zip (inOrder s.inputs.length (← Action.require id result))

/-! ## Output -/

def writeAll (outDir : Text) : List (Text × Built) → Action Unit
  | [] => return
  | (name, b) :: rest => do
    let path := Path.join [outDir, name]
    Action.write path b.text Failure.output
    Action.info (b.input ++ " -> " ++ path ++ " (" ++ Text.ofNat b.functions ++ " functions)")
    writeAll outDir rest

def writeModules (outDir : Text) (built : List (Text × Built)) : Action Unit := do
  let c ← get
  let files ← Action.require (fun (path, fault) => Failure.outDirectory path fault)
    (c.host.files.makeDirectories c.host.cwd outDir)
  set (c.setFiles files)
  writeAll outDir built

def build (a : Arguments) : Action Unit := do
  let c ← get
  let manifest ← Action.require Failure.manifest (Manifest.load c.host.files c.host.cwd ".")
  if let some m := manifest then
    Action.debug ("using manifest " ++ m.path ++ " (package " ++ m.config.name ++ ")")
  let some settings := Settings.resolve? manifest (request a) | throw .noInputs
  let built ← buildAll settings
  if a.isOn "emit-stdout" then Action.print (built.flatMap fun b => b.2.text)
  else writeModules settings.outDir built
  if a.isOn "timings" then Action.complain (← get).timing.summary

/-- A build with the profiles that are asked for.  What is recorded in them is not
modelled, but the files are made: two before the build, and one after it however it
ends. -/
def profiled (a : Arguments) : Action Unit := do
  Action.touch (a.text "cpu-profile") Failure.cpuProfile
  Action.touch (a.text "runtime-trace") Failure.runtimeTrace
  let result ← Action.attempt (build a)
  let heap ← Action.attempt (Action.touch (a.text "mem-profile") Failure.heapProfile)
  Action.require id result
  Action.require id heap

end Build
end Cli
end FeltLowering
