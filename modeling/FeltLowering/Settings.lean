import FeltLowering.Lowering.Compiler
import FeltLowering.Manifest

/-
What a build is asked to do.

A manifest and the command line together name the programs, the directory for the
modules and the debug info.  What the command line says outright wins.
-/
namespace FeltLowering

/-- What the command line of a build says.  Without a value an option is left to the
manifest. -/
structure Request where
  inputs : List Text := []
  outDir : Option Text := none
  debugInfo : Option Bool := none
  deriving DecidableEq, Repr

structure Settings where
  inputs : List Text
  outDir : Text
  debugInfo : Bool
  file : Text
  directory : Text
  producer : Text
  deriving DecidableEq, Repr

namespace Settings

def defaultOutDir : Text := "build"

def noInputsMessage : Text :=
  "no input programs: pass them as arguments or list them in [build].inputs of " ++
    Manifest.fileName

def directoryOf (m : Manifest) : Text :=
  if m.config.directory.isEmpty || Path.isAbsolute m.config.directory then m.config.directory
  else Path.join [m.root, m.config.directory]

def ofManifest (m : Manifest) : Settings where
  inputs := m.inputs
  outDir := m.outDir
  debugInfo := m.config.debugInfo
  file := m.config.file
  directory := directoryOf m
  producer := m.config.producer

def unset : Settings := ⟨[], [], false, [], [], []⟩

def resolve? (m : Option Manifest) (r : Request) : Option Settings :=
  let s := (m.map ofManifest).getD unset
  let inputs := if r.inputs.isEmpty then s.inputs else r.inputs
  if inputs.isEmpty then none
  else
    some { s with
      inputs
      debugInfo := r.debugInfo.getD s.debugInfo
      outDir := r.outDir.getD (if s.outDir.isEmpty then defaultOutDir else s.outDir) }

/-- The options for one input.  Debug info names the input itself unless the manifest
names a source. -/
def compileOptions (s : Settings) (cwd input : Text) : Lowering.Options where
  debugInfo := s.debugInfo
  sourceFile := if s.file.isEmpty then Path.base input else s.file
  sourceDir := if s.directory.isEmpty then Path.absolute cwd (Path.parent input) else s.directory
  producer := s.producer

/-! ## Names of the modules -/

def outputName (input : Text) : Text :=
  let base := Path.base input
  let stem := base.take (base.length - (Path.extension base).length)
  (if stem.isEmpty || stem = Text.ofString "." then Text.ofString "a" else stem) ++ ".ll"

/-- Two inputs that would share a module. -/
structure Collision where
  first : Text
  second : Text
  name : Text
  deriving DecidableEq, Repr

def Collision.message (c : Collision) : Text :=
  "inputs " ++ c.first ++ " and " ++ c.second ++ " would both be written to " ++ c.name

def namesAfter (named : List (Text × Text)) : List Text → Except Collision (List Text)
  | [] => .ok []
  | input :: rest =>
    let name := outputName input
    match named.find? (·.2 = name) with
    | some (first, _) => .error ⟨first, input, name⟩
    | none => do return name :: (← namesAfter (named ++ [(input, name)]) rest)

def outputNames (inputs : List Text) : Except Collision (List Text) := namesAfter [] inputs

end Settings
end FeltLowering
