import FeltLowering.Codec.Json.Program
import FeltLowering.Codec.Msgpack.Program
import FeltLowering.Codec.Yaml.Layout
import FeltLowering.Codec.Yaml.Program
import FeltLowering.FileTree
import FeltLowering.Program.Validity
import FeltLowering.Text.Lower

/-
Programs on disk.

The format follows the extension of the file.  A program that is read is also checked
for structural problems.
-/
namespace FeltLowering
namespace Codec

inductive Format where
  | yaml
  | msgpack
  | json
  deriving DecidableEq, Repr

namespace Format

def text : Format → Text
  | .yaml => "yaml"
  | .msgpack => "msgpack"
  | .json => "json"

def code : Format → Nat
  | .yaml => 1
  | .msgpack => 2
  | .json => 3

def all : List Format := [.yaml, .msgpack, .json]

def nameOfCode (n : Nat) : Text := ((all.find? (·.code = n)).map text).getD "unknown"

def ofName? (t : Text) : Option Format := all.find? (·.text = t)

def extensions : Format → List Text
  | .yaml => [".yaml", ".yml"]
  | .msgpack => [".msgpack", ".mp"]
  | .json => [".json"]

/-- The format of a file, by its extension in any case. -/
def ofPath? (path : Text) : Option Format :=
  all.find? fun f => f.extensions.contains (Path.extension path).lower

def malformedText : Format → Text
  | .yaml => "failed to parse YAML"
  | .msgpack => "failed to decode msgpack"
  | .json => "failed to parse JSON"

end Format

inductive CodecError where
  | malformed (f : Format)
  | problems (ps : List Problem)
  | unsupported
  | noProgram
  deriving DecidableEq, Repr

namespace CodecError

def message : CodecError → Text
  | .malformed f => f.malformedText
  | .problems ps => Program.problemsMessage ps
  | .unsupported => "unsupported program format unknown"
  | .noProgram => "nil program"

end CodecError

def parse? (f : Format) (data : Text) : Option Program :=
  match f with
  | .json => Json.decodeProgram? data
  | .msgpack => Msgpack.decodeProgram? data
  | .yaml => Yaml.decodeProgram? data

/-- Reads a program and checks it. -/
def decode (f : Option Format) (data : Text) : Except CodecError Program :=
  match f with
  | none => .error .unsupported
  | some f =>
    match parse? f data with
    | none => .error (.malformed f)
    | some p => if p.problems = [] then .ok p else .error (.problems p.problems)

def encode (f : Option Format) (p : Option Program) : Except CodecError Text :=
  match p, f with
  | none, _ => .error .noProgram
  | some p, some .json => .ok (Json.encodeProgram p)
  | some p, some .msgpack => .ok (Msgpack.encodeProgram p)
  | some p, some .yaml => .ok (Yaml.encodeProgram p)
  | some _, none => .error .unsupported

inductive FileError where
  | unknownFormat (path : Text)
  | unreadable (path : Text) (fault : FileFault)
  | undecoded (path : Text) (error : CodecError)
  deriving DecidableEq, Repr

namespace FileError

def message : FileError → Text
  | .unknownFormat path =>
    path ++ ": unknown program format (expected .yaml, .msgpack or .json)"
  | .unreadable path fault => "failed to read program: " ++ FileTree.readMessage path fault
  | .undecoded path error => path ++ ": " ++ error.message

end FileError

def decodeFile (t : FileTree) (cwd path : Text) : Except FileError Program :=
  match Format.ofPath? path with
  | none => .error (.unknownFormat path)
  | some f =>
    match t.read cwd path with
    | .error fault => .error (.unreadable path fault)
    | .ok data =>
      match decode (some f) data with
      | .error e => .error (.undecoded path e)
      | .ok p => .ok p

end Codec
end FeltLowering
