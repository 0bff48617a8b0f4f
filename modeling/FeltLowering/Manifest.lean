import FeltLowering.Codec.Toml.Reader
import FeltLowering.FileTree
import FeltLowering.Path.Height
import FeltLowering.Text.Blank
import FeltLowering.Text.Fold
import FeltLowering.Text.Quoted

/-
The manifest of a package.

A manifest names the package, lists the programs to build and says how.  It is found by
going up from a directory.  Its keys may be written in any case, but those that are
required must be spelled exactly; a key that means nothing is an error.
-/
namespace FeltLowering

/-! ## Settings of a manifest -/

inductive Setting where
  | name
  | inputs
  | outDir
  | debugInfo
  | file
  | directory
  | producer
  deriving DecidableEq, Repr

namespace Setting

def all : List Setting := [.name, .inputs, .outDir, .debugInfo, .file, .directory, .producer]

def table : Setting → Text
  | .name => "package"
  | .inputs | .outDir | .debugInfo => "build"
  | .file | .directory | .producer => "debug"

def key : Setting → Text
  | .name => "name"
  | .inputs => "inputs"
  | .outDir => "out_dir"
  | .debugInfo => "debug_info"
  | .file => "file"
  | .directory => "directory"
  | .producer => "producer"

def sameWord (a b : Text) : Bool := a.folded = b.folded

def isTable (t : Text) : Bool := all.any fun s => sameWord s.table t

def of? (table key : Text) : Option Setting :=
  all.find? fun s => sameWord s.table table && sameWord s.key key

def knows : Toml.Key → Bool
  | [table] => isTable table
  | [table, key] => (of? table key).isSome
  | _ => false

end Setting

structure Config where
  name : Text := []
  inputs : List Text := []
  outDir : Text := []
  debugInfo : Bool := false
  /-- The source file named in debug info. -/
  file : Text := []
  directory : Text := []
  producer : Text := []
  deriving DecidableEq, Repr

inductive ConfigError where
  /-- The file cannot be read, is no document, or has a value of the wrong kind. -/
  | malformed
  | noPackage
  | noName
  | unknownKeys (keys : List Toml.Key)
  | emptyInput (index : Nat)
  deriving DecidableEq, Repr

def ConfigError.message (path : Text) (e : ConfigError) : Text :=
  path ++ ": " ++
    match e with
    | .malformed => "failed to parse TOML"
    | .noPackage => "missing [package]"
    | .noName => "missing [package].name"
    | .unknownKeys keys => "unknown keys: " ++ Text.join ", " (keys.map Toml.Key.write)
    | .emptyInput index => "[build].inputs[" ++ Text.ofNat index ++ "] is empty"

namespace Config

def set? (c : Config) (s : Setting) (v : Toml.Value) : Option Config :=
  match s with
  | .name => v.text?.map fun name => { c with name }
  | .inputs => v.texts?.map fun inputs => { c with inputs }
  | .outDir => v.text?.map fun outDir => { c with outDir }
  | .debugInfo => v.boolean?.map fun debugInfo => { c with debugInfo }
  | .file => v.text?.map fun file => { c with file }
  | .directory => v.text?.map fun directory => { c with directory }
  | .producer => v.text?.map fun producer => { c with producer }

/-- Takes over an entry of a table; one that means nothing is passed over. -/
def withEntry (table : Text) (c : Config) (e : Text × Toml.Value) : Option Config :=
  match Setting.of? table e.1 with
  | some s => c.set? s e.2
  | none => some c

/-- Takes over an entry of the root, which must be a table if it is to mean anything. -/
def withRootEntry (c : Config) (e : Text × Toml.Value) : Option Config :=
  if Setting.isTable e.1 then e.2.table?.bind fun t => t.foldlM (withEntry e.1) c else some c

def ofRoot? (root : Toml.Table) : Option Config := root.foldlM withRootEntry {}

def blankInput? (c : Config) : Option Nat := c.inputs.findIdx? Text.isBlankText

def ofDocument (d : Toml.Document) : Except ConfigError Config :=
  match ofRoot? d.root with
  | none => .error .malformed
  | some c =>
    let unknown := d.keys.filter fun k => !Setting.knows k
    if (d.root.get? ["package"]).isNone then .error .noPackage
    else if (d.root.get? ["package", "name"]).isNone || c.name.isBlankText then .error .noName
    else if unknown ≠ [] then .error (.unknownKeys unknown)
    else
      match c.blankInput? with
      | some i => .error (.emptyInput i)
      | none => .ok c

def load (t : FileTree) (cwd path : Text) : Except ConfigError Config :=
  match (t.read cwd path).toOption.bind Toml.Document.parse? with
  | some d => ofDocument d
  | none => .error .malformed

end Config

/-! ## Manifests in a file tree -/

structure Manifest where
  path : Text
  /-- The directory that relative paths start from. -/
  root : Text
  config : Config
  deriving DecidableEq, Repr

inductive ManifestError where
  /-- The search came upon a path that leads nowhere. -/
  | unsearchable (path : Text) (fault : FileFault)
  | invalid (path : Text) (error : ConfigError)
  deriving DecidableEq, Repr

def ManifestError.message : ManifestError → Text
  | .unsearchable path fault =>
    "failed to stat " ++ path.quoted ++ ": stat " ++ path ++ ": " ++ fault.text
  | .invalid path error => error.message path

namespace Manifest

def fileName : Text := "sierra2llvm.toml"

/-- The manifest in a directory or, going up, in the nearest one above it, by what `stat`
says of a path.  Only a path that is missing is passed over; the search ends at the
directory that is its own parent. -/
def nearest (stat : Text → Except FileFault Entry) (dir : Text) :
    Except ManifestError (Option Text) :=
  let candidate := Path.join [dir, fileName]
  match stat candidate with
  | .ok _ => .ok (some candidate)
  | .error .missing =>
    if _top : Path.parent dir = dir then .ok none else nearest stat (Path.parent dir)
  | .error fault => .error (.unsearchable candidate fault)
termination_by Path.height dir
decreasing_by exact Path.height_parent_lt _top

def searchBy (stat : Text → Except FileFault Entry) (cwd start : Text) :
    Except ManifestError (Option Text) :=
  nearest stat (Path.absolute cwd start)

def search (t : FileTree) (cwd start : Text) : Except ManifestError (Option Text) :=
  searchBy (t.stat cwd) cwd start

def loadAt (t : FileTree) (cwd path : Text) : Except ManifestError Manifest :=
  match Config.load t cwd path with
  | .ok config => .ok { path, root := Path.parent path, config }
  | .error e => .error (.invalid path e)

def load (t : FileTree) (cwd start : Text) : Except ManifestError (Option Manifest) := do
  match ← search t cwd start with
  | none => return none
  | some path => return some (← loadAt t cwd path)

/-- A path of the manifest, from its root unless it is absolute. -/
def locate (m : Manifest) (p : Text) : Text :=
  if Path.isAbsolute p.trim then p.trim else Path.join [m.root, p.trim]

def inputs (m : Manifest) : List Text := m.config.inputs.map m.locate

def outDir (m : Manifest) : Text :=
  if m.config.outDir.isBlankText then [] else m.locate m.config.outDir

end Manifest
end FeltLowering
