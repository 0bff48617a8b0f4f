import FeltLowering.Cli

/-
The program.

A command line is run on the part of the disk that it may touch: what its arguments name,
the manifests above the working directory, and what these name in turn.  Afterwards the
changes are put on the disk.
-/
namespace FeltLowering
namespace Cli
namespace Disk

def ofString (s : String) : Text := s.toUTF8.toList

def toString? (t : Text) : Option String := String.fromUTF8? ⟨t.toArray⟩

def read? (path : String) : IO (Option Entry) := do
  try
    return some (.file (← IO.FS.readBinFile path).toList)
  catch e =>
    match e with
    | .inappropriateType none _ _ => return some .directory
    | _ => return none

def load (cwd : Text) (files : FileTree) (p : Text) : IO FileTree := do
  let mut files := files
  for place in (Path.ancestors (Path.absolute cwd p)).reverse do
    if let some name := toString? place then
      if let some e ← read? name then
        files := files.put place e
  return files

/-- What the arguments may name: as a whole, as the value of a flag behind an equals
sign, or behind a letter. -/
def mentioned (args : List Text) : List Text :=
  (args.flatMap fun a => [a, (a.dropWhile (· != 0x3D)).drop 1, a.drop 2]).filter (!·.isEmpty)

def modules (inputs dirs : List Text) : List Text :=
  dirs.flatMap fun d => inputs.map fun i => Path.join [d, Settings.outputName i]

def collect (cwd : Text) (args : List Text) : IO FileTree := do
  let manifests := (Path.ancestors cwd).map fun d => Path.join [d, Manifest.fileName]
  let files ← (manifests ++ mentioned args).foldlM (load cwd) {}
  let found := (Manifest.load files cwd ".").toOption.join
  let inputs := mentioned args ++ (found.map Manifest.inputs).getD []
  let dirs := Settings.defaultOutDir :: mentioned args ++ (found.map fun m => [m.outDir]).getD []
  (inputs ++ dirs ++ modules inputs dirs).foldlM (load cwd) files

def store (before after : FileTree) : IO Unit := do
  for (path, e) in after.entries do
    if !before.entries.contains (path, e) then
      if let some name := toString? path then
        match e with
        | .directory => IO.FS.createDirAll name
        | .file content => IO.FS.writeBinFile name ⟨content.toArray⟩

end Disk
end Cli
end FeltLowering

open FeltLowering in
def main (args : List String) : IO UInt32 := do
  let stdout ← IO.getStdout
  let cwd := Cli.Disk.ofString (toString (← IO.currentDir))
  let args := args.map Cli.Disk.ofString
  let files ← Cli.Disk.collect cwd args
  let outcome := Cli.run { files, cwd, terminal := ← stdout.isTty } args
  Cli.Disk.store files outcome.files
  stdout.write ⟨outcome.stdout.toArray⟩
  (← IO.getStderr).write ⟨outcome.stderr.toArray⟩
  return outcome.exit.toUInt32
