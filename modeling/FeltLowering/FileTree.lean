import FeltLowering.Path

/-
Files and directories as a value.

A path is followed element by element, as a file system does: every element but the last
must be a directory, and a parent reference leaves the directory it is found in.
-/
namespace FeltLowering

inductive Entry where
  | file (content : Text)
  | directory
  deriving DecidableEq, Repr

inductive FileFault where
  | missing
  | notDirectory
  | isDirectory
  | occupied
  deriving DecidableEq, Repr

def FileFault.text : FileFault → Text
  | .missing => "no such file or directory"
  | .notDirectory => "not a directory"
  | .isDirectory => "is a directory"
  | .occupied => "file exists"

/-- Entries by their clean absolute path; the root is always a directory. -/
structure FileTree where
  entries : List (Text × Entry) := []
  deriving DecidableEq, Repr

namespace FileTree

def pathOf (elements : List Text) : Text := Path.slash :: Text.join [Path.slash] elements

def get? (t : FileTree) (elements : List Text) : Option Entry :=
  if elements.isEmpty then some .directory
  else (t.entries.find? (·.1 = pathOf elements)).map Prod.snd

/-- Follows elements from the place at `done`, whose elements are in reverse. -/
def follow (t : FileTree) (done : List Text) : List Text → Except FileFault (List Text)
  | [] => .ok done
  | e :: rest =>
    match t.get? done.reverse with
    | none => .error .missing
    | some (.file _) => .error .notDirectory
    | some .directory =>
      if e.isEmpty || e = Text.ofString "." then t.follow done rest
      else if e = Text.ofString ".." then t.follow done.tail rest
      else t.follow (e :: done) rest

def elements (p : Text) : List Text := Text.splitOn Path.slash p

/-- The place a path leads to, by its elements below the root. -/
def resolve (t : FileTree) (cwd p : Text) : Except FileFault (List Text) :=
  if p.isEmpty then .error .missing
  else
    let start := if Path.isAbsolute p then [] else ((elements cwd).filter (!·.isEmpty)).reverse
    (t.follow start (elements p)).map List.reverse

def stat (t : FileTree) (cwd p : Text) : Except FileFault Entry := do
  let place ← t.resolve cwd p
  match t.get? place with
  | some e => .ok e
  | none => .error .missing

/-- The content of a file.  A directory can be opened but not read. -/
def read (t : FileTree) (cwd p : Text) : Except FileFault Text := do
  match ← t.stat cwd p with
  | .file content => .ok content
  | .directory => .error .isDirectory

def readMessage (p : Text) (fault : FileFault) : Text :=
  Text.ofString (if fault = .isDirectory then "read " else "open ") ++ p ++ ": " ++ fault.text

def put (t : FileTree) (path : Text) (e : Entry) : FileTree :=
  { entries := t.entries.filter (·.1 ≠ path) ++ [(path, e)] }

/-- Writes a file, which may be there already, into a directory that must be. -/
def write (t : FileTree) (cwd p content : Text) : Except FileFault FileTree := do
  let place ← t.resolve cwd p
  match t.get? place with
  | some .directory => .error .isDirectory
  | some (.file _) => .ok (t.put (pathOf place) (.file content))
  | none =>
    match t.get? place.dropLast with
    | some .directory => .ok (t.put (pathOf place) (.file content))
    | some (.file _) => .error .notDirectory
    | none => .error .missing

def unslashed (p : Text) : Text := (p.reverse.dropWhile (· = Path.slash)).reverse

/-- Makes a directory in one that must be there.  Slashes at the end of the path do not
matter. -/
def make (t : FileTree) (cwd p : Text) : Except FileFault FileTree := do
  let place ← if p.isEmpty || unslashed p ≠ [] then t.resolve cwd (unslashed p) else .ok []
  match t.get? place, t.get? place.dropLast with
  | some _, _ => .error .occupied
  | none, some .directory => .ok (t.put (pathOf place) .directory)
  | none, some (.file _) => .error .notDirectory
  | none, none => .error .missing

/-- The path without its last element and the slash before it, if anything is left. -/
def above? (p : Text) : Option Text :=
  let named := (unslashed p).reverse.dropWhile (· ≠ Path.slash)
  if named.tail.isEmpty then none else some named.tail.reverse

/-- Makes a directory and those above it.  A fault comes with the path it is found at. -/
def makeAll (t : FileTree) (cwd : Text) : (fuel : Nat) → (p : Text) →
    Except (Text × FileFault) FileTree
  | 0, _ => .ok t
  | fuel + 1, p =>
    match t.stat cwd p with
    | .ok .directory => .ok t
    | .ok (.file _) => .error (p, .notDirectory)
    | .error _ => do
      let t ← match above? p with
        | some parent => t.makeAll cwd fuel parent
        | none => .ok t
      match t.make cwd p, t.stat cwd p with
      | .ok t, _ => .ok t
      | .error _, .ok .directory => .ok t
      | .error fault, _ => .error (p, fault)

def makeDirectories (t : FileTree) (cwd p : Text) : Except (Text × FileFault) FileTree :=
  t.makeAll cwd (p.length + 1) p

def writeMessage (p : Text) (fault : FileFault) : Text := "open " ++ p ++ ": " ++ fault.text

end FileTree
end FeltLowering
