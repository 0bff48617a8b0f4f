import FeltLowering.Text

/-
Slash-separated paths.

All operations are lexical: no file is looked at.
-/
namespace FeltLowering
namespace Path

def slash : UInt8 := 0x2F

def isAbsolute (p : Text) : Bool := p.head? = some slash

def lastElement (p : Text) : Text := (p.reverse.takeWhile (· != slash)).reverse

/-- The extension of the last element, its dot included; empty if there is no dot. -/
def extension (p : Text) : Text :=
  let e := lastElement p
  match e.reverse.span (· != 0x2E) with
  | (tail, dot :: _) => dot :: tail.reverse
  | (_, []) => []

/-- Resolves the element `e` behind the elements `done`, which are in reverse.  A parent
reference takes an element away, is kept in a relative path and is dropped at the root. -/
def push (rooted : Bool) (done : List Text) (e : Text) : List Text :=
  if e.isEmpty || e = Text.ofString "." then done
  else if e = Text.ofString ".." then
    match done with
    | [] => if rooted then [] else [e]
    | d :: rest => if d = Text.ofString ".." then e :: d :: rest else rest
  else e :: done

/-- The shortest path that means the same. -/
def clean (p : Text) : Text :=
  let rooted := isAbsolute p
  let elements := ((Text.splitOn slash p).foldl (push rooted) []).reverse
  let body := Text.join [slash] elements
  if rooted then slash :: body else if body.isEmpty then "." else body

def join (parts : List Text) : Text :=
  match parts.filter (!·.isEmpty) with
  | [] => []
  | parts => clean (Text.join [slash] parts)

def parent (p : Text) : Text := clean ((p.reverse.dropWhile (· != slash)).reverse)

/-- The last element; a path of slashes is the root, and an empty one is here. -/
def base (p : Text) : Text :=
  if p.isEmpty then "." else
    let stripped := (p.reverse.dropWhile (· = slash)).reverse
    if stripped.isEmpty then [slash] else lastElement stripped

def absolute (cwd p : Text) : Text := if isAbsolute p then clean p else join [cwd, p]

def ancestors (p : Text) : List Text :=
  let elements := (Text.splitOn slash p).filter (!·.isEmpty)
  (List.range (elements.length + 1)).reverse.map fun n =>
    slash :: Text.join [slash] (elements.take n)

end Path
end FeltLowering
