import FeltLowering.Codec.Toml.Scalar

/-
Reading TOML.

A table may be named before its header is met, by a key with dots or by the header of a
table inside it; it is then implied, and a header or a key may still give it once.
-/
namespace FeltLowering
namespace Toml

structure Reading where
  rest : List Char
  root : Table := []
  implied : List Key := []
  /-- The keys whose value is an array. -/
  arrays : List Key := []
  /-- The keys in the order they were met. -/
  keys : List Key := []

abbrev Reader := StateT Reading Option

namespace Reader

def peek? : Reader (Option Char) := return (← get).rest.head?

def advance (n : Nat) : Reader Unit := modify fun r => { r with rest := r.rest.drop n }

def skipBlanks : Reader Unit := modify fun r => { r with rest := r.rest.dropWhile isBlank }

def scan {α : Type} (f : List Char → Option (α × List Char)) : Reader α := do
  let r ← get
  let (a, rest) ← f r.rest
  set { r with rest }
  return a

/-! ## Keys -/

def part? (cs : List Char) : Option (Text × List Char) :=
  match cs with
  | '"' :: rest => text? false '"' rest
  | '\'' :: rest => text? false '\'' rest
  | _ =>
    let name := cs.takeWhile Key.isBare
    if name.isEmpty then none else some (Text.ofChars name, cs.drop name.length)

def key (stop : Char) : (fuel : Nat) → Reader Key
  | 0 => failure
  | fuel + 1 => do
    skipBlanks
    let p ← scan part?
    skipBlanks
    match ← peek? with
    | some c =>
      advance 1
      if c = stop then return [p]
      else if c = '.' then return p :: (← key stop fuel)
      else failure
    | none => failure

/-! ## The tree -/

def imply (k : Key) : Reader Unit :=
  modify fun r => { r with implied := k :: r.implied.filter (· ≠ k) }

def settle (k : Key) : Reader Unit := modify fun r => { r with implied := r.implied.filter (· ≠ k) }

/-- Notes whether the value of a key is an array.  An empty name in a table stands for
the table itself. -/
def note (context : Key) (name : Text) (isArray : Bool) : Reader Unit :=
  let full :=
    if !name.isEmpty then context ++ [name] else if context.isEmpty then [[]] else context
  modify fun r =>
    let others := r.arrays.filter (· ≠ full)
    { r with arrays := if isArray then full :: others else others }

def changeAt {α : Type} (k : Key) (f : Table → Option (Table × α)) : Reader α := do
  let r ← get
  let (root, a) ← Table.change f k r.root
  set { r with root }
  return a

/-- Gives a name in a table its value.  A name that has one already may be given again
if it is an array, which is replaced, or if it is implied, which keeps it. -/
def assign (context : Key) (name : Text) (v : Value) : Reader Unit := do
  let full := context ++ [name]
  let taken ← changeAt context fun t => some (t, (t.find? name).isSome)
  if !taken then changeAt context fun t => some (t.put name v, ())
  else if (← get).arrays.contains full then
    settle full
    changeAt context fun t => some (t.put name v, ())
  else if (← get).implied.contains full then settle full
  else failure

/-- Makes an implied table where there is nothing. -/
def ensure (k : Key) : Reader Unit := do
  let name := k.getLastD []
  let taken ← changeAt k.dropLast fun t => some (t, (t.find? name).isSome)
  if !taken then
    imply k
    changeAt k.dropLast fun t => some (t.put name (.table []), ())

def around (k : Key) : List Key := (List.range (k.length - 1)).map fun n => k.take (n + 1)

def openTable (k : Key) (several : Bool) : Reader Unit := do
  (around k).forM ensure
  let name := k.getLastD []
  if several then
    changeAt k.dropLast fun t =>
      match t.find? name with
      | none => some (t.put name (.tables [[]]), ())
      | some (.tables items) => some (t.put name (.tables (items ++ [[]])), ())
      | some _ => none
  else assign k.dropLast name (.table [])

/-- Opens the tables that the parts of a key in front of its last imply, and gives the
last of them. -/
def openImplied : (context : Key) → (parts : Key) → Reader Key
  | context, [] => return context
  | context, p :: parts => do
    let k := context ++ [p]
    imply k
    openTable k false
    openImplied k parts

def meet (k : Key) : Reader Unit := modify fun r => { r with keys := r.keys ++ [k] }

def tableAt (k : Key) : Reader Table := changeAt k fun t => some (t, t)

/-! ## Values -/

/-- Moves past blanks, line breaks and comments. -/
def filler (comment : Bool) : List Char → List Char
  | [] => []
  | c :: cs =>
    if comment then filler (c ≠ '\n') cs
    else if isBlank c || isBreak c then filler false cs
    else if c = '#' then filler true cs
    else c :: cs

def skipFiller : Reader Unit := modify fun r => { r with rest := filler false r.rest }

def word? (cs : List Char) : Option (Value × List Char) :=
  match cs with
  | 't' :: 'r' :: 'u' :: 'e' :: rest => some (.boolean true, rest)
  | 'f' :: 'a' :: 'l' :: 's' :: 'e' :: rest => some (.boolean false, rest)
  | _ => none

mutual

def value (context : Key) (name : Text) (inArray : Bool) : (fuel : Nat) → Reader Value
  | 0 => failure
  | fuel + 1 => do
    skipBlanks
    match ← peek? with
    | some '"' => return .text (← scan quoted?)
    | some '\'' => return .text (← scan quoted?)
    | some '[' =>
      advance 1
      note context name true
      return .array (← items context name fuel)
    | some '\x7b' =>
      advance 1
      let k := context ++ [name]
      imply k
      openTable k inArray
      entries k true fuel
      return .table (← tableAt k)
    | some c =>
      if c = 't' || c = 'f' then scan word?
      else
        scan fun cs => (number? cs).map fun rest => ((), rest)
        return .number
    | none => failure

def items (context : Key) (name : Text) : (fuel : Nat) → Reader (List Value)
  | 0 => failure
  | fuel + 1 => do
    skipFiller
    if (← peek?) = some ']' then
      advance 1
      return []
    else
      let v ← value context name true fuel
      skipFiller
      match ← peek? with
      | some ',' =>
        advance 1
        return v :: (← items context name fuel)
      | some ']' =>
        advance 1
        return [v]
      | _ => failure

/-- Reads the entries of a table in braces; no comma may end them. -/
def entries (k : Key) (first : Bool) : (fuel : Nat) → Reader Unit
  | 0 => failure
  | fuel + 1 => do
    skipBlanks
    if (← peek?) = some '\x7d' then
      if first then advance 1 else failure
    else
      pair k fuel
      skipBlanks
      match ← peek? with
      | some ',' =>
        advance 1
        entries k false fuel
      | some '\x7d' => advance 1
      | _ => failure

def pair (context : Key) : (fuel : Nat) → Reader Unit
  | 0 => failure
  | fuel + 1 => do
    let parts ← key '=' fuel
    let name := parts.getLastD []
    let inner ← openImplied context parts.dropLast
    meet (inner ++ [name])
    let v ← value inner name false fuel
    assign inner name v
    note inner name (match v with
      | .array _ => true
      | _ => false)

end

/-! ## Documents -/

/-- Moves past the end of a line, which only a comment may come before. -/
def endLine : Reader Unit := do
  skipBlanks
  match ← peek? with
  | none => return
  | some '#' => modify fun r => { r with rest := r.rest.dropWhile (· ≠ '\n') }
  | some c => if isBreak c then return else failure

def header (fuel : Nat) : Reader Key := do
  let several := (← peek?) = some '['
  if several then advance 1
  let k ← key ']' fuel
  if several then
    if (← peek?) = some ']' then advance 1 else failure
  openTable k several
  note k [] false
  meet k
  return k

/-- Reads the lines of a document; `context` is the table of the last header. -/
def lines : (fuel : Nat) → (context : Key) → Reader Unit
  | 0, _ => failure
  | fuel + 1, context => do
    skipFiller
    match ← peek? with
    | none => return
    | some '[' =>
      advance 1
      let k ← header fuel
      endLine
      lines fuel k
    | some _ =>
      pair context fuel
      endLine
      lines fuel context

end Reader

/-- Control characters; a carriage return counts as one unless a line feed follows. -/
def hasControls : List Char → Bool
  | [] => false
  | c :: cs =>
    (c.toNat = 0x7F || (c.toNat < 0x20 && c ≠ '\t' && c ≠ '\n' && c ≠ '\r') ||
      (c = '\r' && cs.head? ≠ some '\n')) || hasControls cs

structure Document where
  root : Table
  keys : List Key

namespace Document

def withoutMark : Text → Text
  | 0xFF :: 0xFE :: rest => rest
  | 0xFE :: 0xFF :: rest => rest
  | 0xEF :: 0xBB :: 0xBF :: rest => rest
  | t => t

def parse? (t : Text) : Option Document := do
  let cs ← (withoutMark t).chars?
  if hasControls cs then none
  else
    let (_, r) ← Reader.lines (2 * cs.length + 8) [] { rest := cs }
    return ⟨r.root, r.keys⟩

end Document
end Toml
end FeltLowering
