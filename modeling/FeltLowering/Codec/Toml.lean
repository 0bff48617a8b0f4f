import FeltLowering.Text.Utf8

/-
TOML documents.

Only texts, truth values, arrays and tables are kept; of numbers and dates it matters
that they are well formed.  Keys are full paths from the root.
-/
namespace FeltLowering
namespace Toml

abbrev Key := List Text

inductive Value where
  | text (t : Text)
  | boolean (b : Bool)
  /-- A number or a date. -/
  | number
  | array (items : List Value)
  | table (entries : List (Text × Value))
  /-- Tables under one header, of which the last is the one in use. -/
  | tables (items : List (List (Text × Value)))

abbrev Table := List (Text × Value)

namespace Value

def text? : Value → Option Text
  | .text t => some t
  | _ => none

def boolean? : Value → Option Bool
  | .boolean b => some b
  | _ => none

def table? : Value → Option Table
  | .table t => some t
  | _ => none

def texts? : Value → Option (List Text)
  | .array items => items.mapM text?
  | _ => none

end Value

namespace Table

def find? (t : Table) (k : Text) : Option Value := (t.lookup k)

def put (t : Table) (k : Text) (v : Value) : Table :=
  if t.any (·.1 = k) then t.map fun e => if e.1 = k then (k, v) else e else t ++ [(k, v)]

/-- Changes the table at a path.  A path leads through tables, and through the last of
several. -/
def change {α : Type} (f : Table → Option (Table × α)) : Key → Table → Option (Table × α)
  | [], t => f t
  | k :: path, t =>
    match find? t k with
    | some (.table sub) => do
      let (sub, a) ← change f path sub
      return (t.put k (.table sub), a)
    | some (.tables items) => do
      let (last, a) ← change f path (items.getLastD [])
      return (t.put k (.tables (items.dropLast ++ [last])), a)
    | _ => none

def get? (t : Table) : Key → Option Value
  | [] => none
  | [k] => find? t k
  | k :: path =>
    match find? t k with
    | some (.table sub) => get? sub path
    | _ => none

end Table

namespace Key

def isBare (c : Char) : Bool :=
  ('A' ≤ c && c ≤ 'Z') || ('a' ≤ c && c ≤ 'z') || ('0' ≤ c && c ≤ '9') || c = '_' || c = '-'

def writeChar (c : Char) : Text :=
  match c with
  | '"' => "\\\""
  | '\\' => "\\\\"
  | '\x08' => "\\b"
  | '\t' => "\\t"
  | '\n' => "\\n"
  | '\x0c' => "\\f"
  | '\r' => "\\r"
  | c => if c.toNat < 0x20 || c.toNat = 0x7F then "\\u" ++ Text.hexLower 4 c.toNat else Text.ofChar c

/-- A part of a key, in quotes unless it can do without. -/
def writePart (t : Text) : Text :=
  if t.isEmpty || !t.chars.all isBare then "\"" ++ t.chars.flatMap writeChar ++ "\"" else t

def write (k : Key) : Text := Text.join "." (k.map writePart)

end Key
end Toml
end FeltLowering
