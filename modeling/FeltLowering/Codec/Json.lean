import FeltLowering.Text.Utf8

/-
JSON values and their written form.

A number is kept as it is written.  Strings are written so that they can stand in a
web page: besides quotes, backslashes and control characters the characters `<`, `>`
and `&` and the two line separators beyond ASCII are escaped.
-/
namespace FeltLowering

inductive Json where
  | null
  | bool (b : Bool)
  | number (digits : Text)
  | string (t : Text)
  | array (elements : List Json)
  | object (members : List (Text × Json))
  deriving Repr

namespace Json

def ofNat (n : Nat) : Json := .number (Text.ofNat n)

def escape? (c : Nat) : Option Text :=
  match c with
  | 0x22 => some "\\\""
  | 0x5C => some "\\\\"
  | 0x08 => some "\\b"
  | 0x0C => some "\\f"
  | 0x0A => some "\\n"
  | 0x0D => some "\\r"
  | 0x09 => some "\\t"
  | 0x3C => some "\\u003c"
  | 0x3E => some "\\u003e"
  | 0x26 => some "\\u0026"
  | 0x2028 => some "\\u2028"
  | 0x2029 => some "\\u2029"
  | _ => if c < 0x20 then some ("\\u" ++ Text.hexLower 4 c) else none

def writeChar (c : Char) : Text := (escape? c.toNat).getD (Text.ofChar c)

/-- A piece of a string as it is written.  The replacement character stands for a stray
byte; it is no character that is escaped. -/
def writePiece : Text.Piece → Text
  | .scalar c => writeChar c
  | .stray _ => Text.ofChar (Char.ofNat 0xFFFD)

def writeString (t : Text) : Text := "\"" ++ t.pieces.flatMap writePiece ++ "\""

/-- The break in front of an element at the given depth; a value on one line has none. -/
def lineBreak (indent : Option Nat) : Text :=
  match indent with
  | none => []
  | some depth => 0x0A :: Text.spaces (2 * depth)

def colon (indent : Option Nat) : Text := if indent.isSome then ": " else ":"

mutual

/-- The written form of a value.  With an indent every element starts a line, two spaces
deeper than the value; without one the value is a single line. -/
def write (indent : Option Nat) : Json → Text
  | .null => "null"
  | .bool b => if b then "true" else "false"
  | .number t => t
  | .string t => writeString t
  | .array [] => "[]"
  | .array (x :: xs) =>
    "[" ++ writeElements (indent.map (· + 1)) (x :: xs) ++ lineBreak indent ++ "]"
  | .object [] => "\x7b\x7d"
  | .object (m :: ms) =>
    "\x7b" ++ writeMembers (indent.map (· + 1)) (m :: ms) ++ lineBreak indent ++ "\x7d"

def writeElements (indent : Option Nat) : List Json → Text
  | [] => []
  | [x] => lineBreak indent ++ write indent x
  | x :: xs => lineBreak indent ++ write indent x ++ "," ++ writeElements indent xs

def writeMembers (indent : Option Nat) : List (Text × Json) → Text
  | [] => []
  | [(k, v)] => lineBreak indent ++ writeString k ++ colon indent ++ write indent v
  | (k, v) :: ms =>
    lineBreak indent ++ writeString k ++ colon indent ++ write indent v ++ "," ++
      writeMembers indent ms

end

def compact (v : Json) : Text := v.write none

def pretty (v : Json) : Text := v.write (some 0)

end Json
end FeltLowering
